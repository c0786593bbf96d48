import ErDiagram.Yaml.Tag
import ErDiagram.Yaml.Token.Basic

/-!
# YAML nodes

A document is a tree of scalars, sequences and mappings. Every node has a tag and the line it
starts on, and a mapping keeps its pairs in the order of the text, repeated keys included.

An alias stands for the node of its anchor, and this node is put in its place, with the lines that
it has where it is written. So a tree may be deeper than its text shows: aliases within aliases
can nest it as deeply as there are lines.

An alias inside the very node that it refers to makes the tree infinite. Such a tree is unfolded a
fixed number of times, and where it is cut off the alias itself stands as `Node.enclosing`.
-/

namespace ErDiagram.Yaml

/-- **A node of a document.** Lines are counted from zero, as the reader of the text counts them;
what is answered counts from one (`Node.line`). -/
inductive Node where
  | scalar (tag : String) (style : ScalarStyle) (text : String) (line : Nat)
  | sequence (tag : String) (items : List Node) (line : Nat)
  | mapping (tag : String) (pairs : List (Node × Node)) (line : Nat)
  /-- The node of an anchor, seen from inside that node. -/
  | enclosing (anchor : String)

namespace Node

instance : Inhabited Node := ⟨enclosing ""⟩

/-- The line, counted from one, that a node starts on. -/
def line : Node → Nat
  | scalar _ _ _ n => n + 1
  | sequence _ _ n => n + 1
  | mapping _ _ n => n + 1
  | enclosing _ => 1

/-- The tag of a node. -/
def tag : Node → String
  | scalar t _ _ _ => t
  | sequence t _ _ => t
  | mapping t _ _ => t
  | enclosing _ => Tag.seq

/-- Whether a node is a scalar. -/
def isScalar : Node → Bool
  | scalar .. => true
  | _ => false

/-- Whether the tag of a node ends in the given word after a colon. -/
def tagged (n : Node) (word : String) : Bool :=
  (':' :: word.toList).isSuffixOf n.tag.toList

/-- **The text of a scalar that is not null.** Whether a scalar is null is a matter of its tag and
not of its text: in quotes the word for null is a text like any other. -/
def text? : Node → Option String
  | n@(scalar _ _ s _) => if n.tagged "null" then none else some s
  | _ => none

mutual

/-- Puts a node in the place of the aliases of an anchor that stand inside it. -/
def close (anchor : String) (whole : Node) : Node → Node
  | scalar t style s n => scalar t style s n
  | sequence t items n => sequence t (closeItems anchor whole items) n
  | mapping t pairs n => mapping t (closePairs anchor whole pairs) n
  | enclosing a => if a = anchor then whole else enclosing a

/-- `close` on the items of a sequence. -/
def closeItems (anchor : String) (whole : Node) : List Node → List Node
  | [] => []
  | n :: ns => close anchor whole n :: closeItems anchor whole ns

/-- `close` on the pairs of a mapping. -/
def closePairs (anchor : String) (whole : Node) : List (Node × Node) → List (Node × Node)
  | [] => []
  | (k, v) :: ps => (close anchor whole k, close anchor whole v) :: closePairs anchor whole ps

end

/-- Unfolds a node into the aliases of its anchor that stand inside it, some times over. -/
def unfold (anchor : String) (n : Node) : Nat → Node
  | 0 => n
  | depth + 1 => n.close anchor (unfold anchor n depth)

end Node

end ErDiagram.Yaml
