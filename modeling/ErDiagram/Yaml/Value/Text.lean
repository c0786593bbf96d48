import ErDiagram.Yaml.Value.Basic
import ErDiagram.Yaml.Value.Scalar

/-!
# The text of a value

Mappings and lists are written as blocks: each pair and each item starts a line of its own, and
what belongs to a key is indented by two more spaces. The items of a list under a key stand right
below the key. A key that is long, empty or of several lines stands behind a question mark.

Columns are handed down, since a long scalar is folded where its line gets too long, and that
depends on what stands in front of it.
-/

namespace ErDiagram.Yaml.Value

/-- How many more spaces the parts of a value have. -/
def indentStep : Nat := 2

/-- Whether a text can be the key of a pair on one line. -/
def isSimpleKey (s : String) : Bool :=
  let cs := s.toList
  !cs.isEmpty && !cs.any breaksLine && cs.length + 5 < 128

/-- The items of a list, in the given column; the first stands where the cursor is. -/
def itemLines (indent : Nat) : List String → List (List Char)
  | [] => []
  | s :: rest =>
    ('-' :: ' ' :: scalar (indent + indentStep) true (indent + 2) s) :: itemLines indent rest

/-- Lines that start in one column, with the breaks between them. -/
def joinLines (indent : Nat) : List (List Char) → List Char
  | [] => []
  | [l] => l
  | l :: rest => l ++ newLine indent ++ joinLines indent rest

/-- A scalar behind a colon that ends in the given column. -/
private def afterColon (indent column : Nat) (s : String) : List Char :=
  ' ' :: scalar (indent + indentStep) true (column + 1) s

mutual

/-- **What follows the colon of a key.** The pair starts in column `indent` and the colon ends
in the given column; `complex` says that the colon starts a line of its own. -/
def behindColon (complex : Bool) (indent column : Nat) : Value → List Char
  | null => ' ' :: 'n' :: 'u' :: 'l' :: ['l']
  | bool true => ' ' :: 't' :: 'r' :: 'u' :: ['e']
  | bool false => ' ' :: 'f' :: 'a' :: 'l' :: 's' :: ['e']
  | text s => afterColon indent column s
  | texts [] => [' ', '[', ']']
  | texts (s :: rest) =>
    if complex then
      ' ' :: joinLines (indent + indentStep) (itemLines (indent + indentStep) (s :: rest))
    else newLine indent ++ joinLines indent (itemLines indent (s :: rest))
  | map [] => [' ', '\x7b', '\x7d']
  | map (p :: rest) =>
    let inner := indent + indentStep
    (if complex then [' '] else newLine inner) ++ joinLines inner (pairLines inner (p :: rest))

/-- The pairs of a mapping that starts in the given column. -/
def pairLines (indent : Nat) : List (String × Value) → List (List Char)
  | [] => []
  | (key, value) :: rest =>
    let inner := indent + indentStep
    let pair :=
      if isSimpleKey key then
        let k := scalar inner false indent key
        k ++ ':' :: behindColon false indent (indent + k.length + 1) value
      else
        '?' :: ' ' :: scalar inner true (indent + 2) key ++ newLine indent ++
          ':' :: behindColon true indent (indent + 1) value
    pair :: pairLines indent rest

end

/-- **The text of a mapping** as a whole document. A mapping without pairs has no line to stand on,
and is written in braces. -/
def document (pairs : List (String × Value)) : String :=
  match pairs with
  | [] => "\x7b\x7d\n"
  | _ => String.ofList (joinLines 0 (pairLines 0 pairs) ++ ['\n'])

end ErDiagram.Yaml.Value
