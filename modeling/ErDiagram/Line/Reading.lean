import ErDiagram.Line.Shape

/-!
# Reading lines

Lines are read one after the other into a diagram. The only thing that one line tells the next is
which attribute block is open.

What a line says is decided first (`Line.classify`), with regard to whether a block is open, and
what it does comes second (`State.step`). The second is a function of what the line says, so that
a line of another spelling that says the same does the same. A run over lines stops at the first
error, and at the end no block may be open: the error for that is on the line which opened the
block.

The diagram that is read into may hold something already. A document has lines in several places,
as texts in a section or as entries of a list, and all of them are read by what is defined here.
-/

namespace ErDiagram

open Text

/-- **A line of text and its number**, counted from one, in the text that it belongs to. The
number is carried along, since a line may come from a block in the middle of a document. -/
structure NumberedLine where
  /-- The text, without its line break. -/
  text : String
  /-- Its number. -/
  line : Nat
deriving Repr, DecidableEq

namespace NumberedLine

/-- The lines of a text, numbered. -/
def ofLines (ls : List (List Char)) : List NumberedLine :=
  ls.zipIdx.map fun (cs, i) => ⟨String.ofList cs, i + 1⟩

/-- The text without the blanks around it, as errors quote it. -/
def quoted (l : NumberedLine) : String := String.ofList (strip l.text.toList)

/-- An error on this line. -/
def fail {α : Type} (l : NumberedLine) (cause : SyntaxCause) : Except SyntaxError α :=
  .error ⟨cause, l.line⟩

/-- What the line says. -/
def classify (l : NumberedLine) (inBlock : Bool) : Except SyntaxError Line :=
  (Line.classify inBlock l.text).mapError (⟨·, l.line⟩)

end NumberedLine

namespace Line

/-- Whether a name or key is the header that may stand above relationship lines. It counts in any
letter case, so that a bare line with this name is a header and declares no entity. -/
def isHeader (s : String) : Bool := lower s == "erdiagram"

/-- Whether a key gives the title. -/
def isTitleKey (s : String) : Bool := lower s == "title" || lower s == "titulo"

/-- An attribute block that is open: its entity, and the line that opened it. The line is only
needed for the error of a block that is never closed. -/
structure Block where
  /-- The entity that the attributes belong to. -/
  entity : String
  /-- The line of the opening brace. -/
  line : Nat
deriving Repr, DecidableEq

/-- The state between two lines: the block that is open, if any, and the diagram so far. Whether a
title has been given is a matter of the diagram. -/
structure State where
  /-- The open block. -/
  block : Option Block := none
  /-- The diagram so far. -/
  diagram : Diagram := {}

/-- **Reads a line that says the given thing.** A header is skipped wherever it stands, as a name
or as a key; a bare name declares its entity and leaves a block as it is. A relationship inside of
a block is recognized and refused, so that the error can name the block that was not closed. -/
def State.step (s : State) (l : NumberedLine) : Line → Except SyntaxError State
  | .blank => .ok s
  | .relationship source cardinality target label =>
    match s.block with
    | some b => l.fail (.relationshipInBlock b.entity)
    | none =>
      let r : Relationship :=
        { source, target, cardinality, label, line := some (Int.ofNat l.line) }
      .ok { s with diagram := s.diagram.addRelationship r }
  | .attribute name dataType flags =>
    match s.block with
    | none => l.fail (.attributeOutsideBlock l.quoted)
    | some b =>
      .ok { s with diagram := s.diagram.addAttribute b.entity (.ofFlags name dataType flags) }
  | .entity name opensBlock =>
    if isHeader name then .ok s
    else
      let block := if opensBlock then some ⟨name, l.line⟩ else s.block
      .ok { block, diagram := s.diagram.declare name }
  | .blockEnd =>
    match s.block with
    | none => l.fail .unexpectedBlockEnd
    | some _ => .ok { s with block := none }
  | .key name value =>
    if isTitleKey name then .ok { s with diagram := { s.diagram with title := value } }
    else if isHeader name then .ok s
    else l.fail (.unrecognizedLine l.quoted)

/-- Reads one line. -/
def State.read (s : State) (l : NumberedLine) : Except SyntaxError State :=
  match l.classify s.block.isSome with
  | .error e => .error e
  | .ok line => s.step l line

/-- Reads lines from a state on; at the end no block may be open. The error for that is found last
but stands first: it has the number of the line that opened the block. -/
def State.readAll (s : State) : List NumberedLine → Except SyntaxError Diagram
  | [] =>
    match s.block with
    | none => .ok s.diagram
    | some b => .error ⟨.unclosedBlock b.entity, b.line⟩
  | l :: ls =>
    match s.read l with
    | .error e => .error e
    | .ok s => s.readAll ls

end Line

/-- **Reads lines into a diagram** that may hold something already. A block that is open in front of
the lines cannot go on in them, since the lines are a text of their own. -/
def Diagram.readLines (d : Diagram) (ls : List NumberedLine) : Except SyntaxError Diagram :=
  (Line.State.mk none d).readAll ls

end ErDiagram
