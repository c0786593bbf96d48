/-!
# JSON values

The values that JSON texts denote. Whole numbers and fractional numbers are told apart, and
the fields of an object are kept in order.

Answers are built as values and written at the very end. So what is proved of an answer is proved
of its fields, and its text is a function of these.
-/

namespace ErDiagram

/-- **A JSON value.** Whole numbers are apart from the others because a record takes the one for
the other only under conditions. The fields of an object are a list, since they have an order; that
no name is there twice is seen to by the reader of texts and is not a part of the type. -/
inductive Json where
  | null
  | bool (b : Bool)
  | int (n : Int)
  | float (x : Float)
  | str (s : String)
  | arr (items : List Json)
  | obj (fields : List (String × Json))

namespace Json

instance : Inhabited Json := ⟨null⟩

/-- The value of a field of an object. -/
def field? : Json → String → Option Json
  | obj fields, name => fields.lookup name
  | _, _ => none

/-- A text, or nothing. -/
def ofString? : Option String → Json
  | some s => str s
  | none => null

/-- A number, or nothing. -/
def ofFloat? : Option Float → Json
  | some x => float x
  | none => null

/-- A list of texts. -/
def ofStrings (l : List String) : Json := arr (l.map str)

/-- A natural number. -/
def ofNat (n : Nat) : Json := int n

end Json

end ErDiagram
