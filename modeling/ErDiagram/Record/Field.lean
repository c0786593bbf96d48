import ErDiagram.Decimal.Reading
import ErDiagram.Json.Basic
import ErDiagram.Record.Issue
import ErDiagram.Text.Surrogate

/-!
# Fields of a record

A record lists named fields whose values are JSON values. A field is read by what it is to hold;
the readers are lenient where nothing is lost, so that a number or a truth value may also be given
as a text. Reading a whole record goes through all of its fields and collects every issue.

To collect issues is why `Checked` is no monad of errors: a part that fails does not keep the next
ones from being read. Records are read by an applicative chain, one field after the other, and the
issues come in the order of the fields.
-/

namespace ErDiagram

/-- **A record**: named fields, the first of a name being the one that counts. It may have fields
that nobody asks for, and these are no fault: only what is read can be wrong. -/
abbrev Record := List (String × Json)

namespace Record

/-- **What became of reading a value**: the value, or everything that is wrong with it. Where
something is wrong there is no value, also if most of the fields could be read. -/
inductive Checked (α : Type) where
  | ok (a : α)
  | issues (l : List Issue)

namespace Checked

/-- Whatever is wrong in both parts is reported, that of the first part first. -/
def andAlso {α β : Type} : Checked (α → β) → Checked α → Checked β
  | ok f, ok a => ok (f a)
  | ok _, issues l => issues l
  | issues l, ok _ => issues l
  | issues l, issues l' => issues (l ++ l')

instance : Applicative Checked where
  pure := ok
  seq f a := andAlso f (a ())

/-- The issues of a part, seen from one step further out. -/
def under {α : Type} (s : Step) : Checked α → Checked α
  | ok a => ok a
  | issues l => issues (l.map (Issue.under s))

/-- Goes on with a value, if there is one. -/
def thenCheck {α β : Type} (c : Checked α) (f : α → Checked β) : Checked β :=
  match c with
  | ok a => f a
  | issues l => issues l

end Checked

/-- One fault of the value itself. -/
def faulty {α : Type} (f : Fault) : Checked α := .issues [⟨[], f⟩]

/-! ## What a field may hold -/

/-- A text. -/
def string : Json → Checked String
  | .str s => .ok s
  | _ => faulty .stringType

/-- A text that is to be read as a value of another kind; it has to consist of characters. -/
private def asText {α : Type} (s : String) (read : List Char → Checked α) : Checked α :=
  let cs := s.toList
  if cs.any fun c => (Text.surrogate? c).isSome then faulty .stringUnicode else read cs

/-- Whether a character is a space around a number. -/
private def isSpace (c : Char) : Bool :=
  Text.isBlank c && !(28 ≤ c.toNat && c.toNat ≤ 31)

private def trimSpaces (cs : List Char) : List Char :=
  ((cs.dropWhile isSpace).reverse.dropWhile isSpace).reverse

/-- The texts for truth values, in lower case. -/
private def boolWord? (cs : List Char) : Option Bool :=
  let w := String.ofList (cs.map Char.toLower)
  if ["0", "off", "f", "false", "n", "no"].contains w then some false
  else if ["1", "on", "t", "true", "y", "yes"].contains w then some true
  else none

/-- Whether a whole number takes no more than 64 bits with its sign. -/
private def isWordSized (n : Int) : Bool :=
  -9223372036854775808 ≤ n && n ≤ 9223372036854775807

/-- The whole number that a finite number without a fraction is. -/
private def wholeNumber? (x : Float) : Option Int :=
  match Dyadic.ofFloat? x with
  | none => none
  | some d =>
    let (num, den) := d.fraction
    if num % den = 0 then
      let n : Int := Int.ofNat (num / den)
      some (if d.negative then -n else n)
    else none

/-- The whole number that a number is, if it lies strictly between the least and the greatest
of 64 bits. -/
private def smallWholeNumber (x : Float) : Checked Int :=
  if x.isNaN || x.isInf then faulty .finiteNumber
  else match wholeNumber? x with
    | none => faulty .intFromFloat
    | some n => if isWordSized n && n ≠ -9223372036854775808 then .ok n else faulty .intParsingSize

private def boolOfInt (n : Int) : Checked Bool :=
  if n = 0 then .ok false else if n = 1 then .ok true else faulty .boolParsing

/-- **A truth value**, or a word or number for one. -/
def bool : Json → Checked Bool
  | .bool b => .ok b
  | .str s => asText s fun cs =>
    match boolWord? cs with
    | some b => .ok b
    | none => faulty .boolParsing
  | .int n => if isWordSized n then boolOfInt n else faulty .boolType
  | .float x =>
    match smallWholeNumber x with
    | .ok n => boolOfInt n
    | .issues _ => faulty .boolType
  | _ => faulty .boolType

/-- A text without the underscores between its characters, if it has any and none of them
stands at an end or beside another. -/
private def withoutBars? (cs : List Char) : Option (List Char) :=
  let rec doubled : List Char → Bool
    | a :: b :: rest => (a == '_' && b == '_') || doubled (b :: rest)
    | _ => false
  if cs.head? == some '_' || cs.getLast? == some '_' || !cs.contains '_' || doubled cs then none
  else some (cs.filter (· != '_'))

/-- The number that a decimal text denotes: digits with a point and an exponent, or one of the
words for infinity and for no number. -/
private def decimal? (cs : List Char) : Option Float :=
  let (negative, body) := match cs with
    | '-' :: r => (true, r)
    | '+' :: r => (false, r)
    | r => (false, r)
  let word := String.ofList (body.map Char.toLower)
  if word == "inf" || word == "infinity" then some (if negative then -1.0 / 0.0 else 1.0 / 0.0)
  else if word == "nan" then some (0.0 / 0.0)
  else
    let (whole, rest) := Decimal.takeDigits body
    let (fraction, rest) := match rest with
      | '.' :: r => Decimal.takeDigits r
      | r => ([], r)
    if whole.isEmpty && fraction.isEmpty then none
    else
      let digits := Decimal.digitsValue (whole ++ fraction)
      let places : Int := fraction.length
      if rest.isEmpty then some (Decimal.toFloat negative digits (-places))
      else match Decimal.takeExponent? rest with
        | some (e, []) => some (Decimal.toFloat negative digits (e - places))
        | _ => none

/-- The `Float` nearest to a whole number, if that is finite. -/
private def floatOfInt (n : Int) : Checked Float :=
  let x := Decimal.toFloat (n < 0) n.natAbs 0
  if x.isFinite then .ok x else faulty .floatType

/-- **A number**, or a text or truth value for one. -/
def float : Json → Checked Float
  | .float x => .ok x
  | .int n => floatOfInt n
  | .bool b => .ok (if b then 1.0 else 0.0)
  | .str s => asText s fun cs =>
    match decimal? (trimSpaces cs) with
    | some x => .ok x
    | none =>
      match (withoutBars? cs).bind decimal? with
      | some x => .ok x
      | none => faulty .floatParsing
  | _ => faulty .floatType

/-- The most characters that a whole number may be written with. -/
private def intLimit : Nat := 4300

/-- **A whole number in its shortest form**: digits without a zero in front, behind a minus
sign or nothing. Too many of them are a fault of their own, whatever follows them. -/
private def shortestInt (cs : List Char) : Except Fault Int :=
  let (negative, body) := match cs with
    | '-' :: r => (true, r)
    | r => (false, r)
  let (ds, rest) := Decimal.takeDigits body
  if ds.isEmpty || (ds.head? == some '0' && ds.length ≠ 1) then .error .intParsing
  else if intLimit < cs.length - rest.length then .error .intParsingSize
  else if !rest.isEmpty then .error .intParsing
  else
    let n : Int := Decimal.digitsValue ds
    .ok (if negative then -n else n)

/-- What is left of a whole number without the zeros in front of it and the underscores
between these. Of nothing but zeros the last one stays, also before a point. -/
private def withoutLeadingZeros? : List Char → Option (List Char)
  | '0' :: rest => go '0' rest
  | c :: rest => if '1' ≤ c ∧ c ≤ '9' then some (c :: rest) else none
  | [] => none
where
  /-- What is left after zeros, of which the last character is kept. -/
  go (last : Char) : List Char → Option (List Char)
    | [] => some [last]
    | c :: rest =>
      if c = '0' ∨ c = '_' then go c rest
      else if ('1' ≤ c ∧ c ≤ '9') ∨ c = '-' then some (c :: rest)
      else if c = '.' then some (last :: c :: rest)
      else none

/-- A text without a point and the zeros after it, of which there is at least one. -/
private def withoutZeroPlaces (cs : List Char) : List Char :=
  match cs.dropWhile (· != '.') with
  | _ :: places =>
    if !places.isEmpty && places.all (· == '0') then cs.takeWhile (· != '.') else cs
  | [] => cs

/-- The shortest form of a whole number that is written at more length: between spaces, with a
plus sign, with zeros in front or behind a point, or with underscores. -/
private def shortenInt? (cs : List Char) : Option (List Char) := do
  let (sign, cs) : List Char × List Char := match trimSpaces cs with
    | '+' :: r => ([], r)
    | '-' :: r => (['-'], r)
    | r => ([], r)
  let cs ← withoutLeadingZeros? cs
  let cs := withoutZeroPlaces cs
  pure (sign ++ (withoutBars? cs).getD cs)

/-- The whole number that a text denotes. A text in its shortest form can be too long, one that
has to be shortened is wrong in every other case. -/
private def intText (cs : List Char) : Checked Int :=
  match shortestInt cs with
  | .ok n => .ok n
  | .error .intParsingSize => faulty .intParsingSize
  | .error _ =>
    match (shortenInt? cs).map shortestInt with
    | some (.ok n) => .ok n
    | _ => faulty .intParsing

/-- **A whole number**, or a number, text or truth value that is one. -/
def int : Json → Checked Int
  | .int n => .ok n
  | .bool b => .ok (if b then 1 else 0)
  | .float x => smallWholeNumber x
  | .str s => asText s intText
  | _ => faulty .intType

/-- Nothing, or a value of another kind. -/
def nullable {α : Type} (read : Json → Checked α) : Json → Checked (Option α)
  | .null => .ok none
  | v => (read v).thenCheck fun a => .ok (some a)

/-- The items of a list, of which the first has the given index. -/
def listFrom {α : Type} (read : Json → Checked α) : Nat → List Json → Checked (List α)
  | _, [] => .ok []
  | i, v :: vs => List.cons <$> (read v).under (.index i) <*> listFrom read (i + 1) vs

/-- **A list** of values of another kind. -/
def list {α : Type} (read : Json → Checked α) : Json → Checked (List α)
  | .arr items => listFrom read 0 items
  | _ => faulty .listType

/-- A record inside another. -/
def nested {α : Type} (read : Record → Checked α) : Json → Checked α
  | .obj fields => read fields
  | _ => faulty .recordType

/-! ## Fields -/

/-- The value of a field. -/
def get? (r : Record) (name : String) : Option Json := r.lookup name

/-- Whether a record has a field. -/
def has (r : Record) (name : String) : Bool := r.any (·.1 == name)

/-- Gives a field a value, in the place of one of the same name. -/
def set (r : Record) (name : String) (v : Json) : Record :=
  if r.has name then r.map fun f => if f.1 == name then (name, v) else f else r ++ [(name, v)]

/-- **Other names for fields.** Each pair of an old and a new name renames a field, unless the
record has a field of the new name already. -/
def rename (r : Record) : List (String × String) → Record
  | [] => r
  | (old, new) :: more =>
    let r := match r.get? old with
      | some v => if r.has new then r else r.filter (·.1 != old) ++ [(new, v)]
      | none => r
    rename r more

/-- **A field that must be there.** What is wrong with its value and that it is missing are two
faults with the same path. -/
def required {α : Type} (r : Record) (name : String) (read : Json → Checked α) : Checked α :=
  match r.get? name with
  | some v => (read v).under (.field name)
  | none => .issues [⟨[.field name], .missing⟩]

/-- **A field that has a value also when it is left out.** The default is not read but taken as it
is, so that it is not checked either; that it would pass is a matter of the caller. -/
def optional {α : Type} (r : Record) (name : String) (default : α) (read : Json → Checked α) :
    Checked α :=
  match r.get? name with
  | some v => (read v).under (.field name)
  | none => .ok default

end Record

end ErDiagram
