import ErDiagram.Decimal.Shortest
import ErDiagram.Json.Basic
import ErDiagram.Text.Surrogate

/-!
# Writing JSON

Values are written on one line, with a space after each comma and colon and with every
character beyond ASCII escaped.

A value has many texts, and one of them is chosen here, down to the digits of a number: they are the
shortest that read back as the same number. So answers can be compared as texts.
-/

namespace ErDiagram.Json

/-- Four hexadecimal digits. -/
private def hex4 (n : Nat) : List Char :=
  let ds := Nat.toDigits 16 n
  List.replicate (4 - ds.length) '0' ++ ds

/-- One code unit as an escape. -/
private def unitEscape (n : Nat) : List Char := '\\' :: 'u' :: hex4 n

/-- A character inside a string. -/
private def escapeChar (c : Char) : List Char :=
  if c = '"' then ['\\', '"']
  else if c = '\\' then ['\\', '\\']
  else if c = '\n' then ['\\', 'n']
  else if c = '\r' then ['\\', 'r']
  else if c = '\t' then ['\\', 't']
  else if c = '\x08' then ['\\', 'b']
  else if c = '\x0c' then ['\\', 'f']
  else if 32 ≤ c.toNat ∧ c.toNat < 127 then [c]
  else if Text.unitOf c < 0x10000 then unitEscape (Text.unitOf c)
  else
    let n := c.toNat - 0x10000
    unitEscape (0xd800 + n / 0x400) ++ unitEscape (0xdc00 + n % 0x400)

/-- A string in quotes. -/
def quote (s : String) : String :=
  String.ofList ('"' :: s.toList.flatMap escapeChar ++ ['"'])

/-- The text of a positive decimal: positional from `10 ^ -4` up to below `10 ^ 16`, with a
point in any case, and with an exponent of at least two digits elsewhere. -/
private def decimalText (d : Decimal.Digits) : String :=
  let ds := Nat.toDigits 10 d.digits
  let point : Int := ds.length + d.exponent
  if -4 < point ∧ point ≤ 16 then
    match point with
    | .ofNat p =>
      if p = 0 then String.ofList ('0' :: '.' :: ds)
      else if ds.length ≤ p then
        String.ofList (ds ++ List.replicate (p - ds.length) '0' ++ ['.', '0'])
      else String.ofList (ds.take p ++ '.' :: ds.drop p)
    | .negSucc p => String.ofList ('0' :: '.' :: List.replicate (p + 1) '0' ++ ds)
  else
    let e := point - 1
    let sign := if e < 0 then '-' else '+'
    let eds := Nat.toDigits 10 e.natAbs
    let eds := if eds.length < 2 then '0' :: eds else eds
    let lead := match ds with
      | [c] => [c]
      | c :: rest => c :: '.' :: rest
      | [] => []
    String.ofList (lead ++ 'e' :: sign :: eds)

/-- **The text of a number**: the shortest that reads back. It has a point or an exponent even if
the number is whole, by which it is told from a whole number when it is read again. -/
def floatText (x : Float) : String :=
  match Dyadic.ofFloat? x with
  | none => if x.isNaN then "NaN" else if x < 0.0 then "-Infinity" else "Infinity"
  | some d =>
    let body := if d.mantissa = 0 then "0.0" else decimalText (Decimal.shortest d)
    if d.negative then "-" ++ body else body

mutual

/-- **The text of a value.** -/
def render : Json → String
  | null => "null"
  | bool b => if b then "true" else "false"
  | int n => toString n
  | float x => floatText x
  | str s => quote s
  | arr items => "[" ++ String.intercalate ", " (renderItems items) ++ "]"
  | obj fields => "\x7b" ++ String.intercalate ", " (renderFields fields) ++ "\x7d"

/-- The texts of the items of an array. -/
def renderItems : List Json → List String
  | [] => []
  | v :: vs => v.render :: renderItems vs

/-- The texts of the fields of an object. -/
def renderFields : List (String × Json) → List String
  | [] => []
  | (name, v) :: fs => (quote name ++ ": " ++ v.render) :: renderFields fs

end

end ErDiagram.Json
