import ErDiagram.Decimal.Reading
import ErDiagram.Json.Basic
import ErDiagram.Text.Surrogate

/-!
# Reading JSON

A reader for JSON texts that also knows the three words for the numbers that JSON itself
cannot write. An object keeps a repeated field at the first of its places and with the last of
its values.

Two numbers bound the recursion. The first is the limit that there is for nested arrays and objects,
and going beyond it is a failure of its own. The second makes the recursion structural: it is longer
than the text, and each call takes at least one character.
-/

namespace ErDiagram.Json

open Decimal

/-- The characters that may stand between tokens. -/
private def skipBlanks (cs : List Char) : List Char :=
  cs.dropWhile fun c => c == ' ' || c == '\t' || c == '\n' || c == '\r'

private def hexValue? (c : Char) : Option Nat :=
  if '0' ≤ c ∧ c ≤ '9' then some (c.toNat - 48)
  else if 'a' ≤ c ∧ c ≤ 'f' then some (c.toNat - 87)
  else if 'A' ≤ c ∧ c ≤ 'F' then some (c.toNat - 55)
  else none

private def unit? : List Char → Option (Nat × List Char)
  | a :: b :: c :: d :: rest => do
    let a ← hexValue? a
    let b ← hexValue? b
    let c ← hexValue? c
    let d ← hexValue? d
    pure (((a * 16 + b) * 16 + c) * 16 + d, rest)
  | _ => none

/-- The character of an escape by code units: one unit, or two that belong together. For a unit
that is half of no pair a character stands in. -/
private def escaped? (cs : List Char) : Option (Char × List Char) := do
  let (high, rest) ← unit? cs
  let alone : Char × List Char :=
    (if Text.isSurrogate high then Text.standIn high else Char.ofNat high, rest)
  if 0xd800 ≤ high && high ≤ 0xdbff then
    match rest with
    | '\\' :: 'u' :: more =>
      match unit? more with
      | some (low, rest) =>
        if 0xdc00 ≤ low && low ≤ 0xdfff then
          pure (Char.ofNat (0x10000 + (high - 0xd800) * 0x400 + (low - 0xdc00)), rest)
        else pure alone
      | none => pure alone
    | _ => pure alone
  else pure alone

/-- The characters of a string up to its closing quote, and what follows the quote. -/
private def string? : Nat → List Char → List Char → Option (String × List Char)
  | 0, _, _ => none
  | _ + 1, _, [] => none
  | fuel + 1, acc, c :: rest =>
    if c = '"' then some (String.ofList acc.reverse, rest)
    else if c.toNat < 32 then none
    else if c = '\\' then
      match rest with
      | '"' :: r => string? fuel ('"' :: acc) r
      | '\\' :: r => string? fuel ('\\' :: acc) r
      | '/' :: r => string? fuel ('/' :: acc) r
      | 'b' :: r => string? fuel ('\x08' :: acc) r
      | 'f' :: r => string? fuel ('\x0c' :: acc) r
      | 'n' :: r => string? fuel ('\n' :: acc) r
      | 'r' :: r => string? fuel ('\r' :: acc) r
      | 't' :: r => string? fuel ('\t' :: acc) r
      | 'u' :: r =>
        match escaped? r with
        | some (d, r) => string? fuel (d :: acc) r
        | none => none
      | _ => none
    else string? fuel (c :: acc) rest

/-- How many digits a whole number may have. -/
def digitLimit : Nat := 4300

/-- A number without its sign, and what follows it. -/
private def number? (negative : Bool) (cs : List Char) : Option (Json × List Char) :=
  let (whole, rest) := takeDigits cs
  let (whole, rest) := match whole with
    | '0' :: d :: ds => (['0'], d :: ds ++ rest)
    | w => (w, rest)
  if whole.isEmpty then none
  else
    let (fraction, rest) := match rest with
      | '.' :: more =>
        let (ds, r) := takeDigits more
        if ds.isEmpty then ([], rest) else (ds, r)
      | r => ([], r)
    let exponent := takeExponent? rest
    if fraction.isEmpty && exponent.isNone then
      let n : Int := digitsValue whole
      if digitLimit < whole.length then none
      else some (int (if negative then -n else n), rest)
    else
      let (e, rest) := exponent.getD (0, rest)
      some (float (toFloat negative (digitsValue (whole ++ fraction)) (e - fraction.length)), rest)

/-- Gives a field its value, in the place of an earlier field of the same name. -/
private def setField (fields : List (String × Json)) (name : String) (v : Json) :
    List (String × Json) :=
  if fields.any (·.1 == name) then
    fields.map fun f => if f.1 == name then (name, v) else f
  else fields ++ [(name, v)]

/-- **Why a text is no JSON value.** The depth is a reason of its own, since it is answered
differently: a text that is malformed is said to be so, and one that is too deep stops the
reader. -/
inductive Failure where
  /-- It breaks a rule of the format. -/
  | malformed
  /-- Its arrays and objects are nested too deeply. -/
  | tooDeep
deriving Repr, DecidableEq

/-- How deeply arrays and objects may be nested. -/
def nestingLimit : Nat := 990

/-- A value and what follows it, or a broken rule. -/
private def orMalformed {α : Type} (v : Option α) : Except Failure α :=
  match v with
  | some a => .ok a
  | none => .error .malformed

mutual

/-- A value and what follows it. The first number is how deeply it may be nested. -/
private def value : Nat → Nat → List Char → Except Failure (Json × List Char)
  | _, 0, _ => .error .malformed
  | levels, fuel + 1, cs =>
    match skipBlanks cs with
    | 'n' :: 'u' :: 'l' :: 'l' :: r => .ok (null, r)
    | 't' :: 'r' :: 'u' :: 'e' :: r => .ok (bool true, r)
    | 'f' :: 'a' :: 'l' :: 's' :: 'e' :: r => .ok (bool false, r)
    | 'N' :: 'a' :: 'N' :: r => .ok (float (0.0 / 0.0), r)
    | 'I' :: 'n' :: 'f' :: 'i' :: 'n' :: 'i' :: 't' :: 'y' :: r => .ok (float (1.0 / 0.0), r)
    | '-' :: 'I' :: 'n' :: 'f' :: 'i' :: 'n' :: 'i' :: 't' :: 'y' :: r =>
      .ok (float (-1.0 / 0.0), r)
    | '"' :: r => (orMalformed (string? (r.length + 1) [] r)).map fun (s, r) => (str s, r)
    | '[' :: r =>
      match levels with
      | 0 => .error .tooDeep
      | levels + 1 =>
        match skipBlanks r with
        | ']' :: r => .ok (arr [], r)
        | _ => items levels fuel [] r
    | '{' :: r =>
      match levels with
      | 0 => .error .tooDeep
      | levels + 1 =>
        match skipBlanks r with
        | '}' :: r => .ok (obj [], r)
        | _ => fields levels fuel [] r
    | '-' :: r => orMalformed (number? true r)
    | r => orMalformed (number? false r)
termination_by structural _ fuel => fuel

/-- The items of an array up to its closing bracket. -/
private def items : Nat → Nat → List Json → List Char → Except Failure (Json × List Char)
  | _, 0, _, _ => .error .malformed
  | levels, fuel + 1, acc, cs =>
    match value levels fuel cs with
    | .error e => .error e
    | .ok (v, r) =>
      match skipBlanks r with
      | ',' :: r => items levels fuel (v :: acc) r
      | ']' :: r => .ok (arr (v :: acc).reverse, r)
      | _ => .error .malformed
termination_by structural _ fuel => fuel

/-- The fields of an object up to its closing brace. -/
private def fields :
    Nat → Nat → List (String × Json) → List Char → Except Failure (Json × List Char)
  | _, 0, _, _ => .error .malformed
  | levels, fuel + 1, acc, cs =>
    match skipBlanks cs with
    | '"' :: r =>
      match string? (r.length + 1) [] r with
      | none => .error .malformed
      | some (name, r) =>
        match skipBlanks r with
        | ':' :: r =>
          match value levels fuel r with
          | .error e => .error e
          | .ok (v, r) =>
            let acc := setField acc name v
            match skipBlanks r with
            | ',' :: r => fields levels fuel acc r
            | '}' :: r => .ok (obj acc, r)
            | _ => .error .malformed
        | _ => .error .malformed
    | _ => .error .malformed
termination_by structural _ fuel => fuel

end

/-- **The value that a JSON text denotes**, or why it denotes none. The whole text has to be one
value, and what follows it may only be blank. -/
def read (text : String) : Except Failure Json :=
  let cs := text.toList
  match value nestingLimit (cs.length + 1) cs with
  | .ok (v, r) => if (skipBlanks r).isEmpty then .ok v else .error .malformed
  | .error e => .error e

/-- The value that a JSON text denotes, if it denotes one. -/
def parse? (text : String) : Option Json := (read text).toOption

end ErDiagram.Json
