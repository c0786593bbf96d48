import ErDiagram.Text.CharClass

/-!
# Tags of plain scalars

A scalar without quotes and without a tag of its own is tagged by its form: some words are
truth values, some are nulls, some forms are numbers or times, and everything else is text.
The same forms decide whether a text can be written without quotes.

A form is a test on the characters and not a pattern that is interpreted. Where a pattern could be
matched in several ways, as with one or two digits of a month, the test follows all of them.
-/

namespace ErDiagram.Yaml.Tag

/-- What all tags of the format itself start with. -/
def core : String := "tag:yaml.org,2002:"

/-- The tag of texts. -/
def str : String := core ++ "str"

/-- The tag of sequences. -/
def seq : String := core ++ "seq"

/-- The tag of mappings. -/
def map : String := core ++ "map"

/-- The tag of truth values. -/
def bool : String := core ++ "bool"

/-- The tag of nulls. -/
def null : String := core ++ "null"

/-- The words for truth values. -/
def boolWords : List String :=
  ["yes", "Yes", "YES", "no", "No", "NO", "true", "True", "TRUE", "false", "False", "FALSE",
    "on", "On", "ON", "off", "Off", "OFF"]

/-- The words for nulls. -/
def nullWords : List String := ["", "~", "null", "Null", "NULL"]

private def isDigit (c : Char) : Bool := '0' ≤ c && c ≤ '9'

private def digitOrBar (c : Char) : Bool := isDigit c || c == '_'

/-- A text without the sign it may start with. -/
private def unsigned : List Char → List Char
  | '+' :: r => r
  | '-' :: r => r
  | r => r

/-- An exponent, which has a sign, or nothing. -/
private def exponentOrNothing : List Char → Bool
  | [] => true
  | e :: s :: ds =>
    (e == 'e' || e == 'E') && (s == '+' || s == '-') && !ds.isEmpty && ds.all isDigit
  | _ => false

/-- The places of a number to the base sixty after its first, and what follows them. At least
one place is needed. -/
private def sixties : Bool → List Char → Option (List Char)
  | _, ':' :: a :: b :: r =>
    if isDigit a then
      if isDigit b then
        if '0' ≤ a && a ≤ '5' then sixties true r else none
      else sixties true (b :: r)
    else none
  | _, [':', a] => if isDigit a then some [] else none
  | some?, r => if some? then some r else none

/-- Whole numbers: binary, octal, decimal, hexadecimal or to the base sixty. -/
def isInt (cs : List Char) : Bool :=
  match unsigned cs with
  | '0' :: 'b' :: r => !r.isEmpty && r.all fun c => c == '0' || c == '1' || c == '_'
  | '0' :: 'x' :: r =>
    !r.isEmpty && r.all fun c =>
      isDigit c || ('a' ≤ c && c ≤ 'f') || ('A' ≤ c && c ≤ 'F') || c == '_'
  | ['0'] => true
  | '0' :: r => r.all fun c => ('0' ≤ c && c ≤ '7') || c == '_'
  | c :: r =>
    isDigit c &&
      (r.all digitOrBar || sixties false (r.dropWhile digitOrBar) == some [])
  | [] => false

/-- Fractional numbers, infinities and the word for no number. -/
def isFloat (cs : List Char) : Bool :=
  let body := unsigned cs
  let word := String.ofList body
  let whole := body.takeWhile digitOrBar
  let rest := body.dropWhile digitOrBar
  let startsWithDigit := match body with
    | c :: _ => isDigit c
    | [] => false
  (startsWithDigit && match rest with
    | '.' :: r => exponentOrNothing (r.dropWhile digitOrBar)
    | _ => match sixties false rest with
      | some ('.' :: r) => r.all digitOrBar
      | _ => false)
    || (match cs with
      | '.' :: d :: r => isDigit d && exponentOrNothing (r.dropWhile digitOrBar)
      | _ => false)
    || [".inf", ".Inf", ".INF"].contains word
    || ([".nan", ".NaN", ".NAN"].contains (String.ofList cs) && whole.isEmpty)

/-- One or two digits, and what follows them, for each way to read them. -/
private def oneOrTwo : List Char → List (List Char)
  | a :: b :: r => if isDigit a then if isDigit b then [r, b :: r] else [b :: r] else []
  | [a] => if isDigit a then [[]] else []
  | [] => []

private def afterChar (c : Char) : List Char → List (List Char)
  | d :: r => if d = c then [r] else []
  | [] => []

private def twoDigits : List Char → List (List Char)
  | a :: b :: r => if isDigit a && isDigit b then [r] else []
  | _ => []

/-- A time zone: `Z`, or a signed number of hours with or without minutes. -/
private def isZone : List Char → Bool
  | [] => false
  | ['Z'] => true
  | s :: r =>
    (s == '+' || s == '-') && (oneOrTwo r).any fun r =>
      r.isEmpty || ((afterChar ':' r).flatMap twoDigits).contains []

/-- Dates, and dates with a time of day. -/
def isTimestamp (cs : List Char) : Bool :=
  match cs with
  | a :: b :: c :: d :: '-' :: rest =>
    if isDigit a && isDigit b && isDigit c && isDigit d then
      let short := (twoDigits rest).flatMap (afterChar '-') |>.flatMap twoDigits
      let days := (oneOrTwo rest).flatMap (afterChar '-') |>.flatMap oneOrTwo
      let isGap (c : Char) : Bool := c == ' ' || c == '\t'
      let hours := days.flatMap fun r => match r with
        | c :: r' =>
          if c == 'T' || c == 't' then [r'] else if isGap c then [r'.dropWhile isGap] else []
        | [] => []
      let seconds := hours.flatMap oneOrTwo |>.flatMap (afterChar ':') |>.flatMap twoDigits
        |>.flatMap (afterChar ':') |>.flatMap twoDigits
      let tails := seconds.map fun r => match r with
        | '.' :: r' => r'.dropWhile isDigit
        | r' => r'
      short.contains [] || tails.any fun r => r.isEmpty || isZone (r.dropWhile isGap)
    else false
  | _ => false

/-- **The tag of a plain scalar.** A line feed at the end does not count. The forms are tried in a
fixed order, since a text may have several of them. -/
def ofPlain (text : String) : String :=
  let cs := text.toList
  let cs := if cs.getLast? == some '\n' then cs.dropLast else cs
  let word := String.ofList cs
  if boolWords.contains word then bool
  else if isFloat cs then core ++ "float"
  else if isInt cs then core ++ "int"
  else if word == "<<" then core ++ "merge"
  else if (word != "" || text == "") && nullWords.contains word then null
  else if isTimestamp cs then core ++ "timestamp"
  else if word == "=" then core ++ "value"
  else if word == "!" || word == "&" || word == "*" then core ++ "yaml"
  else str

end ErDiagram.Yaml.Tag
