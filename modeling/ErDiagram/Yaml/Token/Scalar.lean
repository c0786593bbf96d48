import ErDiagram.Yaml.Token.Basic

/-!
# Scalars in the text

A scalar is written in one of five styles, which differ in where it ends, in what its line
breaks stand for and in which characters can be escaped. Each reader below starts at the first
character of the scalar and gives the text that the scalar denotes and the place after it.

A single line break inside a plain, quoted or folded scalar stands for a space; of several in
a row the first stands for nothing.
-/

namespace ErDiagram.Yaml

/-- What line breaks in a row stand for: `first` is the first of them and `more` the others. -/
def foldBreaks (first : Char) (more : List Char) : List Char :=
  if first ≠ '\n' then first :: more
  else if more.isEmpty then [' ']
  else more

/-! ## Plain scalars -/

/-- Whether a plain scalar ends before the next character. -/
private def endsPlain (inFlow : Bool) (rest : List Char) : Bool :=
  match rest with
  | [] => true
  | ch :: more =>
    gapOrEnd (some ch)
      || (ch == ':' && (gapOrEnd more.head? || (inFlow && match more with
        | d :: _ => d == ',' || d == '[' || d == ']' || d == '{' || d == '}'
        | [] => false)))
      || (inFlow && (ch == ',' || ch == '?' || ch == '[' || ch == ']' || ch == '{' || ch == '}'))

/-- The longest run of characters that belongs to a plain scalar. -/
private def plainRun (inFlow : Bool) : List Char → List Char
  | [] => []
  | ch :: rest => if endsPlain inFlow (ch :: rest) then [] else ch :: plainRun inFlow rest

/-- The breaks after the first one between two lines of a plain scalar, and the place of the
next line; `none` before a mark between documents. -/
private def plainBreaks : Nat → List Char → Cursor → Option (List Char) × Cursor
  | 0, acc, c => (some acc.reverse, c)
  | fuel + 1, acc, c =>
    if c.isAt ' ' then plainBreaks fuel acc c.next
    else match c.lineBreak? with
      | none => (some acc.reverse, c)
      | some (b, c) =>
        if c.atDocumentMark then (none, c) else plainBreaks fuel (b :: acc) c

/-- What stands between two words of a plain scalar: the text it denotes, the place after it,
and whether there was a line break in it. -/
private def plainGap (c : Cursor) : List Char × Cursor × Bool :=
  let (spaces, c) := c.span (· == ' ')
  match c.lineBreak? with
  | none => (spaces, c, false)
  | some (b, c) =>
    if c.atDocumentMark then ([], c, true)
    else match plainBreaks (c.rest.length + 1) [] c with
      | (none, c) => ([], c, true)
      | (some more, c) => (foldBreaks b more, c, true)

/-- A plain scalar that has been read in part. What stands between its words belongs to it only if
another word follows, so that the text ends with a word and the blanks behind it are not in it. -/
structure PlainScalar where
  /-- The text so far, in reverse. -/
  reversed : List Char := []
  /-- The line on which its last word ends. -/
  last : Nat
  /-- Whether it is followed by a line break. -/
  broken : Bool := false
  /-- The place after it and the blanks that follow. -/
  after : Cursor

/-- The text that has been read. -/
def PlainScalar.text (s : PlainScalar) : List Char := s.reversed.reverse

/-- Reads the words of a plain scalar; `gap` is what the blanks before the next one denote. -/
private def plainWords (inFlow : Bool) (indent : Nat) :
    Nat → List Char → PlainScalar → PlainScalar
  | 0, _, s => s
  | fuel + 1, gap, s =>
    let c := s.after
    if c.isAt '#' then s
    else
      let word := plainRun inFlow c.rest
      if word.isEmpty then s
      else
        let ending := c.skip word.length
        let (gap', c, broken) := plainGap ending
        let s : PlainScalar :=
          { reversed := word.reverse ++ (gap.reverse ++ s.reversed), last := ending.line, broken,
            after := c }
        if gap'.isEmpty || c.isAt '#' || (!inFlow && c.column < indent) then s
        else plainWords inFlow indent fuel gap' s

/-- **Reads a plain scalar.** Its further lines are indented by at least `indent`. -/
def scanPlain (inFlow : Bool) (indent : Nat) (c : Cursor) : PlainScalar :=
  plainWords inFlow indent (c.rest.length + 1) [] { last := c.line, after := c }

/-! ## Quoted scalars -/

/-- The characters that a backslash and one letter stand for. -/
private def shortEscape? (ch : Char) : Option Char :=
  match ch with
  | '0' => some '\x00'
  | 'a' => some '\x07'
  | 'b' => some '\x08'
  | 't' => some '\t'
  | '\t' => some '\t'
  | 'n' => some '\n'
  | 'v' => some '\x0b'
  | 'f' => some '\x0c'
  | 'r' => some '\r'
  | 'e' => some '\x1b'
  | ' ' => some ' '
  | '"' => some '"'
  | '\\' => some '\\'
  | '/' => some '/'
  | 'N' => some (Char.ofNat 0x85)
  | '_' => some (Char.ofNat 0xa0)
  | 'L' => some (Char.ofNat 0x2028)
  | 'P' => some (Char.ofNat 0x2029)
  | _ => none

/-- How many hexadecimal digits follow a letter that escapes by code point. -/
private def escapeWidth? (ch : Char) : Option Nat :=
  match ch with
  | 'x' => some 2
  | 'u' => some 4
  | 'U' => some 8
  | _ => none

/-- The breaks that follow a break inside quotes, and the place of the next line. -/
private def quotedBreaks : Nat → List Char → Cursor → Except Failure (List Char × Cursor)
  | 0, acc, c => .ok (acc.reverse, c)
  | fuel + 1, acc, c =>
    if c.atDocumentMark then .error .malformed
    else
      let c := c.skipWhile fun ch => ch == ' ' || ch == '\t'
      match c.lineBreak? with
      | none => .ok (acc.reverse, c)
      | some (b, c) => quotedBreaks fuel (b :: acc) c

/-- A character given by its number. For a surrogate, which is no character, one stands in. -/
private def codePoint (code : Nat) : Except Failure Char :=
  if 0x10ffff < code then .error (.beyondUnicode code)
  else if Text.isSurrogate code then .ok (Text.standIn code)
  else .ok (Char.ofNat code)

/-- Reads inside quotes up to the closing one, and past it. The text so far is kept in
reverse. -/
private def quotedText (double : Bool) : Nat → List Char → Cursor →
    Except Failure (List Char × Cursor)
  | 0, _, _ => .error .malformed
  | fuel + 1, acc, c =>
    match c.rest with
    | [] => .error .malformed
    | ch :: more =>
      if !double && ch == '\'' then
        if more.head? == some '\'' then quotedText double fuel ('\'' :: acc) (c.skip 2)
        else .ok (acc.reverse, c.next)
      else if double && ch == '"' then .ok (acc.reverse, c.next)
      else if double && ch == '\\' then
        match more with
        | [] => .error .malformed
        | e :: digits =>
          match shortEscape? e, escapeWidth? e with
          | some r, _ => quotedText double fuel (r :: acc) (c.skip 2)
          | none, some w =>
            let ds := digits.take w
            if ds.length = w && ds.all isHexDigit then
              match codePoint (hexValue ds) with
              | .ok r => quotedText double fuel (r :: acc) (c.skip (2 + w))
              | .error f => .error f
            else .error .malformed
          | none, none =>
            match c.next.lineBreak? with
            | none => .error .malformed
            | some (_, c) =>
              match quotedBreaks (c.rest.length + 1) [] c with
              | .error f => .error f
              | .ok (bs, c) => quotedText double fuel (bs.reverse ++ acc) c
      else if ch == ' ' || ch == '\t' || isBreak ch then
        let (spaces, c) := c.span fun ch => ch == ' ' || ch == '\t'
        match c.lineBreak? with
        | none =>
          if c.rest.isEmpty then .error .malformed
          else quotedText double fuel (spaces.reverse ++ acc) c
        | some (b, c) =>
          match quotedBreaks (c.rest.length + 1) [] c with
          | .error f => .error f
          | .ok (more, c) => quotedText double fuel ((foldBreaks b more).reverse ++ acc) c
      else quotedText double fuel (ch :: acc) c.next

/-- **Reads a quoted scalar**, from its opening quote to past its closing one. -/
def scanQuoted (double : Bool) (c : Cursor) : Except Failure (List Char × Cursor) :=
  quotedText double (c.rest.length + 1) [] c.next

/-! ## Block scalars -/

/-- What becomes of the line breaks at the end of a block scalar: none of them is left, one of them
is, or all are. Without an indicator it is one. -/
inductive Chomping where
  | strip
  | clip
  | keep
deriving Repr, DecidableEq

private def chomping? (c : Cursor) : Option (Chomping × Cursor) :=
  if c.isAt '+' then some (.keep, c.next)
  else if c.isAt '-' then some (.strip, c.next)
  else none

/-- The digit that gives the indentation, if there is one; zero is refused. -/
private def increment? (c : Cursor) : Except Failure (Option Nat × Cursor) :=
  match c.peek? with
  | some ch =>
    if ch.isDigit then
      if ch == '0' then .error .malformed else .ok (some (ch.toNat - 48), c.next)
    else .ok (none, c)
  | none => .ok (none, c)

/-- The indicators after the mark of a block scalar, in either order. -/
private def blockHeader (c : Cursor) : Except Failure (Chomping × Option Nat × Cursor) := do
  match chomping? c with
  | some (chomping, c) =>
    let (increment, c) ← increment? c
    pure (chomping, increment, c)
  | none =>
    let (increment, c) ← increment? c
    match increment, chomping? c with
    | some n, some (chomping, c) => pure (chomping, some n, c)
    | _, _ => pure (.clip, increment, c)

/-- The breaks and the greatest indentation before the first line of a block scalar. -/
private def leadingBreaks : Nat → List Char → Nat → Cursor → List Char × Nat × Cursor
  | 0, acc, width, c => (acc.reverse, width, c)
  | fuel + 1, acc, width, c =>
    if c.isAt ' ' then
      let c := c.next
      leadingBreaks fuel acc (max width c.column) c
    else match c.lineBreak? with
      | some (b, c) => leadingBreaks fuel (b :: acc) width c
      | none => (acc.reverse, width, c)

/-- Goes past spaces up to a column. -/
private def indentTo (indent : Nat) : Nat → Cursor → Cursor
  | 0, c => c
  | fuel + 1, c => if c.column < indent && c.isAt ' ' then indentTo indent fuel c.next else c

/-- The breaks of the empty lines at a place, and the place after the indentation that
follows. -/
private def blockBreaks (indent : Nat) : Nat → List Char → Cursor → List Char × Cursor
  | 0, acc, c => (acc.reverse, c)
  | fuel + 1, acc, c =>
    let c := indentTo indent indent c
    match c.lineBreak? with
    | some (b, c) => blockBreaks indent fuel (b :: acc) c
    | none => (acc.reverse, c)

private def startsWithGap (c : Cursor) : Bool := c.isAt ' ' || c.isAt '\t'

/-- Reads the lines of a block scalar. `breaks` are those of the empty lines before the next
line; at the end the text is given with the last break and the breaks after it apart. The text
so far is kept in reverse. -/
private def blockLines (folded : Bool) (indent : Nat) :
    Nat → List Char → List Char → Cursor → List Char × Option Char × List Char × Cursor
  | 0, acc, breaks, c => (acc.reverse, none, breaks, c)
  | fuel + 1, acc, breaks, c =>
    if c.column = indent && !c.rest.isEmpty then
      let solid := !startsWithGap c
      let (line, c) := c.span fun ch => !isBreak ch
      let acc := line.reverse ++ (breaks.reverse ++ acc)
      let (b, c) := match c.lineBreak? with
        | some (b, c) => (some b, c)
        | none => (none, c)
      let (more, c) := blockBreaks indent (fuel + 1) [] c
      if c.column = indent && !c.rest.isEmpty then
        let joint : List Char :=
          if folded && b == some '\n' && solid && !startsWithGap c then
            if more.isEmpty then [' '] else []
          else b.toList
        blockLines folded indent fuel (joint.reverse ++ acc) more c
      else (acc.reverse, b, more, c)
    else (acc.reverse, none, breaks, c)

/-- **Reads a block scalar** from its mark on, in a block of the given indentation. -/
def scanBlock (folded : Bool) (minIndent : Nat) (c : Cursor) :
    Except Failure (List Char × Cursor) := do
  let (chomping, increment, c) ← blockHeader c.next
  if !spaceOrEnd c.peek? then throw .malformed
  match c.restOfLine? with
  | none => throw .malformed
  | some c =>
    let (breaks, indent, c) := match increment with
      | none =>
        let (breaks, width, c) := leadingBreaks (c.rest.length + 1) [] 0 c
        (breaks, max minIndent width, c)
      | some n =>
        let indent := minIndent + n - 1
        let (breaks, c) := blockBreaks indent (c.rest.length + 1) [] c
        (breaks, indent, c)
    let (text, last, trailing, c) := blockLines folded indent (c.rest.length + 1) [] breaks c
    let text := if chomping = .strip then text else text ++ last.toList
    let text := if chomping = .keep then text ++ trailing else text
    pure (text, c)

end ErDiagram.Yaml
