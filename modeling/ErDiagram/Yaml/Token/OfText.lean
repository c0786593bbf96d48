import ErDiagram.Yaml.Token.Property
import ErDiagram.Yaml.Token.Scalar

/-!
# The tokens of a YAML text

Tokens are read from the text from left to right. Two of them show only later, or not at all,
in the text: a block begins where something is indented more than what is around it, and a key
without a mark of its own is known to be one when the colon after it is reached. So each token
that might turn out to be a key is remembered by its number, and when the colon comes, the
mark of the key is put in before it.

A key cannot be waited for without limit. It must end on the line on which it starts, and within a
thousand characters or so; what is remembered and has grown too old is dropped. If nothing else than
a key could stand there, dropping it is an error.
-/

namespace ErDiagram.Yaml

/-- A token that may turn out to be a key. It is remembered by its number and not by what it is: if
it is a key, the mark goes in front of it, and the token itself stays as it was. -/
structure PendingKey where
  /-- The depth of flow collections it stands in. -/
  level : Nat
  /-- How many tokens come before it. -/
  number : Nat
  /-- Whether nothing else than a key can stand there. -/
  required : Bool
  /-- Where it starts. -/
  start : Cursor

/-- **What has been read so far**, and where to go on. The tokens are an array because a mark may
have to be put in before one that was read some time ago. Columns are whole numbers with a sign:
outside of all blocks the column is less than any that something can stand in. -/
structure Lexer where
  /-- The place reached. -/
  cursor : Cursor
  /-- The tokens so far. -/
  tokens : Array PlacedToken := #[]
  /-- The depth of flow collections. -/
  flow : Nat := 0
  /-- The column of the innermost block, or minus one outside of all blocks. -/
  indent : Int := -1
  /-- The columns of the blocks around it, the innermost first. -/
  outer : List Int := []
  /-- Whether a key may stand here. -/
  keyAllowed : Bool := true
  /-- The tokens that may turn out to be keys, at most one for each depth. -/
  pending : List PendingKey := []

namespace Lexer

/-- The column of the place reached. -/
private def column (s : Lexer) : Int := s.cursor.column

/-- Adds a token that starts at the place reached and ends at `c`, where reading goes on. -/
private def pushTo (s : Lexer) (t : Token) (c : Cursor) : Lexer :=
  { s with tokens := s.tokens.push ⟨t, s.cursor.line, c.line⟩, cursor := c }

/-- Adds a token without characters of its own. -/
private def push (s : Lexer) (t : Token) : Lexer := s.pushTo t s.cursor

/-- Puts a token before the token of a number. -/
private def insertAt (s : Lexer) (number : Nat) (line : Nat) (t : Token) : Lexer :=
  { s with tokens := s.tokens.insertIdxIfInBounds number ⟨t, line, line⟩ }

/-- Gives up the pending key of this depth; one that must be a key cannot be given up. -/
private def dropKey (s : Lexer) : Except Failure Lexer :=
  if s.pending.any fun k => k.level == s.flow && k.required then .error .malformed
  else .ok { s with pending := s.pending.filter fun k => k.level != s.flow }

/-- Remembers that the next token may turn out to be a key. -/
private def saveKey (s : Lexer) : Except Failure Lexer := do
  if !s.keyAllowed then return s
  let required := s.flow == 0 && s.indent == s.column
  let s ← s.dropKey
  let key : PendingKey := ⟨s.flow, s.tokens.size, required, s.cursor⟩
  pure { s with pending := key :: s.pending }

/-- Whether a pending key starts on an earlier line or too far before. -/
private def isStale (s : Lexer) (k : PendingKey) : Bool :=
  k.start.line != s.cursor.line || 1024 < s.cursor.index - k.start.index

/-- Gives up all stale keys. -/
private def dropStaleKeys (s : Lexer) : Except Failure Lexer :=
  if s.pending.any fun k => s.isStale k && k.required then .error .malformed
  else .ok { s with pending := s.pending.filter fun k => !s.isStale k }

/-- Ends the blocks that are indented more than a column. -/
private def closeBlocks (s : Lexer) (column : Int) : Lexer :=
  if s.flow ≠ 0 then s
  else go s.outer { s with outer := [] } column
where
  /-- Ends blocks while there are columns left to return to. -/
  go : List Int → Lexer → Int → Lexer
    | [], s, _ => s
    | o :: os, s, column =>
      if column < s.indent then go os { s.push .blockEnd with indent := o } column
      else { s with outer := o :: os }

/-- Opens a block at a column that is indented more than the block around; the result says
whether there is one to open. -/
private def indentTo (s : Lexer) (column : Int) : Bool × Lexer :=
  if s.indent < column then (true, { s with outer := s.indent :: s.outer, indent := column })
  else (false, s)

/-- Opens a block of the given kind here, if the place is indented more than the block
around. -/
private def openBlock (s : Lexer) (start : Token) : Lexer :=
  let (opened, s) := s.indentTo s.column
  if opened then s.push start else s

/-- Goes past blanks, comments and line breaks up to the next token. -/
private def skipGaps : Nat → Lexer → Lexer
  | 0, s => s
  | fuel + 1, s =>
    let c := s.cursor.skipWhile (· == ' ')
    let c := if c.isAt '#' then c.skipWhile fun ch => !isBreak ch else c
    match c.lineBreak? with
    | some (_, c) =>
      skipGaps fuel { s with cursor := c, keyAllowed := s.keyAllowed || s.flow == 0 }
    | none => { s with cursor := c }

/-- Goes past a byte-order mark at the very beginning, and on to the next token. -/
private def toNextToken (s : Lexer) : Lexer :=
  let c := s.cursor
  let c := if c.index == 0 && c.isAt (Char.ofNat 0xfeff) then c.next else c
  skipGaps (c.rest.length + 1) { s with cursor := c }

/-- Ends all blocks, as a mark between documents does. -/
private def leaveDocument (s : Lexer) : Except Failure Lexer := do
  let s ← (s.closeBlocks (-1)).dropKey
  pure { s with keyAllowed := false }

/-- Reads the mark of a block entry. -/
private def blockEntry (s : Lexer) : Except Failure Lexer := do
  let s ←
    if s.flow ≠ 0 then pure s
    else if s.keyAllowed then pure (s.openBlock .blockSequenceStart)
    else throw .malformed
  let s ← { s with keyAllowed := true }.dropKey
  pure (s.pushTo .blockEntry s.cursor.next)

/-- Reads the mark of a key. -/
private def keyMark (s : Lexer) : Except Failure Lexer := do
  let s ←
    if s.flow ≠ 0 then pure s
    else if s.keyAllowed then pure (s.openBlock .blockMappingStart)
    else throw .malformed
  let s ← { s with keyAllowed := s.flow == 0 }.dropKey
  pure (s.pushTo .key s.cursor.next)

/-- Reads the colon before a value. If a token of this depth is waiting to be a key, it is
one. -/
private def valueMark (s : Lexer) : Except Failure Lexer := do
  match s.pending.find? fun k => k.level == s.flow with
  | some k =>
    let s := { s with pending := s.pending.filter fun k => k.level != s.flow }
    let s := s.insertAt k.number k.start.line .key
    let (opened, s) := if s.flow == 0 then s.indentTo k.start.column else (false, s)
    let s := if opened then s.insertAt k.number k.start.line .blockMappingStart else s
    let s := { s with keyAllowed := false }
    pure (s.pushTo .value s.cursor.next)
  | none =>
    let s ←
      if s.flow ≠ 0 then pure s
      else if s.keyAllowed then pure (s.openBlock .blockMappingStart)
      else throw .malformed
    let s ← { s with keyAllowed := s.flow == 0 }.dropKey
    pure (s.pushTo .value s.cursor.next)

/-- Reads the bracket that opens a flow collection. -/
private def openFlow (s : Lexer) (t : Token) : Except Failure Lexer := do
  let s ← s.saveKey
  pure ({ s with flow := s.flow + 1, keyAllowed := true }.pushTo t s.cursor.next)

/-- Reads the bracket that closes a flow collection. -/
private def closeFlow (s : Lexer) (t : Token) : Except Failure Lexer := do
  let s ← s.dropKey
  if s.flow = 0 then throw .malformed
  pure ({ s with flow := s.flow - 1, keyAllowed := false }.pushTo t s.cursor.next)

/-- Reads a token of the kind that can be a key. -/
private def keyable (s : Lexer) (read : Cursor → Except Failure (Token × Cursor)) :
    Except Failure Lexer := do
  let s ← s.saveKey
  let (t, c) ← read s.cursor
  pure ({ s with keyAllowed := false }.pushTo t c)

/-- Reads a plain scalar, after which a key may stand if a line break follows. -/
private def plain (s : Lexer) : Except Failure Lexer := do
  let s ← s.saveKey
  let r := scanPlain (s.flow != 0) (s.indent + 1).toNat s.cursor
  let t : PlacedToken := ⟨.scalar (String.ofList r.text) .plain, s.cursor.line, r.last⟩
  pure { s with tokens := s.tokens.push t, cursor := r.after, keyAllowed := r.broken }

/-- Reads a block scalar. -/
private def block (s : Lexer) (folded : Bool) : Except Failure Lexer := do
  let s ← { s with keyAllowed := true }.dropKey
  let (text, c) ← scanBlock folded (max (s.indent + 1) 1).toNat s.cursor
  pure (s.pushTo (.scalar (String.ofList text) (if folded then .folded else .literal)) c)

/-- Reads a quoted scalar. -/
private def quoted (s : Lexer) (double : Bool) : Except Failure Lexer :=
  s.keyable fun c => do
    let (text, c) ← scanQuoted double c
    pure (.scalar (String.ofList text) (if double then .doubleQuoted else .singleQuoted), c)

/-- Whether a plain scalar can start with a character before the given next one. -/
private def startsPlain (inFlow : Bool) (ch : Char) (next : Option Char) : Bool :=
  !(gapOrEnd (some ch) || "-?:,[]\x7b\x7d#&*!|>'\"%@\x60".toList.contains ch)
    || (!gapOrEnd next && (ch == '-' || (!inFlow && (ch == '?' || ch == ':'))))

/-- **Reads the next token**, which starts with the given character. -/
private def token (s : Lexer) (ch : Char) : Except Failure Lexer :=
  let c := s.cursor
  let gapNext := gapOrEnd (c.peekAt? 1)
  if ch == '%' && c.column == 0 then do
    let s ← s.leaveDocument
    let (t, last, c) ← scanDirective s.cursor
    pure { s with tokens := s.tokens.push ⟨t, s.cursor.line, last⟩, cursor := c }
  else if c.column == 0 && c.atTriple '-' then do
    let s ← s.leaveDocument
    pure (s.pushTo .documentStart (c.skip 3))
  else if c.column == 0 && c.atTriple '.' then do
    let s ← s.leaveDocument
    pure (s.pushTo .documentEnd (c.skip 3))
  else if ch == '[' then s.openFlow .flowSequenceStart
  else if ch == '{' then s.openFlow .flowMappingStart
  else if ch == ']' then s.closeFlow .flowSequenceEnd
  else if ch == '}' then s.closeFlow .flowMappingEnd
  else if ch == ',' then do
    let s ← { s with keyAllowed := true }.dropKey
    pure (s.pushTo .flowEntry s.cursor.next)
  else if ch == '-' && gapNext then s.blockEntry
  else if ch == '?' && (s.flow != 0 || gapNext) then s.keyMark
  else if ch == ':' && (s.flow != 0 || gapNext) then s.valueMark
  else if ch == '*' then
    s.keyable fun c => do
      let (name, c) ← scanAnchorName c
      pure (.alias name, c)
  else if ch == '&' then
    s.keyable fun c => do
      let (name, c) ← scanAnchorName c
      pure (.anchor name, c)
  else if ch == '!' then
    s.keyable fun c => do
      let ((handle, suffix), c) ← scanTag c
      pure (.tag handle suffix, c)
  else if ch == '|' && s.flow == 0 then s.block false
  else if ch == '>' && s.flow == 0 then s.block true
  else if ch == '\'' then s.quoted false
  else if ch == '"' then s.quoted true
  else if startsPlain (s.flow != 0) ch (c.peekAt? 1) then s.plain
  else .error .malformed

/-- Goes on to the next token and reads it; at the end of the text nothing is left but to end
the stream, which gives the tokens. -/
private def step (s : Lexer) : Except Failure (Lexer ⊕ Array PlacedToken) := do
  let s ← s.toNextToken.dropStaleKeys
  let s := s.closeBlocks s.column
  match s.cursor.peek? with
  | none => do
    let s ← (s.closeBlocks (-1)).dropKey
    pure (.inr (s.push .streamEnd).tokens)
  | some ch => do
    let s ← s.token ch
    pure (.inl s)

/-- The tokens where the next one cannot be read. A token that may still turn out to be a key
is known for what it is only when the next one has been read, so the text is broken from the
first such token on. -/
private def brokenOff (s : Lexer) (why : Failure) : Array PlacedToken :=
  let waiting := s.pending.filter fun k => !s.isStale k
  let known := waiting.foldl (fun n k => min n k.number) s.tokens.size
  (s.tokens.take known).push ⟨.broken why, s.cursor.line, s.cursor.line⟩

/-- Reads tokens to the end of the text, or up to where it breaks a rule. Each step goes past
at least one character. -/
private def run : Nat → Lexer → Array PlacedToken
  | 0, s => s.brokenOff .malformed
  | fuel + 1, s =>
    match s.step with
    | .ok (.inl s) => run fuel s
    | .ok (.inr tokens) => tokens
    | .error why => s.brokenOff why

end Lexer

/-- **The tokens of a text.** The last one ends the stream or says that the text is broken; a
text with a character that YAML does not admit is broken from the start. -/
def Token.ofText (text : String) : List PlacedToken :=
  let cs := text.toList
  if cs.all isPrintable then ((Lexer.run (cs.length + 1) { cursor := { rest := cs } }).toList)
  else [⟨.broken .malformed, 0, 0⟩]

end ErDiagram.Yaml
