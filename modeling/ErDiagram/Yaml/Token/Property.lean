import ErDiagram.Yaml.Token.Basic

/-!
# Anchors, tags and directives in the text

What may stand before a node, and what may stand before a document.

None of it is needed to write a diagram down, and all of it decides what a text says: a tag takes a
scalar out of the usual rules, an alias repeats a node, and a directive gives handles of tags
another meaning. Reading such properties is where a text can fail in other ways than by being
malformed: a version may have a number with too many digits to be read.
-/

namespace ErDiagram.Yaml

/-- Reads the name after the mark of an anchor or an alias. -/
def scanAnchorName (c : Cursor) : Except Failure (String × Cursor) :=
  let (name, c) := c.next.span isNameChar
  let ends := match c.peek? with
    | none => true
    | some ch => gapOrEnd (some ch) || ['?', ':', ',', ']', '}', '%', '@', '\x60'].contains ch
  if name.isEmpty || !ends then .error .malformed else .ok (String.ofList name, c)

/-- Reads the bytes that are written as percent signs with two hexadecimal digits each. -/
private def percentBytes : Nat → List UInt8 → Cursor → Except Failure (List UInt8 × Cursor)
  | 0, acc, c => .ok (acc.reverse, c)
  | fuel + 1, acc, c =>
    match c.rest with
    | '%' :: a :: b :: _ =>
      if isHexDigit a && isHexDigit b then
        percentBytes fuel ((hexValue [a, b]).toUInt8 :: acc) (c.skip 3)
      else .error .malformed
    | '%' :: _ => .error .malformed
    | _ => .ok (acc.reverse, c)

/-- Whether a character may stand in the rest of a tag. -/
private def isTagChar (ch : Char) : Bool :=
  ch.isAlphanum || "-;/?:@&=+$,_.!~*'()[]".toList.contains ch

/-- Reads the rest of a tag, in which bytes of UTF-8 may be escaped. -/
private def tagText : Nat → List Char → Cursor → Except Failure (List Char × Cursor)
  | 0, acc, c => .ok (acc, c)
  | fuel + 1, acc, c =>
    match c.peek? with
    | some '%' =>
      match percentBytes (c.rest.length + 1) [] c with
      | .error f => .error f
      | .ok (bytes, c) =>
        match String.fromUTF8? ⟨bytes.toArray⟩ with
        | some s => tagText fuel (acc ++ s.toList) c
        | none => .error .malformed
    | some ch => if isTagChar ch then tagText fuel (acc ++ [ch]) c.next else .ok (acc, c)
    | none => .ok (acc, c)

/-- Reads the rest of a tag; something must be there. -/
private def scanTagText (c : Cursor) : Except Failure (String × Cursor) := do
  let start := c.index
  let (cs, c) ← tagText (c.rest.length + 1) [] c
  if c.index = start then throw .malformed
  pure (String.ofList cs, c)

/-- Reads a tag handle: one exclamation mark, or two with a name between them. -/
private def scanHandle (c : Cursor) : Except Failure (String × Cursor) :=
  if !c.isAt '!' then .error .malformed
  else if c.peekAt? 1 == some ' ' then .ok ("!", c.next)
  else
    let (name, after) := c.next.span isNameChar
    if after.isAt '!' then .ok (String.ofList ('!' :: name ++ ['!']), after.next)
    else .error .malformed

/-- Whether an exclamation mark comes before the next space or break. -/
private def hasHandle (cs : List Char) : Bool :=
  (cs.takeWhile fun ch => !spaceOrEnd (some ch)).contains '!'

/-- **Reads a tag**: its handle, if it has one, and the rest. -/
def scanTag (c : Cursor) : Except Failure ((Option String × String) × Cursor) := do
  let (tag, c) ←
    if c.peekAt? 1 == some '<' then do
      let (suffix, c) ← scanTagText (c.skip 2)
      if c.isAt '>' then pure ((none, suffix), c.next) else throw .malformed
    else if gapOrEnd (c.peekAt? 1) then pure ((none, "!"), c.next)
    else do
      let (handle, c) ← if hasHandle (c.rest.drop 1) then scanHandle c else pure ("!", c.next)
      let (suffix, c) ← scanTagText c
      pure ((some handle, suffix), c)
  if spaceOrEnd c.peek? then pure (tag, c) else throw .malformed

/-- How many digits a number of a version may have. -/
def digitLimit : Nat := 4300

/-- The number that a run of digits denotes. -/
private def scanNumber (c : Cursor) : Except Failure (Nat × Cursor) :=
  let (ds, c) := c.span Char.isDigit
  if ds.isEmpty then .error .malformed
  else if digitLimit < ds.length then .error (.tooManyDigits ds.length)
  else .ok (ds.foldl (fun n d => 10 * n + (d.toNat - 48)) 0, c)

/-- **Reads a directive** from its percent sign to past the end of its line. The second result
is the line on which the directive ends. -/
def scanDirective (c : Cursor) : Except Failure (Token × Nat × Cursor) := do
  let (name, c) := c.next.span isNameChar
  if name.isEmpty || !spaceOrEnd c.peek? then throw .malformed
  let (token, c) ←
    if String.ofList name == "YAML" then do
      let (major, c) ← scanNumber (c.skipWhile (· == ' '))
      if !c.isAt '.' then throw .malformed
      let (minor, c) ← scanNumber c.next
      if !spaceOrEnd c.peek? then throw .malformed
      pure (Token.version major minor, c)
    else if String.ofList name == "TAG" then do
      let (handle, c) ← scanHandle (c.skipWhile (· == ' '))
      if !c.isAt ' ' then throw .malformed
      let (meaning, c) ← scanTagText (c.skipWhile (· == ' '))
      if !spaceOrEnd c.peek? then throw .malformed
      pure (Token.handle handle meaning, c)
    else pure (Token.reserved, c.skipWhile fun ch => !isBreak ch)
  match c.restOfLine? with
  | some after => pure (token, c.line, after)
  | none => throw .malformed

end ErDiagram.Yaml
