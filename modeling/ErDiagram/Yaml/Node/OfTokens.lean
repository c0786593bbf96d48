import ErDiagram.Yaml.Node.Basic
import ErDiagram.Yaml.Token.OfText

/-!
# The node of a list of tokens

The tokens of a text are read as one document. A place where a node may be left out has an empty
scalar, which is null, at the line where the token before or after it is.

The functions below call each other as the grammar does, with one for each kind of collection. Two
numbers bound the recursion. The first is a limit that belongs to the reader: a document may have
so many levels of nodes, and one more is a failure of its own. The second is there for termination
only, and grows with the number of tokens, so that it is not used up before these are.
-/

namespace ErDiagram.Yaml

/-- What a document refers to: the meanings of tag handles, and the nodes of anchors. The node
of an anchor is missing as long as it is being read, which is how an alias inside its own node is
told from one that refers to nothing. -/
structure References where
  /-- The meanings of tag handles. -/
  handles : List (String × String) := [("!", "!"), ("!!", Tag.core)]
  /-- The nodes of anchors. -/
  anchors : List (String × Option Node) := []

/-- What is left to read, and what can be referred to. -/
structure Remaining where
  /-- The tokens left. -/
  tokens : List PlacedToken
  /-- What the document refers to. -/
  refs : References := {}

namespace Remaining

/-- The next token. -/
def peek? (r : Remaining) : Option Token := (r.tokens.head?).map (·.token)

/-- Whether the next token is one of some. -/
def atAny (r : Remaining) (ts : List Token) : Bool :=
  match r.peek? with
  | some t => ts.contains t
  | none => false

/-- The line on which the next token starts. -/
def line (r : Remaining) : Nat := (r.tokens.head?.map (·.first)).getD 0

/-- The line on which the next token ends. -/
def lastLine (r : Remaining) : Nat := (r.tokens.head?.map (·.last)).getD 0

/-- All but the next token. -/
def rest (r : Remaining) : Remaining := { r with tokens := r.tokens.drop 1 }

/-- Why reading cannot go on at the next token. -/
def stop {α : Type} (r : Remaining) : Except Failure α :=
  match r.peek? with
  | some (.broken why) => .error why
  | _ => .error .malformed

/-- Goes past a token that must come next. -/
def expect (r : Remaining) (t : Token) : Except Failure Remaining :=
  if r.atAny [t] then .ok r.rest else r.stop

end Remaining

namespace Node

/-- The node where there is none. -/
def missing (line : Nat) : Node := .scalar Tag.null .plain "" line

/-- The properties in front of a node. -/
structure Properties where
  /-- The name that aliases refer to it by. -/
  anchor : Option String := none
  /-- The tag as it is written. -/
  tag : Option (Option String × String) := none
  /-- The line on which the properties start. -/
  line : Option Nat := none

/-- Reads an anchor and a tag, in either order. -/
def properties (r : Remaining) : Properties × Remaining :=
  match r.peek? with
  | some (.anchor a) =>
    match r.rest.peek? with
    | some (.tag h s) => (⟨some a, some (h, s), some r.line⟩, r.rest.rest)
    | _ => (⟨some a, none, some r.line⟩, r.rest)
  | some (.tag h s) =>
    match r.rest.peek? with
    | some (.anchor a) => (⟨some a, some (h, s), some r.line⟩, r.rest.rest)
    | _ => (⟨none, some (h, s), some r.line⟩, r.rest)
  | _ => ({}, r)

/-- A tag with its handle replaced by what it stands for, if it stands for something. -/
def resolveTag? (refs : References) : Option String × String → Option String
  | (none, suffix) => some suffix
  | (some h, suffix) => (refs.handles.lookup h).map (· ++ suffix)

/-- The tag of a scalar, from the one written before it and from its form. -/
def scalarTag (written : Option String) (style : ScalarStyle) (text : String) : String :=
  match written with
  | none => if style = .plain then Tag.ofPlain text else Tag.str
  | some t => if t == "!" then Tag.ofPlain text else t

/-- The tag of a collection. -/
def collectionTag (written : Option String) (default : String) : String :=
  match written with
  | none => default
  | some t => if t == "!" then default else t

/-- How many times an alias inside its own node is unfolded: more than the deepest place that
is looked at without following a whole branch. -/
def unfoldings : Nat := 6

/-- How many levels of nodes a document may have. -/
def levelLimit : Nat := 492

mutual

/-- **Reads a node.** In a block it may be a block of its own, and as the value or key of a
block mapping it may be a sequence that is not indented. The first number is how many levels of
nodes there may be. -/
def read (block indentless : Bool) :
    Nat → Nat → Remaining → Except Failure (Node × Remaining)
  | 0, _, _ => .error .tooDeep
  | _, 0, _ => .error .malformed
  | levels + 1, fuel + 1, r =>
    match r.peek? with
    | some (.alias a) =>
      match r.refs.anchors.lookup a with
      | some (some n) => .ok (n, r.rest)
      | some none => .ok (.enclosing a, r.rest)
      | none => .error .malformed
    | _ => do
      let (props, r) := properties r
      let tag ← match props.tag with
        | some t =>
          match resolveTag? r.refs t, props.anchor with
          | some tag, _ => pure (some tag)
          -- behind a lone tag an anchor may still come, so the next token counts first
          | none, none => r.stop
          | none, some _ => throw .malformed
        | none => pure none
      let line := props.line.getD r.line
      let r ← match props.anchor with
        | some a =>
          if (r.refs.anchors.lookup a).isSome then r.stop
          else pure { r with refs := { r.refs with anchors := (a, none) :: r.refs.anchors } }
        | none => pure r
      let (node, r) ← content block indentless levels fuel tag props.anchor.isSome line r
      match props.anchor with
      | some a =>
        let node := node.unfold a unfoldings
        let anchors := r.refs.anchors.map fun e =>
          if e.1 = a then (a, some node) else (e.1, e.2.map (Node.close a node))
        pure (node, { r with refs := { r.refs with anchors } })
      | none => pure (node, r)
termination_by structural _ fuel => fuel

/-- Reads what follows the properties of a node. -/
def content (block indentless : Bool) :
    Nat → Nat → Option String → Bool → Nat → Remaining → Except Failure (Node × Remaining)
  | _, 0, _, _, _, _ => .error .malformed
  | levels, fuel + 1, tag, anchored, line, r =>
    if indentless && r.atAny [.blockEntry] then do
      let (items, r) ← indentlessItems levels fuel r
      pure (.sequence (collectionTag tag Tag.seq) items line, r)
    else match r.peek? with
      | some (.scalar text style) =>
        .ok (.scalar (scalarTag tag style text) style text line, r.rest)
      | some .flowSequenceStart => do
        let (items, r) ← flowItems true levels fuel r.rest
        pure (.sequence (collectionTag tag Tag.seq) items line, r)
      | some .flowMappingStart => do
        let (pairs, r) ← flowPairs true levels fuel r.rest
        pure (.mapping (collectionTag tag Tag.map) pairs line, r)
      | some .blockSequenceStart =>
        if block then do
          let (items, r) ← blockItems levels fuel r.rest
          pure (.sequence (collectionTag tag Tag.seq) items line, r)
        else r.stop
      | some .blockMappingStart =>
        if block then do
          let (pairs, r) ← blockPairs levels fuel r.rest
          pure (.mapping (collectionTag tag Tag.map) pairs line, r)
        else r.stop
      | some (.broken why) => .error why
      | _ =>
        if anchored || tag.isSome then
          let t := match tag with
            | some t => if t == "!" then Tag.ofPlain "" else t
            | none => Tag.ofPlain ""
          .ok (.scalar t .plain "" line, r)
        else r.stop
termination_by structural _ fuel => fuel

/-- Reads the items of a block sequence. -/
def blockItems : Nat → Nat → Remaining → Except Failure (List Node × Remaining)
  | _, 0, _ => .error .malformed
  | levels, fuel + 1, r =>
    if r.atAny [.blockEntry] then do
      let (item, r) ←
        if r.rest.atAny [.blockEntry, .blockEnd] then pure (missing r.lastLine, r.rest)
        else read true false levels fuel r.rest
      let (items, r) ← blockItems levels fuel r
      pure (item :: items, r)
    else do
      let r ← r.expect .blockEnd
      pure ([], r)
termination_by structural _ fuel => fuel

/-- Reads the items of a sequence that is not indented. -/
def indentlessItems : Nat → Nat → Remaining → Except Failure (List Node × Remaining)
  | _, 0, _ => .error .malformed
  | levels, fuel + 1, r =>
    if r.atAny [.blockEntry] then do
      let (item, r) ←
        if r.rest.atAny [.blockEntry, .key, .value, .blockEnd] then
          pure (missing r.lastLine, r.rest)
        else read true false levels fuel r.rest
      let (items, r) ← indentlessItems levels fuel r
      pure (item :: items, r)
    else pure ([], r)
termination_by structural _ fuel => fuel

/-- Reads the pairs of a block mapping. -/
def blockPairs : Nat → Nat → Remaining → Except Failure (List (Node × Node) × Remaining)
  | _, 0, _ => .error .malformed
  | levels, fuel + 1, r =>
    let ends : List Token := [.key, .value, .blockEnd]
    if r.atAny [.key] then do
      let (k, r) ←
        if r.rest.atAny ends then pure (missing r.lastLine, r.rest)
        else read true true levels fuel r.rest
      let (v, r) ←
        if r.atAny [.value] then
          if r.rest.atAny ends then pure (missing r.lastLine, r.rest)
          else read true true levels fuel r.rest
        else pure (missing r.line, r)
      let (pairs, r) ← blockPairs levels fuel r
      pure ((k, v) :: pairs, r)
    else do
      let r ← r.expect .blockEnd
      pure ([], r)
termination_by structural _ fuel => fuel

/-- Reads the items of a flow sequence. A pair among them is a mapping of its own. -/
def flowItems (first : Bool) :
    Nat → Nat → Remaining → Except Failure (List Node × Remaining)
  | _, 0, _ => .error .malformed
  | levels, fuel + 1, r =>
    if r.atAny [.flowSequenceEnd] then .ok ([], r.rest)
    else do
      let r ← if first then pure r else r.expect .flowEntry
      if r.atAny [.flowSequenceEnd] then pure ([], r.rest)
      else if r.atAny [.key] then do
        let line := r.line
        let (k, r) ←
          if r.rest.atAny [.value, .flowEntry, .flowSequenceEnd] then
            pure (missing r.lastLine, r.rest)
          else read false false levels fuel r.rest
        let (v, r) ←
          if r.atAny [.value] then
            if r.rest.atAny [.flowEntry, .flowSequenceEnd] then pure (missing r.lastLine, r.rest)
            else read false false levels fuel r.rest
          else pure (missing r.line, r)
        let (items, r) ← flowItems false levels fuel r
        pure (.mapping Tag.map [(k, v)] line :: items, r)
      else do
        let (item, r) ← read false false levels fuel r
        let (items, r) ← flowItems false levels fuel r
        pure (item :: items, r)
termination_by structural _ fuel => fuel

/-- Reads the pairs of a flow mapping. An item that is no pair is a key without a value. -/
def flowPairs (first : Bool) :
    Nat → Nat → Remaining → Except Failure (List (Node × Node) × Remaining)
  | _, 0, _ => .error .malformed
  | levels, fuel + 1, r =>
    if r.atAny [.flowMappingEnd] then .ok ([], r.rest)
    else do
      let r ← if first then pure r else r.expect .flowEntry
      if r.atAny [.flowMappingEnd] then pure ([], r.rest)
      else if r.atAny [.key] then do
        let (k, r) ←
          if r.rest.atAny [.value, .flowEntry, .flowMappingEnd] then
            pure (missing r.lastLine, r.rest)
          else read false false levels fuel r.rest
        let (v, r) ←
          if r.atAny [.value] then
            if r.rest.atAny [.flowEntry, .flowMappingEnd] then pure (missing r.lastLine, r.rest)
            else read false false levels fuel r.rest
          else pure (missing r.line, r)
        let (pairs, r) ← flowPairs false levels fuel r
        pure ((k, v) :: pairs, r)
      else do
        let (k, r) ← read false false levels fuel r
        let v := missing r.line
        let (pairs, r) ← flowPairs false levels fuel r
        pure ((k, v) :: pairs, r)
termination_by structural _ fuel => fuel


end

/-- The directives before a document: what its tag handles stand for. -/
private def directives : Bool → List (String × String) → List PlacedToken →
    Except Failure (List (String × String) × List PlacedToken)
  | versioned, handles, ⟨.version major _, _, _⟩ :: ts =>
    if versioned || major ≠ 1 then .error .malformed else directives true handles ts
  | versioned, handles, ⟨.handle name meaning, _, _⟩ :: ts =>
    if (handles.lookup name).isSome then .error .malformed
    else directives versioned ((name, meaning) :: handles) ts
  | versioned, handles, ⟨.reserved, _, _⟩ :: ts => directives versioned handles ts
  | _, handles, ts => .ok (handles, ts)

private def isDirective : Token → Bool
  | .version .. => true
  | .handle .. => true
  | .reserved => true
  | _ => false

/-- What follows the document: nothing but marks that it has ended. Another document is
refused when its directives have been read. -/
private def atEnd (r : Remaining) : Except Failure Unit :=
  match r.tokens.dropWhile fun t => t.token == Token.documentEnd with
  | ⟨.streamEnd, _, _⟩ :: _ => .ok ()
  | ts => do
    let (_, ts) ← directives false [] ts
    ({ r with tokens := ts }).stop

/-- **The node of a list of tokens**, or nothing if there is no document in it. -/
def ofTokens? (ts : List PlacedToken) : Except Failure (Option Node) := do
  let fuel := 4 * ts.length + 8
  match ts with
  | [⟨.streamEnd, _, _⟩] => pure none
  | _ =>
    let bare := match ts.head? with
      | some t => !(isDirective t.token) && t.token != Token.documentStart
      | none => false
    if bare then do
      let (n, r) ← read true false levelLimit fuel { tokens := ts }
      atEnd r
      pure (some n)
    else do
      let (handles, ts) ← directives false [] ts
      let refs : References :=
        { handles := handles ++ [("!", "!"), ("!!", Tag.core)] }
      let r ← (Remaining.mk ts refs).expect .documentStart
      let ends := match r.peek? with
        | some t => isDirective t || [Token.documentStart, .documentEnd, .streamEnd].contains t
        | none => true
      let (n, r) ← if ends then pure (missing r.line, r) else read true false levelLimit fuel r
      atEnd r
      pure (some n)

/-- **The node of a text**, or nothing if the text has no document. A text with more than one
document is malformed. -/
def ofText? (text : String) : Except Failure (Option Node) :=
  ofTokens? (Token.ofText text)

end Node

end ErDiagram.Yaml
