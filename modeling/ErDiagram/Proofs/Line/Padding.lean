import ErDiagram.Proofs.Line.Recognition
import ErDiagram.Proofs.Line.Script

/-!
# Lines that are padded and moved

What a line says does not depend on the blanks around it. They move the columns of its tokens, but
a token counts for what it is and for what it holds; and labels, comments and the quotations in
errors are taken from the text without the blanks around it. The number of a line is handed on to
relationships, to open blocks and to errors, and nothing is decided by it. Lines in the middle of
a document are therefore read like the same lines on their own.

The proof is a simulation. Two readers go along two lists of lines, of which each line is the
other one's with blanks around it and a number that is larger by `k`. `State.IsMoved` relates
their states, `State.IsMoved.step` is the one step in which they stay related or stop with errors
that correspond, and `State.IsMoved.readAll` is the run. As errors may occur on both sides only
together, results are related by `SyntaxError.SameResult`, which has one case for each of the two
outcomes and none in which they differ.

The shift `k` is an integer, so that lines may be moved up as well as down. A literal block in a
document moves its lines down by the number of lines up to its mark.
-/

namespace ErDiagram.Text

/-! ## Blanks around a text -/

variable {left right : List Char}

theorem strip_blank_append (hl : ∀ c ∈ left, isBlank c = true) (cs : List Char) :
    strip (left ++ cs) = strip cs := by
  rw [strip, strip, stripLeft, stripLeft, List.dropWhile_append_of_pos hl]

theorem stripRight_append_blank (cs : List Char) (hr : ∀ c ∈ right, isBlank c = true) :
    stripRight (cs ++ right) = stripRight cs := by
  rw [stripRight, stripRight, List.reverse_append,
    List.dropWhile_append_of_pos fun c hc => hr c (List.mem_reverse.1 hc)]

theorem strip_append_blank (cs : List Char) (hr : ∀ c ∈ right, isBlank c = true) :
    strip (cs ++ right) = strip cs := by
  induction cs with
  | nil => rw [List.nil_append, Line.strip_eq_nil_iff.2 hr]; rfl
  | cons c cs ih =>
    rw [List.cons_append]
    by_cases hc : isBlank c = true
    · rw [strip_cons_of_isBlank hc, strip_cons_of_isBlank hc, ih]
    · rw [Bool.not_eq_true] at hc
      rw [strip_cons_of_not_isBlank hc, strip_cons_of_not_isBlank hc,
        stripRight_append_blank cs hr]

theorem words_blank_append (hl : ∀ c ∈ left, isBlank c = true) (cs : List Char) :
    words (left ++ cs) = words cs := by
  induction left with
  | nil => rfl
  | cons c left ih =>
    rw [List.forall_mem_cons] at hl
    rw [List.cons_append, words_cons_of_isBlank hl.1, ih hl.2]

theorem wordsFrom_append_blank (n : ℕ) (cs : List Char) (hr : ∀ c ∈ right, isBlank c = true) :
    wordsFrom n (cs ++ right) = wordsFrom n cs := by
  induction cs generalizing n with
  | nil =>
    have h := map_chars_wordsFrom n right
    rw [words_eq_nil_iff.2 hr, List.map_eq_nil_iff] at h
    exact h
  | cons c cs ih => rw [List.cons_append, wordsFrom, wordsFrom, ih]

theorem words_append_blank (cs : List Char) (hr : ∀ c ∈ right, isBlank c = true) :
    words (cs ++ right) = words cs := by
  rw [words, words, wordsFrom_append_blank 0 cs hr]

end ErDiagram.Text

namespace ErDiagram.Line

open Text

/-! ## Tokens wherever they stand

Tokens know their columns. What follows says that this is of no consequence: they are compared by
what they are and what they hold. -/

/-- The token, put at the start of a line. Nothing that a line says is taken from a column, so
that putting all tokens at the start changes nothing (`ofTokens_map_atStart`), and lists of tokens
may be compared without their columns. -/
def Token.atStart (t : Token) : Token := { t with column := 0 }

/-- **A line says what its tokens hold**, wherever they stand. -/
theorem ofTokens_map_atStart (inBlock : Bool) (whole : String) (l : List Token) :
    ofTokens inBlock whole (l.map Token.atStart) = ofTokens inBlock whole l := by
  have hbody : (l.map Token.atStart).takeWhile (fun t => decide (t.kind ≠ .colon))
      = (l.takeWhile fun t => decide (t.kind ≠ .colon)).map Token.atStart := List.takeWhile_map
  have hfind : ∀ (p : TokenKind → Bool) (l : List Token),
      (l.map Token.atStart).find? (fun t => p t.kind)
        = (l.find? fun t => p t.kind).map Token.atStart := fun _ _ => List.find?_map
  have hany : ∀ (p : TokenKind → Bool) (l : List Token),
      (l.map Token.atStart).any (fun t => p t.kind) = l.any fun t => p t.kind :=
    fun _ _ => List.any_map
  have hlabel : ∀ x : Option Token, (x.map Token.atStart).map (·.chars) = x.map (·.chars) := by
    rintro (_ | _) <;> rfl
  unfold ofTokens
  rw [hbody]
  dsimp only
  rw [hany (· == .colon), hfind (· == .label), hlabel, hfind (· == .unknownSymbol),
    hany (· == .cardinality)]
  generalize l.takeWhile (fun t => decide (t.kind ≠ .colon)) = body
  generalize l.any (fun t => t.kind == .colon) = hasColon
  cases body.find? (fun t => t.kind == .unknownSymbol) with
  | some t => rfl
  | none =>
    dsimp only [Option.map_none]
    split
    · -- only a name, a symbol and a name are told apart from anything else
      rcases body with
        _ | ⟨⟨k₁, _, _⟩, _ | ⟨⟨k₂, _, _⟩, _ | ⟨⟨k₃, _, _⟩, _ | ⟨_, body⟩⟩⟩⟩
      · rfl
      · cases k₁ <;> rfl
      · cases k₁ <;> cases k₂ <;> rfl
      · cases k₁ <;> cases k₂ <;> cases k₃ <;> rfl
      · cases k₁ <;> cases k₂ <;> cases k₃ <;> rfl
    · rcases body with _ | ⟨⟨k₁, cs₁, n₁⟩, _ | ⟨⟨k₂, cs₂, n₂⟩, more⟩⟩
      · rfl
      · cases k₁ <;> cases hasColon <;> rfl
      · cases hasColon with
        | true => cases k₁ <;> rfl
        | false =>
          have htext : (more.map Token.atStart).map Token.text = more.map Token.text :=
            List.map_map
          have hall : ((⟨k₁, cs₁, n₁⟩ :: ⟨k₂, cs₂, n₂⟩ :: more).map Token.atStart).all
                (·.kind == .ident)
              = (⟨k₁, cs₁, n₁⟩ :: ⟨k₂, cs₂, n₂⟩ :: more).all (·.kind == .ident) := List.all_map
          rw [List.map_cons, List.map_cons] at hall ⊢
          dsimp only [Token.atStart] at hall ⊢
          -- either all tokens are names, or the line can only open a block
          cases k₁ <;> dsimp only <;> rw [hall, htext] <;> refine if_congr Iff.rfl rfl ?_ <;>
            cases inBlock <;> cases k₂ <;> cases more <;> rfl

/-- Lines whose tokens have the same contents say the same. -/
theorem ofTokens_congr (inBlock : Bool) (whole : String) {l l' : List Token}
    (h : l'.map Token.content = l.map Token.content) :
    ofTokens inBlock whole l' = ofTokens inBlock whole l := by
  have hstart : ∀ l : List Token, l.map Token.atStart
      = (l.map Token.content).map fun c => ⟨c.1, c.2, 0⟩ := by
    intro l
    rw [List.map_map]
    rfl
  rw [← ofTokens_map_atStart, hstart, h, ← hstart, ofTokens_map_atStart]

theorem map_content_splitAtSymbol? (c : Cardinality) (w : Word) :
    (splitAtSymbol? c w).map (List.map Token.content)
      = (splitAtSymbol? c ⟨0, w.chars⟩).map (List.map Token.content) := by
  unfold splitAtSymbol?
  dsimp only
  cases splitAround? c.chars w.chars with
  | none => rfl
  | some sides =>
    dsimp only
    split
    · split <;> rfl
    · rfl

theorem map_content_splitGlued? (w : Word) :
    (splitGlued? w).map (List.map Token.content)
      = (splitGlued? ⟨0, w.chars⟩).map (List.map Token.content) := by
  unfold splitGlued?
  rw [List.map_findSome?, List.map_findSome?]
  exact congrArg (List.findSome? · Cardinality.all)
    (funext fun c => map_content_splitAtSymbol? c w)

/-- **What a word is read as depends on its characters**, not on where it stands. The place is in
the columns alone, and every column is the one of the word and something that its characters
decide. -/
theorem map_content_wordTokens (w : Word) :
    (wordTokens w).map Token.content = (wordTokens ⟨0, w.chars⟩).map Token.content := by
  have hglued : ∀ (l : Option (List Token)) (d : List Token),
      (l.getD d).map Token.content = (l.map (List.map Token.content)).getD (d.map Token.content) :=
    fun l d => by cases l <;> rfl
  unfold wordTokens
  dsimp only
  split
  · rfl
  split
  · rfl
  split
  · rfl
  split
  · rfl
  split
  · rw [hglued, hglued, map_content_splitGlued?]
    rfl
  · split <;> rfl

theorem contents_eq_of_chars {ws ws' : List Word} (h : ws'.map (·.chars) = ws.map (·.chars)) :
    contents ws' = contents ws := by
  have hchars : ∀ ws : List Word, contents ws
      = (ws.map (·.chars)).flatMap fun cs => (wordTokens ⟨0, cs⟩).map Token.content := by
    intro ws
    rw [List.flatMap_map]
    exact congrArg (List.flatMap · ws) (funext map_content_wordTokens)
  rw [hchars, h, ← hchars]

theorem map_content_labelTokens (n m : ℕ) {tail tail' : List Char} (h : strip tail' = strip tail) :
    (labelTokens n tail').map Token.content = (labelTokens m tail).map Token.content := by
  unfold labelTokens
  dsimp only
  rw [h]
  split <;> rfl

theorem isSilent_congr {cs cs' : List Char} (h : strip cs' = strip cs) :
    isSilent cs' = isSilent cs := by
  rw [isSilent, h, isSilent]

/-- **The contents of the tokens of a line** depend on the words before its colon, on what stands
behind it and on whether the line is silent, but not on the blanks in between. The three
conditions are all that the scan asks of a line, apart from the columns that it counts. -/
theorem map_content_tokenize {cs cs' : List Char} (hstrip : strip cs' = strip cs)
    (hwords : words (beforeColon cs') = words (beforeColon cs))
    (hlabel : (afterColon? cs').map strip = (afterColon? cs).map strip) :
    (tokenize cs').map Token.content = (tokenize cs).map Token.content := by
  unfold tokenize
  rw [isSilent_congr hstrip]
  split
  · rfl
  · dsimp only
    rw [List.map_append, List.map_append, List.map_flatMap, List.map_flatMap]
    refine congrArg₂ (· ++ ·) (contents_eq_of_chars hwords) ?_
    cases htail : afterColon? cs with
    | none =>
      rw [htail, Option.map_none, Option.map_eq_none_iff] at hlabel
      rw [hlabel]
    | some tail =>
      rw [htail] at hlabel
      obtain ⟨tail', htail', hsame⟩ := Option.map_eq_some_iff.1 hlabel
      rw [htail']
      exact map_content_labelTokens _ _ hsame

/-! ## Blanks around a line -/

variable {left right : List Char}

theorem ne_colon_of_isBlank {x : Char} (h : isBlank x = true) : x ≠ ':' := by
  rintro rfl
  exact absurd h (by decide)

/-- Blanks around a line are blanks around the words before its colon, or around its label. -/
theorem map_content_tokenize_pad (hl : ∀ c ∈ left, isBlank c = true)
    (hr : ∀ c ∈ right, isBlank c = true) (cs : List Char) :
    (tokenize (left ++ (cs ++ right))).map Token.content = (tokenize cs).map Token.content := by
  have hleft : ∀ x ∈ left, x ≠ ':' := fun x hx => ne_colon_of_isBlank (hl x hx)
  have hright : ∀ x ∈ right, x ≠ ':' := fun x hx => ne_colon_of_isBlank (hr x hx)
  have hstrip : strip (left ++ (cs ++ right)) = strip cs := by
    rw [strip_blank_append hl, strip_append_blank cs hr]
  by_cases hcolon : ':' ∈ cs
  · obtain ⟨head, tail, rfl, hhead⟩ := List.eq_append_cons_of_mem hcolon
    have hne : ∀ x ∈ head, x ≠ ':' := fun x hx => ne_of_mem_of_not_mem hx hhead
    have hne' : ∀ x ∈ left ++ head, x ≠ ':' := List.forall_mem_append.2 ⟨hleft, hne⟩
    have hpad : left ++ (head ++ ':' :: tail ++ right) = (left ++ head) ++ ':' :: (tail ++ right) :=
      by simp
    refine map_content_tokenize hstrip ?_ ?_
    · rw [hpad, beforeColon_append hne', beforeColon_append hne, words_blank_append hl]
    · rw [hpad, afterColon?_append hne', afterColon?_append hne, Option.map_some, Option.map_some,
        strip_append_blank tail hr]
  · have hne : ∀ x ∈ cs, x ≠ ':' := fun x hx => ne_of_mem_of_not_mem hx hcolon
    have hne' : ∀ x ∈ left ++ (cs ++ right), x ≠ ':' :=
      List.forall_mem_append.2 ⟨hleft, List.forall_mem_append.2 ⟨hne, hright⟩⟩
    refine map_content_tokenize hstrip ?_ ?_
    · rw [beforeColon_eq_self hne', beforeColon_eq_self hne, words_blank_append hl,
        words_append_blank cs hr]
    · rw [afterColon?_eq_none hne', afterColon?_eq_none hne]

/-- **Padding does not change what a line says.** Columns move, and what is quoted in an error is
the text without the blanks around it. -/
theorem classify_of_pad {inBlock : Bool} {text text' : String} (hl : ∀ c ∈ left, isBlank c = true)
    (hr : ∀ c ∈ right, isBlank c = true) (h : text'.toList = left ++ (text.toList ++ right)) :
    classify inBlock text' = classify inBlock text := by
  have htokens := map_content_tokenize_pad hl hr text.toList
  have hstrip : strip text'.toList = strip text.toList := by
    rw [h, strip_blank_append hl, strip_append_blank _ hr]
  rw [← h] at htokens
  unfold classify
  dsimp only
  rw [hstrip]
  cases hl : tokenize text.toList with
  | nil =>
    rw [hl, List.map_nil, List.map_eq_nil_iff] at htokens
    rw [htokens]
  | cons t l =>
    rw [hl] at htokens
    obtain ⟨t', l', hl', _⟩ := List.map_eq_cons_iff.1 htokens
    rw [hl'] at htokens ⊢
    exact ofTokens_congr _ _ htokens

end ErDiagram.Line

namespace ErDiagram

open Text

/-! ## Moved lines

Two readers go along corresponding lines. The relation between their states is kept by a step, and
where one of them stops with an error, so does the other. -/

/-- **A line as it stands in another place**: with blanks around it, and its number larger by `k`.
The blanks need not be the same for all lines, so that an indented block is a case of it as well
as lines that are indented at random. -/
structure NumberedLine.IsPadded (k : ℤ) (l l' : NumberedLine) : Prop where
  /-- The texts differ in blanks around them, which are those of the second text. The first one
  may have blanks of its own. -/
  text : ∃ left right, (∀ c ∈ left, isBlank c = true) ∧ (∀ c ∈ right, isBlank c = true) ∧
    l'.text.toList = left ++ (l.text.toList ++ right)
  /-- The numbers differ by `k`, which is compared over the integers, as lines may be moved up. -/
  line : (l'.line : ℤ) = l.line + k

/-- The relationship, read from a line whose number is larger by `k`. -/
def Relationship.movedBy (k : ℤ) (r : Relationship) : Relationship :=
  { r with line := r.line.map (· + k) }

/-- **Two diagrams that differ only in the lines of their relationships**: those that are new
since `start` come from lines whose numbers are larger by `k` in the second one. The relationships
in `start` have been there before either list of lines was read, so that their lines are not
moved. -/
def Diagram.IsMoved (start : List Relationship) (k : ℤ) (d d' : Diagram) : Prop :=
  ∃ new, d.relationships = start ++ new ∧
    d' = { d with relationships := start ++ new.map (·.movedBy k) }

/-- **The same result in another place**: results that correspond, or the same error on lines
whose numbers differ by `k`. The cause is the same in full, with all texts that it quotes, as
these are quoted without the blanks around them. -/
inductive SyntaxError.SameResult {α : Type} (R : α → α → Prop) (k : ℤ) :
    Except SyntaxError α → Except SyntaxError α → Prop where
  | ok {a a' : α} : R a a' → SameResult R k (.ok a) (.ok a')
  | error {cause : SyntaxCause} {line line' : ℕ} : (line' : ℤ) = line + k →
      SameResult R k (.error ⟨cause, line⟩) (.error ⟨cause, line'⟩)

open SyntaxError (SameResult)

variable {start : List Relationship} {k : ℤ} {d d' : Diagram}

theorem Diagram.declare_withRelationships (d : Diagram) (rs : List Relationship) (name : String) :
    ({ d with relationships := rs } : Diagram).declare name
      = { d.declare name with relationships := rs } := by
  unfold declare entityNames
  dsimp only
  split <;> rfl

theorem Diagram.IsMoved.declare (h : d.IsMoved start k d') (name : String) :
    (d.declare name).IsMoved start k (d'.declare name) := by
  obtain ⟨new, hnew, rfl⟩ := h
  exact ⟨new, (d.relationships_declare name).trans hnew, d.declare_withRelationships _ name⟩

theorem Diagram.IsMoved.addAttribute (h : d.IsMoved start k d') (name : String) (a : Attribute) :
    (d.addAttribute name a).IsMoved start k (d'.addAttribute name a) := by
  obtain ⟨new, hnew, hd'⟩ := h.declare name
  refine ⟨new, hnew, ?_⟩
  unfold Diagram.addAttribute
  rw [hd']
  rfl

theorem Diagram.IsMoved.addRelationship {r r' : Relationship} (h : d.IsMoved start k d')
    (hr : r' = r.movedBy k) :
    (d.addRelationship r).IsMoved start k (d'.addRelationship r') := by
  obtain ⟨new, hnew, hd'⟩ := (h.declare r.source).declare r.target
  subst hr
  refine ⟨new ++ [r], ?_, ?_⟩
  · unfold Diagram.addRelationship
    dsimp only
    rw [hnew, List.append_assoc]
  · show Diagram.addRelationship d' (r.movedBy k) = _
    unfold Diagram.addRelationship Relationship.movedBy
    dsimp only
    rw [hd', List.map_append, List.append_assoc]
    rfl

namespace Line

/-- Two open blocks whose first lines have numbers that differ by `k`. The number is remembered
for the error of a block that is never closed. -/
def Block.IsMoved (k : ℤ) (b b' : Block) : Prop :=
  b'.entity = b.entity ∧ (b'.line : ℤ) = b.line + k

/-- **Two states that correspond**: in each a block of the same entity is open, or none, and the
diagrams are the same apart from the lines of the relationships that were read. -/
structure State.IsMoved (start : List Relationship) (k : ℤ) (s s' : State) : Prop where
  /-- The open blocks correspond. -/
  block : Option.Rel (Block.IsMoved k) s.block s'.block
  /-- The diagrams so far correspond. -/
  diagram : s.diagram.IsMoved start k s'.diagram

variable {s s' : State} {l l' : NumberedLine}

theorem quoted_of_isPadded (h : l.IsPadded k l') : l'.quoted = l.quoted := by
  obtain ⟨left, right, hl, hr, htext⟩ := h.text
  rw [NumberedLine.quoted, NumberedLine.quoted, htext, strip_blank_append hl,
    strip_append_blank _ hr]

/-- **Lines that say the same change states in the same way.** What the lines say is given, so
that only their numbers and their quotations are left to differ, and the quotations do not. -/
theorem State.IsMoved.step (h : s.IsMoved start k s') (hl : l.IsPadded k l') (line : Line) :
    SameResult (State.IsMoved start k) k (s.step l line) (s'.step l' line) := by
  obtain ⟨block, d⟩ := s
  obtain ⟨block', d'⟩ := s'
  obtain ⟨hblock, hd⟩ := h
  dsimp only at hblock hd
  have hsame : ∀ cause, SameResult (State.IsMoved start k) k (l.fail cause) (l'.fail cause) :=
    fun _ => .error hl.line
  cases line with
  | blank => exact .ok ⟨hblock, hd⟩
  | relationship source cardinality target label =>
    unfold State.step
    cases hblock with
    | some hb =>
      dsimp only
      rw [hb.1]
      exact hsame _
    | none =>
      refine .ok ⟨.none, hd.addRelationship ?_⟩
      rw [Relationship.movedBy, Option.map_some, Int.ofNat_eq_natCast, hl.line]
      rfl
  | «attribute» name dataType flags =>
    unfold State.step
    cases hblock with
    | some hb =>
      dsimp only
      rw [hb.1]
      exact .ok ⟨.some hb, hd.addAttribute _ _⟩
    | none =>
      dsimp only
      rw [quoted_of_isPadded hl]
      exact hsame _
  | entity name opensBlock =>
    by_cases hn : isHeader name = true
    · rw [State.step_header hn, State.step_header hn]
      exact .ok ⟨hblock, hd⟩
    · rw [Bool.not_eq_true] at hn
      rw [State.step_entity hn, State.step_entity hn]
      refine .ok ⟨?_, hd.declare name⟩
      cases opensBlock with
      | true => exact .some ⟨rfl, hl.line⟩
      | false => exact hblock
  | blockEnd =>
    unfold State.step
    cases hblock with
    | some => exact .ok ⟨.none, hd⟩
    | none => exact hsame _
  | key name value =>
    by_cases ht : isTitleKey name = true
    · rw [State.step_title ht, State.step_title ht]
      obtain ⟨new, hnew, hd'⟩ := hd
      exact .ok ⟨hblock, new, hnew, by rw [hd']⟩
    by_cases hn : isHeader name = true
    · rw [State.step_headerKey hn, State.step_headerKey hn]
      exact .ok ⟨hblock, hd⟩
    · unfold State.step
      dsimp only
      rw [if_neg ht, if_neg hn, if_neg ht, if_neg hn, quoted_of_isPadded hl]
      exact hsame _

/-- **One line leads from states that correspond to states that correspond.** What the two lines
say is the same, or the same is wrong with them. -/
theorem State.IsMoved.read (h : s.IsMoved start k s') (hl : l.IsPadded k l') :
    SameResult (State.IsMoved start k) k (s.read l) (s'.read l') := by
  obtain ⟨left, right, hleft, hright, htext⟩ := hl.text
  have hopen : ∀ {b b'}, Option.Rel (Block.IsMoved k) b b' → b'.isSome = b.isSome := by
    rintro _ _ (_ | _) <;> rfl
  unfold State.read NumberedLine.classify
  rw [hopen h.block, classify_of_pad hleft hright htext]
  cases classify s.block.isSome l.text with
  | error cause => exact .error hl.line
  | ok line => exact h.step hl line

/-- **All lines lead from states that correspond to results that correspond.** The induction is on
the lists together, and it ends where a block may be open: then it is so on both sides. -/
theorem State.IsMoved.readAll {ls ls' : List NumberedLine}
    (hls : List.Forall₂ (NumberedLine.IsPadded k) ls ls') (h : s.IsMoved start k s') :
    SameResult (Diagram.IsMoved start k) k (s.readAll ls) (s'.readAll ls') := by
  induction hls generalizing s s' with
  | nil =>
    obtain ⟨block, d⟩ := s
    obtain ⟨block', d'⟩ := s'
    obtain ⟨hblock, hd⟩ := h
    dsimp only at hblock hd
    unfold State.readAll
    cases hblock with
    | none => exact .ok hd
    | some hb =>
      dsimp only
      rw [hb.1]
      exact .error hb.2
  | @cons l l' _ _ hl _ ih =>
    have hread := h.read hl
    unfold State.readAll
    generalize s.read l = r, s'.read l' = r' at hread
    cases hread with
    | error hline => exact .error hline
    | ok hstate => exact ih hstate

end Line

/-- A literal block has the lines of its text, and the first one is the line after its mark. -/
theorem forall₂_isPadded_blockLines (source : List (List Char)) (text : String) (first : ℕ) :
    List.Forall₂ (NumberedLine.IsPadded (first + 1))
      (NumberedLine.ofLines (splitAt '\n' text.toList))
      (Document.blockLines source .literal text first) := by
  unfold NumberedLine.ofLines Document.blockLines
  rw [List.forall₂_map_left_iff, List.forall₂_map_right_iff, List.forall₂_same]
  rintro ⟨cs, i⟩ _
  refine ⟨⟨[], [], nofun, nofun, (List.append_nil _).symm⟩, ?_⟩
  dsimp only
  omega

/-- **Lines are read in the same way wherever they stand.** If all lines are padded with blanks
and all numbers are larger by `k`, then the same title and entities are read, and the same
relationships with lines that are larger by `k`; or the same error is found on a line that is. The
text of a literal block is therefore read like a text of its own.

The diagram that is read into may hold something already, since a document may have lines in
several places, and each place adds to what the others have given. -/
theorem Diagram.readLines_isPadded (d : Diagram) :
    (∀ (k : ℤ) (ls ls' : List NumberedLine), List.Forall₂ (NumberedLine.IsPadded k) ls ls' →
      SameResult (Diagram.IsMoved d.relationships k) k (d.readLines ls) (d.readLines ls')) ∧
    ∀ (source : List (List Char)) (text : String) (first : ℕ),
      SameResult (Diagram.IsMoved d.relationships (first + 1)) (first + 1)
        (d.readLines (NumberedLine.ofLines (splitAt '\n' text.toList)))
        (d.readLines (Document.blockLines source .literal text first)) := by
  have hstart : ∀ k, (Line.State.mk none d).IsMoved d.relationships k ⟨none, d⟩ := fun k =>
    ⟨.none, [], (List.append_nil _).symm, by rw [List.map_nil, List.append_nil]⟩
  exact ⟨fun k _ _ hls => (hstart k).readAll hls, fun source text first =>
    (hstart _).readAll (forall₂_isPadded_blockLines source text first)⟩

/-- A block and a relationship, indented and three lines further down. -/
theorem Diagram.readLines_isPadded_indented :
    List.Forall₂ (NumberedLine.IsPadded 3)
        [⟨"A \x7b", 1⟩, ⟨"a : int", 2⟩, ⟨"\x7d", 3⟩, ⟨"A ||--|| B : b", 4⟩]
        [⟨"  A \x7b", 4⟩, ⟨"\ta : int ", 5⟩, ⟨"  \x7d", 6⟩, ⟨" A ||--|| B : b\t", 7⟩] ∧
      SameResult (Diagram.IsMoved [] 3) 3
        (Diagram.readLines {}
          [⟨"A \x7b", 1⟩, ⟨"a : int", 2⟩, ⟨"\x7d", 3⟩, ⟨"A ||--|| B : b", 4⟩])
        (Diagram.readLines {}
          [⟨"  A \x7b", 4⟩, ⟨"\ta : int ", 5⟩, ⟨"  \x7d", 6⟩, ⟨" A ||--|| B : b\t", 7⟩]) := by
  have hls : List.Forall₂ (NumberedLine.IsPadded 3)
      [⟨"A \x7b", 1⟩, ⟨"a : int", 2⟩, ⟨"\x7d", 3⟩, ⟨"A ||--|| B : b", 4⟩]
      [⟨"  A \x7b", 4⟩, ⟨"\ta : int ", 5⟩, ⟨"  \x7d", 6⟩, ⟨" A ||--|| B : b\t", 7⟩] := by
    have hspace : ∀ c ∈ [' '], isBlank c = true := List.forall_mem_singleton.2 isBlank_space
    have hspaces : ∀ c ∈ [' ', ' '], isBlank c = true :=
      List.forall_mem_cons.2 ⟨isBlank_space, hspace⟩
    have htab : ∀ c ∈ ['\t'], isBlank c = true := List.forall_mem_singleton.2 (by decide)
    refine .cons ⟨⟨_, [], hspaces, nofun, rfl⟩, rfl⟩ (.cons ⟨⟨_, _, htab, hspace, rfl⟩, rfl⟩
      (.cons ⟨⟨_, [], hspaces, nofun, rfl⟩, rfl⟩ (.cons ⟨⟨_, _, hspace, htab, rfl⟩, rfl⟩ .nil)))
  exact ⟨hls, (readLines_isPadded {}).1 3 _ _ hls⟩

end ErDiagram
