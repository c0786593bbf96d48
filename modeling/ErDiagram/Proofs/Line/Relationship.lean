import ErDiagram.Document.Outline
import ErDiagram.Proofs.Line.Names

/-!
# Relationship lines are read back

A relationship is written as its two ends around its symbol, with the words of the label behind a
colon. None of the three words can be taken for anything else, and no colon stands before the one
of the label, so that the line is read as the same relationship whatever the label is. What is not
kept is how the label was spelled: its words come back with single spaces between them, and
without one pair of quotes if there is one around them all.

The tokens of the line are computed in two parts, which are joined by the colon. In front of it
there are the three words and nothing else (`wordsFrom_endsChars`); behind it there is what the
reader takes for the label (`labelOf_labelTokens`). The first part is stated for any text that the
label may leave between the words and the colon, which is a space or nothing, so that a line
without a label is the same case as one with a label.

The label that comes back is given as a function here (`labelBack`), since it is what the proofs
compute with.
-/

namespace ErDiagram.Line

open Text

/-! ## The three words of a relationship line

The words are an identifier, a symbol and an identifier, with single spaces between them. Each is
a word by itself, and nothing in it can be taken for something else. -/

theorem isWord_chars (c : Cardinality) : IsWord c.chars := by
  obtain ⟨s, t⟩ := c
  cases s <;> cases t <;> decide

theorem ne_colon_of_mem_chars (c : Cardinality) : ∀ x ∈ c.chars, x ≠ ':' := by
  have hcolon : ':' ∉ c.chars := by
    obtain ⟨s, t⟩ := c
    cases s <;> cases t <;> decide
  exact fun x hx he => hcolon (he ▸ hx)

/-- A symbol starts with a bar or a brace. -/
theorem head?_chars (c : Cardinality) : c.chars.head? = some '|' ∨ c.chars.head? = some '}' := by
  obtain ⟨s, t⟩ := c
  cases s <;> cases t <;> decide

theorem ofChars?_of_isIdentifier {cs : List Char} (h : isIdentifier cs = true) :
    Cardinality.ofChars? cs = none := by
  obtain ⟨x, rest, rfl, hx⟩ := exists_cons_of_isIdentifier h
  refine List.find?_eq_none.2 fun c _ hc => ?_
  have hhead := head?_chars c
  rw [eq_of_beq hc, List.head?_cons, Option.some.injEq, Option.some.injEq] at hhead
  rcases hhead with rfl | rfl
  · exact absurd hx (by decide)
  · exact absurd hx (by decide)

theorem wordTokens_of_isIdentifier {cs : List Char} (h : isIdentifier cs = true) (n : Nat) :
    wordTokens ⟨n, cs⟩ = [⟨.ident, cs, n⟩] := by
  unfold wordTokens
  rw [if_neg (by rw [ofChars?_of_isIdentifier h]; decide), if_neg, if_neg, if_pos h]
  · rintro rfl
    exact absurd h (by decide)
  · rintro rfl
    exact absurd h (by decide)

theorem wordTokens_chars (c : Cardinality) (n : Nat) :
    wordTokens ⟨n, c.chars⟩ = [⟨.cardinality, c.chars, n⟩] := by
  unfold wordTokens
  rw [if_pos (by rw [Cardinality.ofChars?_chars]; rfl)]

/-- The ends of a relationship around its symbol: what stands in front of the label, and all of
the line if there is none. -/
def endsChars (s : List Char) (c : Cardinality) (t : List Char) : List Char :=
  s ++ ' ' :: (c.chars ++ ' ' :: t)

/-- Its characters are those of its words, and spaces. -/
theorem mem_or_eq_space_of_mem_endsChars {s t : List Char} {c : Cardinality} {x : Char}
    (h : x ∈ endsChars s c t) : (x ∈ s ∨ x ∈ c.chars ∨ x ∈ t) ∨ x = ' ' := by
  simp only [endsChars, List.mem_append, List.mem_cons] at h
  rcases h with h | h | h | h | h
  · exact .inl (.inl h)
  · exact .inr h
  · exact .inl (.inr (.inl h))
  · exact .inr h
  · exact .inl (.inr (.inr h))

/-- No colon stands in an identifier. -/
theorem ne_colon_of_mem_identifier {cs : List Char} (h : isIdentifier cs = true) :
    ∀ x ∈ cs, x ≠ ':' :=
  fun _ hx => ne_of_mem_identifier h hx (by decide) (by decide)

theorem ne_colon_of_mem_endsChars {s t : List Char} {c : Cardinality}
    (hs : ∀ x ∈ s, x ≠ ':') (ht : ∀ x ∈ t, x ≠ ':') : ∀ x ∈ endsChars s c t, x ≠ ':' := by
  intro x hx
  rcases mem_or_eq_space_of_mem_endsChars hx with (hx | hx | hx) | rfl
  · exact hs x hx
  · exact ne_colon_of_mem_chars c x hx
  · exact ht x hx
  · decide

/-- The last two words of a relationship line. -/
theorem wordsFrom_endsChars_nil {t rest : List Char} (c : Cardinality)
    (ht : isIdentifier t = true) (hr : ∀ x ∈ rest, isBlank x = true) (n : Nat) :
    wordsFrom n (endsChars [] c t ++ rest)
      = [⟨n + 1, c.chars⟩, ⟨n + 1 + c.chars.length + 1, t⟩] := by
  have hends : EndsWord rest := fun x hx => hr x (List.mem_of_mem_head? hx)
  have hlast : ∀ n, wordsFrom n rest = [] := fun n => by
    rw [← List.map_eq_nil_iff, map_chars_wordsFrom]
    exact words_eq_nil_iff.2 hr
  rw [endsChars, List.nil_append, List.cons_append, List.append_assoc, List.cons_append,
    wordsFrom_cons_of_isBlank isBlank_space,
    wordsFrom_append (isWord_chars c) (endsWord_cons isBlank_space _),
    wordsFrom_cons_of_isBlank isBlank_space,
    wordsFrom_append (isWord_of_isIdentifier ht) hends, hlast]

/-- **A relationship line has three words.** Their columns are told as well, since tokens have
them, though nothing is decided by a column. -/
theorem wordsFrom_endsChars {s t rest : List Char} (c : Cardinality)
    (hs : isIdentifier s = true) (ht : isIdentifier t = true) (hr : ∀ x ∈ rest, isBlank x = true) :
    wordsFrom 0 (endsChars s c t ++ rest)
      = [⟨0, s⟩, ⟨s.length + 1, c.chars⟩, ⟨s.length + 1 + c.chars.length + 1, t⟩] := by
  have hline : endsChars s c t ++ rest = s ++ (endsChars [] c t ++ rest) :=
    List.append_assoc s (endsChars [] c t) rest
  have hends : EndsWord (endsChars [] c t ++ rest) := endsWord_cons isBlank_space _
  rw [hline, wordsFrom_append (isWord_of_isIdentifier hs) hends,
    wordsFrom_endsChars_nil c ht hr, Nat.zero_add]

/-- A line that starts with a name is not silent. -/
theorem isSilent_append {s : List Char} (hs : isIdentifier s = true) (rest : List Char) :
    isSilent (s ++ rest) = false := by
  obtain ⟨x, s, rfl, hx⟩ := exists_cons_of_isIdentifier hs
  unfold isSilent
  rw [List.cons_append, strip_cons_of_not_isBlank (isBlank_eq_false_of_isWordChar hx)]
  generalize stripRight _ = more
  split
  · next h => cases h
  · next h =>
    cases h
    exact absurd hx (by decide)
  · next h =>
    cases h
    exact absurd hx (by decide)
  · rfl

theorem isSilent_endsChars {s : List Char} (c : Cardinality) (t rest : List Char)
    (hs : isIdentifier s = true) : isSilent (endsChars s c t ++ rest) = false := by
  rw [endsChars, List.append_assoc]
  exact isSilent_append hs _

/-- The tokens of the ends and the symbol of a relationship. -/
def endsTokens (s : List Char) (c : Cardinality) (t : List Char) : List Token :=
  [⟨.ident, s, 0⟩, ⟨.cardinality, c.chars, s.length + 1⟩,
    ⟨.ident, t, s.length + 1 + c.chars.length + 1⟩]

theorem flatMap_wordTokens_endsChars {s t : List Char} (c : Cardinality)
    (hs : isIdentifier s = true) (ht : isIdentifier t = true) (rest : List Char)
    (hr : ∀ x ∈ rest, isBlank x = true) :
    (wordsFrom 0 (endsChars s c t ++ rest)).flatMap wordTokens = endsTokens s c t := by
  rw [wordsFrom_endsChars c hs ht hr]
  simp only [List.flatMap_cons, List.flatMap_nil, wordTokens_of_isIdentifier hs,
    wordTokens_of_isIdentifier ht, wordTokens_chars]
  rfl

/-! ## The part before the colon -/

theorem beforeColon_eq_self {cs : List Char} (h : ∀ x ∈ cs, x ≠ ':') : beforeColon cs = cs := by
  rw [beforeColon, ← List.append_nil cs, List.takeWhile_append_of_pos
    (fun x hx => decide_eq_true (h x hx)), List.takeWhile_nil]

theorem afterColon?_eq_none {cs : List Char} (h : ∀ x ∈ cs, x ≠ ':') :
    afterColon? cs = none := by
  rw [afterColon?, ← List.append_nil cs, List.dropWhile_append_of_pos
    (fun x hx => decide_eq_true (h x hx)), List.dropWhile_nil]

theorem beforeColon_append {cs : List Char} (h : ∀ x ∈ cs, x ≠ ':') (label : List Char) :
    beforeColon (cs ++ ':' :: label) = cs := by
  rw [beforeColon, List.takeWhile_append_of_pos (fun x hx => decide_eq_true (h x hx)),
    List.takeWhile_cons_of_neg (by decide), List.append_nil]

theorem afterColon?_append {cs : List Char} (h : ∀ x ∈ cs, x ≠ ':') (label : List Char) :
    afterColon? (cs ++ ':' :: label) = some label := by
  rw [afterColon?, List.dropWhile_append_of_pos (fun x hx => decide_eq_true (h x hx)),
    List.dropWhile_cons_of_neg (by decide)]

/-! ## What the line says -/

/-- **The label that a relationship is read back with**: its words with single spaces between
them, without a pair of quotes around them all, and none if it has no words. The case without
words comes first, because then there is nothing behind the colon, and a label of two quotes is
not such a case. -/
def labelBack (label : Option String) : Option String :=
  label.bind fun l =>
    if words l.toList = [] then none
    else some (String.ofList (unquote (squeeze l.toList)))

/-- Whether a text stands between two quotes of one kind. A single quote alone does not, as it
cannot be both of them. -/
def IsQuoted (cs : List Char) : Prop :=
  ∃ q body, (q = '"' ∨ q = '\'') ∧ cs = q :: (body ++ [q])

theorem unquote_quoted {q : Char} (h : q = '"' ∨ q = '\'') (body : List Char) :
    unquote (q :: (body ++ [q])) = body := by
  rw [unquote, if_pos ⟨h, List.getLast?_concat⟩, List.dropLast_concat]

theorem unquote_eq_self_iff {cs : List Char} : unquote cs = cs ↔ ¬ IsQuoted cs := by
  constructor
  · rintro h ⟨q, body, hq, rfl⟩
    rw [unquote_quoted hq] at h
    have hlength := congrArg List.length h
    simp only [List.length_cons, List.length_append, List.length_nil] at hlength
    omega
  · intro h
    cases cs with
    | nil => rfl
    | cons q rest =>
      refine if_neg fun ⟨hq, hlast⟩ => ?_
      obtain ⟨body, rfl⟩ := List.getLast?_eq_some_iff.1 hlast
      exact h ⟨q, body, hq, rfl⟩

/-- **A label in its normal form is read back as it is**: one that is not empty, has single
spaces between its words and no quotes around them. -/
theorem labelBack_eq_self {l : String} (hne : l ≠ "") (hs : squeeze l.toList = l.toList)
    (hq : ¬ IsQuoted l.toList) : labelBack (some l) = some l := by
  have hwords : words l.toList ≠ [] := by
    rw [Ne, ← squeeze_eq_nil_iff, hs, String.toList_eq_nil_iff]
    exact hne
  rw [labelBack, Option.bind_some, if_neg hwords, hs, unquote_eq_self_iff.2 hq,
    String.ofList_toList]

/-- The ends and the symbol decide what a line says; a label token behind the colon gives the
label. -/
theorem ofTokens_endsTokens (inBlock : Bool) (whole : String) (s t : List Char)
    (c : Cardinality) (more : List Token)
    (hmore : ∀ x, more.head? = some x → x.kind = .colon) :
    ofTokens inBlock whole (endsTokens s c t ++ more)
      = .ok (.relationship (String.ofList s) c (String.ofList t)
          (labelOf ((more.find? (·.kind == .label)).map (·.chars)))) := by
  -- no colon among the first three tokens, and nothing but a colon behind them
  have hbody : (endsTokens s c t ++ more).takeWhile (fun x => decide (x.kind ≠ .colon))
      = endsTokens s c t := by
    rw [List.takeWhile_append_of_pos (by simp [endsTokens])]
    cases more with
    | nil => rw [List.takeWhile_nil, List.append_nil]
    | cons x more =>
      rw [List.takeWhile_cons_of_neg (by simp [hmore x rfl]), List.append_nil]
  unfold ofTokens
  rw [hbody]
  simp [endsTokens, Cardinality.ofChars?_chars]

/-- The label token of a squeezed label is the label. -/
theorem labelOf_labelTokens (n : Nat) (cs : List Char) :
    labelOf (((labelTokens n (' ' :: squeeze cs)).find? (·.kind == .label)).map (·.chars))
      = if words cs = [] then none else some (String.ofList (unquote (squeeze cs))) := by
  rw [labelTokens, strip_cons_of_isBlank isBlank_space, strip_squeeze]
  by_cases h : words cs = []
  · rw [if_pos (List.isEmpty_iff.2 (squeeze_eq_nil_iff.2 h)), if_pos h]
    rfl
  · rw [if_neg fun he => h (squeeze_eq_nil_iff.1 (List.isEmpty_iff.1 he)), if_neg h]
    rfl

/-- The label of a relationship line: a colon and the words of the label, if the label is not
empty. A label of blanks is not empty, so that it leaves its colon in the line. -/
def labelChars : Option String → List Char
  | none => []
  | some l => if l.isEmpty then [] else ' ' :: ':' :: ' ' :: squeeze l.toList

/-- A label that is missing or empty leaves no colon, and is read as none. -/
theorem labelChars_cases (label : Option String) :
    labelChars label = [] ∧ labelBack label = none ∨
      ∃ l, label = some l ∧ labelChars label = ' ' :: ':' :: ' ' :: squeeze l.toList := by
  cases label with
  | none => exact .inl ⟨rfl, rfl⟩
  | some l =>
    by_cases he : l.isEmpty = true
    · have hl : l.toList = [] := by simpa using he
      refine .inl ⟨if_pos he, ?_⟩
      rw [labelBack, Option.bind_some, hl]
      rfl
    · exact .inr ⟨l, rfl, if_neg he⟩

/-- **The tokens of a line with a label.** Those of the words before the label come first, then
the colon, if there is one, and behind it what is read as the label. The text before the label may
be any without a colon, so that lines which start in another way can use this as well. -/
theorem exists_tokenize_append_labelChars {cs : List Char} (label : Option String)
    (hcolon : ∀ x ∈ cs, x ≠ ':') (hspeaks : isSilent (cs ++ labelChars label) = false) :
    ∃ rest more, (∀ x ∈ rest, isBlank x = true) ∧
      tokenize (cs ++ labelChars label)
        = (wordsFrom 0 (cs ++ rest)).flatMap wordTokens ++ more ∧
      (∀ x, more.head? = some x → x.kind = .colon) ∧
      labelOf ((more.find? (·.kind == .label)).map (·.chars)) = labelBack label := by
  rw [tokenize, hspeaks, if_neg Bool.false_ne_true]
  rcases labelChars_cases label with ⟨hnone, hback⟩ | ⟨l, rfl, hsome⟩
  · rw [hnone, List.append_nil, beforeColon_eq_self hcolon, afterColon?_eq_none hcolon, hback]
    exact ⟨[], [], nofun, by simp only [List.append_nil], nofun, rfl⟩
  · have hhead : ∀ x ∈ cs ++ [' '], x ≠ ':' := by
      intro x hx
      rcases List.mem_append.1 hx with hx | hx
      · exact hcolon x hx
      · rw [List.mem_singleton.1 hx]
        decide
    rw [hsome, List.append_cons, beforeColon_append hhead, afterColon?_append hhead]
    refine ⟨[' '], labelTokens (cs ++ [' ']).length (' ' :: squeeze l.toList), fun x hx => ?_, rfl,
      fun x hx => ?_, ?_⟩
    · rw [List.mem_singleton.1 hx]
      exact isBlank_space
    · rw [labelTokens, List.head?_cons, Option.some.injEq] at hx
      rw [← hx]
    · rw [labelOf_labelTokens]
      rfl

/-- The characters of a relationship line. -/
theorem toList_relationshipLine (s t : String) (c : Cardinality) (label : Option String) :
    (Outline.relationshipLine s c t label).toList
      = endsChars s.toList c t.toList ++ labelChars label := by
  have hline : (s ++ " " ++ c.symbol ++ " " ++ t).toList = endsChars s.toList c t.toList := by
    simp [endsChars, Cardinality.symbol]
  unfold Outline.relationshipLine labelChars
  cases label with
  | none => rw [hline, List.append_nil]
  | some l =>
    dsimp only
    split
    · rw [hline, List.append_nil]
    · rw [String.toList_append, String.toList_append, hline, Outline.labelText,
        String.toList_ofList, List.append_assoc]
      simp

/-- A line whose tokens begin with the ends of a relationship is read by these tokens. -/
theorem classify_of_tokenize {inBlock : Bool} {text : String} {s t : List Char}
    {c : Cardinality} {more : List Token}
    (h : tokenize text.toList = endsTokens s c t ++ more) :
    classify inBlock text
      = ofTokens inBlock (String.ofList (strip text.toList)) (endsTokens s c t ++ more) := by
  unfold classify
  dsimp only
  rw [h]
  rfl

/-- **A relationship line says the relationship that it was written for**, in a block and outside.
Both are needed: the line stands among others when it is written, but where it is read from is up
to the reader. -/
theorem classify_relationshipLine (inBlock : Bool) {s t : String} (c : Cardinality)
    (label : Option String) (hs : isIdentifier s.toList = true)
    (ht : isIdentifier t.toList = true) :
    classify inBlock (Outline.relationshipLine s c t label)
      = .ok (.relationship s c t (labelBack label)) := by
  have hcolon : ∀ x ∈ endsChars s.toList c t.toList, x ≠ ':' :=
    ne_colon_of_mem_endsChars (ne_colon_of_mem_identifier hs) (ne_colon_of_mem_identifier ht)
  obtain ⟨rest, more, hrest, htokens, hmore, hlabel⟩ :=
    exists_tokenize_append_labelChars label hcolon (isSilent_endsChars c t.toList _ hs)
  rw [flatMap_wordTokens_endsChars c hs ht rest hrest, ← toList_relationshipLine] at htokens
  rw [classify_of_tokenize htokens, ofTokens_endsTokens _ _ _ _ _ _ hmore, hlabel,
    String.ofList_toList, String.ofList_toList]

/-! ## Line breaks -/

theorem isLineBreak_of_not_isBlank {x : Char} (h : isBlank x = false) : isLineBreak x = false := by
  rw [Bool.eq_false_iff] at h ⊢
  exact mt isBlank_of_isLineBreak h

/-- Between words that are no blanks, the ends of a relationship have no line break. -/
theorem isLineBreak_of_mem_endsChars {s t : List Char} {c : Cardinality}
    (hs : ∀ x ∈ s, isBlank x = false) (ht : ∀ x ∈ t, isBlank x = false) :
    ∀ x ∈ endsChars s c t, isLineBreak x = false := by
  intro x hx
  rcases mem_or_eq_space_of_mem_endsChars hx with (hx | hx | hx) | rfl
  · exact isLineBreak_of_not_isBlank (hs x hx)
  · exact isLineBreak_of_not_isBlank ((isWord_chars c).2 x hx)
  · exact isLineBreak_of_not_isBlank (ht x hx)
  · decide

/-- Whatever a label is, there is no line break among its words. -/
theorem isLineBreak_of_mem_labelChars {label : Option String} :
    ∀ x ∈ labelChars label, isLineBreak x = false := by
  intro x hx
  unfold labelChars at hx
  split at hx
  · cases hx
  · split at hx
    · cases hx
    · simp only [List.mem_cons] at hx
      rcases hx with rfl | rfl | rfl | hx
      · decide
      · decide
      · decide
      · rcases eq_space_of_mem_squeeze hx with rfl | hx
        · decide
        · exact isLineBreak_of_not_isBlank hx

/-- **A relationship line is one line**: it has no line break. Names have none, symbols have none,
and in a label every run of blanks has become a space. -/
theorem isLineBreak_of_mem_relationshipLine {s t : String} (c : Cardinality)
    (label : Option String) (hs : isIdentifier s.toList = true)
    (ht : isIdentifier t.toList = true) :
    ∀ x ∈ (Outline.relationshipLine s c t label).toList, isLineBreak x = false := by
  intro x hx
  rw [toList_relationshipLine, List.mem_append] at hx
  rcases hx with hx | hx
  · exact isLineBreak_of_mem_endsChars (isWord_of_isIdentifier hs).2
      (isWord_of_isIdentifier ht).2 x hx
  · exact isLineBreak_of_mem_labelChars x hx

end ErDiagram.Line
