import ErDiagram.Proofs.Line.Relationship

/-!
# Which lines are relationships

The words before the colon of a relationship line can be run together: a symbol may be glued to
the name before it, and a name to a symbol that is. A glued word is cut at the first symbol of the
table that splits it, but the order of the table does not matter. A name has no bar and no brace,
every symbol starts with one, and all symbols are equally long, so that there is one place where a
symbol can start and one symbol that can stand there.

A line is therefore a relationship exactly if its words spell two names around a symbol, in one of
three ways, and what it says is what its words spell. The three ways are the constructors of
`SpellsEnds`. The label has a relation of its own, `ReadsLabel`, and with `Speaks`, which leaves
out blank lines and comments, the three say what a relationship line is without a word about
tokens.

The way from tokens back to words goes over `WordReads`. It lists what a single word may be read
as, and so the tokens of a line, cut at the words, can only come from the words that are listed.
Columns are left out of the comparison (`Token.content`), as they decide nothing.
-/

namespace ErDiagram.Line

open Text

/-! ## Symbols in a glued word

A glued word is tried against the table of symbols from its first entry on. That the order of the
table does not matter follows from where a symbol can start. -/

theorem length_chars (c : Cardinality) : c.chars.length = 6 := by
  obtain ⟨s, t⟩ := c
  cases s <;> cases t <;> rfl

theorem chars_injective {c c' : Cardinality} (h : c.chars = c'.chars) : c = c' := by
  have hc := Cardinality.ofChars?_chars c
  rwa [h, Cardinality.ofChars?_chars, Option.some.injEq, eq_comm] at hc

theorem eq_chars_of_ofChars? {cs : List Char} {c : Cardinality}
    (h : Cardinality.ofChars? cs = some c) : cs = c.chars := by
  have hfound := List.find?_some h
  exact (eq_of_beq hfound).symm

/-- The characters that a symbol may start with. No identifier has one of them, and this is what
makes the cut in a glued word unique. -/
def startsSymbol (x : Char) : Bool := x == '|' || x == '}'

theorem exists_cons_chars (c : Cardinality) :
    ∃ x rest, c.chars = x :: rest ∧ startsSymbol x = true := by
  obtain ⟨s, t⟩ := c
  cases s <;> exact ⟨_, _, rfl, by decide⟩

/-- No character of an identifier starts a symbol. -/
theorem startsSymbol_of_mem_identifier {cs : List Char} {x : Char}
    (h : isIdentifier cs = true) (hx : x ∈ cs) : startsSymbol x = false := by
  have hbar : x ≠ '|' := ne_of_mem_identifier h hx (by decide) (by decide)
  have hbrace : x ≠ '}' := ne_of_mem_identifier h hx (by decide) (by decide)
  simp [startsSymbol, hbar, hbrace]

/-- Up to the symbol a glued word is the name before it. -/
theorem takeWhile_glued {s : List Char} (c : Cardinality) (t : List Char)
    (hs : isIdentifier s = true) :
    (s ++ (c.chars ++ t)).takeWhile (!startsSymbol ·) = s := by
  obtain ⟨x, rest, hc, hx⟩ := exists_cons_chars c
  rw [List.takeWhile_append_of_pos fun y hy => by
      rw [startsSymbol_of_mem_identifier hs hy]; rfl,
    hc, List.cons_append, List.takeWhile_cons_of_neg (by rw [hx]; decide), List.append_nil]

/-- **A glued word can be read in one way only.** The name before the symbol ends where the first
bar or brace stands, the symbol has its fixed length, and what is left is the second name. -/
theorem glued_inj {s s' t t' : List Char} {c c' : Cardinality} (hs : isIdentifier s = true)
    (hs' : isIdentifier s' = true) (h : s ++ (c.chars ++ t) = s' ++ (c'.chars ++ t')) :
    s = s' ∧ c = c' ∧ t = t' := by
  have hss : s = s' := by rw [← takeWhile_glued c t hs, h, takeWhile_glued c' t' hs']
  rw [hss, List.append_cancel_left_eq] at h
  obtain ⟨hc, ht⟩ := List.append_inj h (by rw [length_chars, length_chars])
  exact ⟨hss, chars_injective hc, ht⟩

theorem eq_of_splitAround? {part cs l r : List Char} (h : splitAround? part cs = some (l, r)) :
    cs = l ++ (part ++ r) := by
  induction cs generalizing l with
  | nil =>
    rw [splitAround?] at h
    split at h
    · next hpart =>
      cases h
      rw [hpart]
      rfl
    · cases h
  | cons x cs ih =>
    rw [splitAround?] at h
    split at h
    · next hpart =>
      cases h
      exact (List.prefix_iff_eq_append.1 (List.isPrefixOf_iff_prefix.1 hpart)).symm
    · obtain ⟨⟨l', r'⟩, hsplit, heq⟩ := Option.map_eq_some_iff.1 h
      cases heq
      rw [ih hsplit]
      rfl

/-- A text is found where its first character occurs for the first time. -/
theorem splitAround?_append {x : Char} {part s : List Char} (r : List Char) (h : x ∉ s) :
    splitAround? (x :: part) (s ++ (x :: part ++ r)) = some (s, r) := by
  induction s with
  | nil =>
    have hpart : (x :: part).isPrefixOf (x :: part ++ r) = true :=
      List.isPrefixOf_iff_prefix.2 (List.prefix_append _ _)
    rw [List.nil_append, List.cons_append, splitAround?, ← List.cons_append, if_pos hpart,
      List.drop_left]
  | cons y s ih =>
    rw [List.mem_cons, not_or] at h
    have hpart : ¬ (x :: part).isPrefixOf (y :: (s ++ (x :: part ++ r))) = true := by
      simp [h.1]
    rw [List.cons_append, splitAround?, if_neg hpart, ih h.2]
    rfl

/-! ## The words of a relationship -/

/-- Whether a word stands for a name: it is the name, or the name in square brackets. Brackets are
for names that stand as words of their own; beside a glued symbol there are none. -/
def IsNameWord (w name : List Char) : Prop :=
  isIdentifier name = true ∧ (w = name ∨ w = '[' :: (name ++ [']']))

/-- **Words that spell two names around a symbol**: three words, or the symbol glued to the name
before it, or both names glued to it. A symbol that is glued to the second name only is not among
these: a glued word has to start with a name, so that the line is an error. -/
inductive SpellsEnds (s : List Char) (c : Cardinality) (t : List Char) :
    List (List Char) → Prop where
  | apart {w v} : IsNameWord w s → IsNameWord v t → SpellsEnds s c t [w, c.chars, v]
  | gluedSource {v} : isIdentifier s = true → IsNameWord v t →
      SpellsEnds s c t [s ++ c.chars, v]
  | glued : isIdentifier s = true → isIdentifier t = true →
      SpellsEnds s c t [s ++ (c.chars ++ t)]

/-- What a token is and what it holds, wherever it stands. Lines that differ in their blanks have
the same contents in other columns. -/
def Token.content (t : Token) : TokenKind × List Char := (t.kind, t.chars)

/-- What a word may be read as. The last constructor stands for all words that can be no part of a
relationship; it gives one token, of a kind that no relationship has among its own. -/
inductive WordReads : List Char → List (TokenKind × List Char) → Prop where
  | name {w name} : IsNameWord w name → WordReads w [(.ident, name)]
  | symbol (c : Cardinality) : WordReads c.chars [(.cardinality, c.chars)]
  | half {s} (c : Cardinality) : isIdentifier s = true →
      WordReads (s ++ c.chars) [(.ident, s), (.cardinality, c.chars)]
  | whole {s t} (c : Cardinality) : isIdentifier s = true → isIdentifier t = true →
      WordReads (s ++ (c.chars ++ t)) [(.ident, s), (.cardinality, c.chars), (.ident, t)]
  | other {w} (kind : TokenKind) : kind ∉ [TokenKind.ident, .cardinality, .colon, .label] →
      WordReads w [(kind, w)]

/-- The tokens of a glued word that starts in some column. -/
def gluedTokens (column : Nat) (s : List Char) (c : Cardinality) (t : List Char) : List Token :=
  ⟨.ident, s, column⟩ :: ⟨.cardinality, c.chars, column + s.length⟩ ::
    if t.isEmpty then [] else [⟨.ident, t, column + s.length + c.chars.length⟩]

/-- **A word is split at a symbol** if it is a name, the symbol and perhaps a second name. The
definition cuts at the first place where the symbol occurs, and there is no other, since names
have no character that starts one. -/
theorem splitAtSymbol?_eq_some_iff {c : Cardinality} {w : Word} {l : List Token} :
    splitAtSymbol? c w = some l ↔
      ∃ s t, w.chars = s ++ (c.chars ++ t) ∧ isIdentifier s = true ∧
        (t = [] ∨ isIdentifier t = true) ∧ gluedTokens w.column s c t = l := by
  constructor
  · intro h
    unfold splitAtSymbol? at h
    split at h
    · cases h
    · next s t hsplit =>
      split at h
      · next hid =>
        rw [Bool.and_eq_true, Bool.or_eq_true, List.isEmpty_iff] at hid
        refine ⟨s, t, eq_of_splitAround? hsplit, hid.1, hid.2, ?_⟩
        rw [← Option.some.inj h, gluedTokens]
        split <;> rfl
      · cases h
  · rintro ⟨s, t, hw, hs, ht, rfl⟩
    obtain ⟨x, rest, hc, hx⟩ := exists_cons_chars c
    have hxs : x ∉ s := fun hmem =>
      Bool.false_ne_true ((startsSymbol_of_mem_identifier hs hmem).symm.trans hx)
    have hsplit : splitAround? c.chars w.chars = some (s, t) := by
      rw [hw, hc]
      exact splitAround?_append t hxs
    have hid : (isIdentifier s && (t.isEmpty || isIdentifier t)) = true := by
      rw [Bool.and_eq_true, Bool.or_eq_true, List.isEmpty_iff]
      exact ⟨hs, ht⟩
    unfold splitAtSymbol?
    rw [hsplit]
    dsimp only
    rw [if_pos hid, gluedTokens]
    split <;> rfl

/-- **The tokens of a glued word do not depend on the order of the table.** Two symbols that split
the word are the same, so that it does not matter which is tried first. -/
theorem splitGlued?_eq_some_iff {w : Word} {l : List Token} :
    splitGlued? w = some l ↔ ∃ c, splitAtSymbol? c w = some l := by
  constructor
  · intro h
    obtain ⟨c, _, hc⟩ := List.exists_of_findSome?_eq_some h
    exact ⟨c, hc⟩
  · rintro ⟨c, hc⟩
    cases hsplit : splitGlued? w with
    | none =>
      have hnone := List.findSome?_eq_none_iff.1 hsplit c (Cardinality.mem_all c)
      rw [hc] at hnone
      cases hnone
    | some l' =>
      -- whichever symbol comes first in the table, it is this one
      obtain ⟨c', _, hc'⟩ := List.exists_of_findSome?_eq_some hsplit
      obtain ⟨s, t, hw, hs, _, rfl⟩ := splitAtSymbol?_eq_some_iff.1 hc
      obtain ⟨s', t', hw', hs', _, rfl⟩ := splitAtSymbol?_eq_some_iff.1 hc'
      obtain ⟨rfl, rfl, rfl⟩ := glued_inj hs hs' (hw.symm.trans hw')
      rfl

theorem eq_of_bracketed? {w name : List Char} (h : bracketed? w = some name) :
    w = '[' :: (name ++ [']']) := by
  unfold bracketed? at h
  split at h
  · next rest =>
    split at h
    · next hc =>
      rw [Bool.and_eq_true, decide_eq_true_eq] at hc
      obtain ⟨front, rfl⟩ := List.getLast?_eq_some_iff.1 hc.1
      rw [List.dropLast_concat, Option.some.injEq] at h
      rw [h]
    · cases h
  · cases h

/-- **What the tokens of a word are.** -/
theorem wordReads_wordTokens (w : Word) :
    WordReads w.chars ((wordTokens w).map Token.content) := by
  unfold wordTokens
  split
  · next hc =>
    obtain ⟨c, hc⟩ := Option.isSome_iff_exists.1 hc
    rw [eq_chars_of_ofChars? hc]
    exact .symbol c
  split
  · exact .other .openBrace (by decide)
  split
  · exact .other .closeBrace (by decide)
  split
  · next hid => exact .name ⟨hid, .inl rfl⟩
  split
  · cases hsplit : splitGlued? w with
    | none => exact .other .unknownSymbol (by decide)
    | some l =>
      obtain ⟨c, hc⟩ := splitGlued?_eq_some_iff.1 hsplit
      obtain ⟨s, t, hw, hs, ht, rfl⟩ := splitAtSymbol?_eq_some_iff.1 hc
      rw [hw]
      rcases ht with rfl | ht
      · rw [List.append_nil]
        exact .half c hs
      · have hne : t.isEmpty = false := by
          obtain ⟨x, rest, rfl, _⟩ := exists_cons_of_isIdentifier ht
          rfl
        rw [Option.getD_some, gluedTokens, hne]
        exact .whole c hs ht
  · split
    · next name hb =>
      exact .name ⟨isIdentifier_of_bracketed? hb, .inr (eq_of_bracketed? hb)⟩
    · exact .other .other (by decide)

/-! ## Words that are read as a relationship

From words to tokens there is one way. From tokens to words there are several, since the same
three tokens may come from one word, from two or from three; so the ways are counted out. -/

theorem hasDoubleHyphen_cons_of_ne {x : Char} (h : x ≠ '-') (cs : List Char) :
    hasDoubleHyphen (x :: cs) = hasDoubleHyphen cs := by
  cases cs with
  | nil => rfl
  | cons y cs => simp [hasDoubleHyphen, h]

theorem hasDoubleHyphen_tail {cs : List Char} (h : identifierTail cs = true) :
    hasDoubleHyphen (cs ++ [']']) = false := by
  have hne : ∀ {y : Char}, isWordChar y = true → y ≠ '-' := by
    rintro _ hy rfl
    exact absurd hy (by decide)
  fun_induction identifierTail cs with
  | case1 => rfl
  | case2 y =>
    rw [List.cons_append, hasDoubleHyphen_cons_of_ne (hne h)]
    rfl
  | case3 y rest ih =>
    rw [Bool.and_eq_true] at h
    rw [List.cons_append, List.cons_append, hasDoubleHyphen,
      hasDoubleHyphen_cons_of_ne (hne h.1), ih h.2]
    simp [hne h.1]
  | case4 x y rest hx ih =>
    rw [Bool.and_eq_true] at h
    rw [List.cons_append, hasDoubleHyphen_cons_of_ne hx, ih h.2]

/-- An identifier in brackets does not look like a symbol. -/
theorem looksLikeSymbol_bracketed {name : List Char} (h : isIdentifier name = true) :
    looksLikeSymbol ('[' :: (name ++ [']'])) = false := by
  have hnone : ∀ x ∈ name, (x == '|' || x == '{' || x == '}') = false := by
    intro x hx
    have hbar : x ≠ '|' := ne_of_mem_identifier h hx (by decide) (by decide)
    have hopen : x ≠ '{' := ne_of_mem_identifier h hx (by decide) (by decide)
    have hclose : x ≠ '}' := ne_of_mem_identifier h hx (by decide) (by decide)
    simp [hbar, hopen, hclose]
  obtain ⟨y, rest, rfl, hy⟩ := exists_cons_of_isIdentifier h
  have htail : identifierTail rest = true := by
    rw [isIdentifier, Bool.and_eq_true] at h
    exact h.2
  have hhyphen : y ≠ '-' := by
    rintro rfl
    exact absurd hy (by decide)
  unfold looksLikeSymbol
  rw [hasDoubleHyphen_cons_of_ne (by decide), List.cons_append, hasDoubleHyphen_cons_of_ne hhyphen,
    hasDoubleHyphen_tail htail, Bool.false_or, List.any_eq_false]
  intro x hx
  rw [← List.cons_append, List.mem_cons, List.mem_append, List.mem_singleton] at hx
  rcases hx with rfl | hx | rfl
  · decide
  · rw [hnone x hx]
    decide
  · decide

theorem bracketed?_append {name : List Char} (h : isIdentifier name = true) :
    bracketed? ('[' :: (name ++ [']'])) = some name := by
  unfold bracketed?
  simp [h]

/-- A word that starts with a character that starts no symbol is none. -/
theorem ofChars?_cons_eq_none {x : Char} (h : startsSymbol x = false) (cs : List Char) :
    Cardinality.ofChars? (x :: cs) = none := by
  cases hc : Cardinality.ofChars? (x :: cs) with
  | none => rfl
  | some c =>
    obtain ⟨y, rest, hy, hstart⟩ := exists_cons_chars c
    rw [← eq_chars_of_ofChars? hc, List.cons.injEq] at hy
    rw [hy.1, hstart] at h
    cases h

/-- **A word that stands for a name is read as this name.** Brackets are taken off, and a name is
no symbol. -/
theorem content_of_isNameWord {w : Word} {name : List Char} (h : IsNameWord w.chars name) :
    (wordTokens w).map Token.content = [(.ident, name)] := by
  obtain ⟨hid, hw | hw⟩ := h
  · have htokens := wordTokens_of_isIdentifier hid w.column
    rw [← hw] at htokens
    rw [htokens, hw]
    rfl
  · have hnot : ¬ isIdentifier ('[' :: (name ++ [']'])) = true := by
      rw [isIdentifier, Bool.and_eq_true]
      exact fun h => absurd h.1 (by decide)
    unfold wordTokens
    rw [hw, ofChars?_cons_eq_none (by decide), if_neg (by decide), if_neg (by simp),
      if_neg (by simp), if_neg hnot, looksLikeSymbol_bracketed hid, if_neg (by decide),
      bracketed?_append hid]
    rfl

/-- **A glued word is read as what it is glued from.** -/
theorem wordTokens_of_glued {w : Word} {s t : List Char} {c : Cardinality}
    (hw : w.chars = s ++ (c.chars ++ t)) (hs : isIdentifier s = true)
    (ht : t = [] ∨ isIdentifier t = true) : wordTokens w = gluedTokens w.column s c t := by
  obtain ⟨x, rest, hc, hx⟩ := exists_cons_chars c
  have hmem : x ∈ w.chars := by
    rw [hw, hc]
    simp
  have hsplit : splitGlued? w = some (gluedTokens w.column s c t) :=
    splitGlued?_eq_some_iff.2 ⟨c, splitAtSymbol?_eq_some_iff.2 ⟨s, t, hw, hs, ht, rfl⟩⟩
  have hid : ¬ isIdentifier w.chars = true := fun h =>
    Bool.false_ne_true ((startsSymbol_of_mem_identifier h hmem).symm.trans hx)
  have hlooks : looksLikeSymbol w.chars = true := by
    rw [looksLikeSymbol, Bool.or_eq_true, List.any_eq_true]
    refine .inr ⟨x, hmem, ?_⟩
    rw [startsSymbol, Bool.or_eq_true] at hx
    rcases hx with hx | hx
    · rw [hx]
      rfl
    · rw [hx, Bool.or_true]
  -- the word starts with a word character, so that it is neither a symbol nor a brace
  obtain ⟨y, more, rfl, hy⟩ := exists_cons_of_isIdentifier hs
  have hstart := startsSymbol_of_mem_identifier hs List.mem_cons_self
  have hsymbol : Cardinality.ofChars? w.chars = none := by
    rw [hw, List.cons_append]
    exact ofChars?_cons_eq_none hstart _
  have hbrace : ∀ b, isWordChar b = false → w.chars ≠ [b] := by
    intro b hb heq
    rw [hw, List.cons_append, List.cons.injEq] at heq
    rw [heq.1, hb] at hy
    cases hy
  unfold wordTokens
  rw [hsymbol, if_neg (by decide), if_neg (hbrace _ (by decide)), if_neg (hbrace _ (by decide)),
    if_neg hid, if_pos hlooks, hsplit]
  rfl

/-- What the words of a line are read as, one after the other and without regard to each other. -/
def contents (ws : List Word) : List (TokenKind × List Char) :=
  ws.flatMap fun w => (wordTokens w).map Token.content

theorem contents_cons (w : Word) (ws : List Word) :
    contents (w :: ws) = (wordTokens w).map Token.content ++ contents ws := List.flatMap_cons

/-- Every word is read as something. -/
theorem contents_eq_nil {ws : List Word} (h : contents ws = []) : ws = [] := by
  cases ws with
  | nil => rfl
  | cons w ws =>
    have hread := wordReads_wordTokens w
    rw [contents_cons, List.append_eq_nil_iff] at h
    rw [h.1] at hread
    generalize w.chars = cs at hread
    cases hread

theorem contents_eq_name {ws : List Word} {t : List Char} (h : contents ws = [(.ident, t)]) :
    ∃ v, ws.map (·.chars) = [v] ∧ IsNameWord v t := by
  cases ws with
  | nil => cases h
  | cons w ws =>
    have hread := wordReads_wordTokens w
    rw [contents_cons] at h
    rw [List.map_cons]
    generalize w.chars = cs at hread
    generalize (wordTokens w).map Token.content = l at hread h
    cases hread with
    | name hname =>
      rw [List.singleton_append, List.cons.injEq, Prod.mk.injEq] at h
      obtain ⟨⟨_, rfl⟩, hnil⟩ := h
      rw [contents_eq_nil hnil]
      exact ⟨cs, rfl, hname⟩
    | other kind hkind =>
      rw [List.singleton_append, List.cons.injEq] at h
      cases h.1
      exact absurd List.mem_cons_self hkind
    | _ => simp at h

theorem contents_eq_symbol_name {ws : List Word} {c : Cardinality} {t : List Char}
    (h : contents ws = [(.cardinality, c.chars), (.ident, t)]) :
    ∃ v, ws.map (·.chars) = [c.chars, v] ∧ IsNameWord v t := by
  cases ws with
  | nil => cases h
  | cons w ws =>
    have hread := wordReads_wordTokens w
    rw [contents_cons] at h
    rw [List.map_cons]
    generalize w.chars = cs at hread
    generalize (wordTokens w).map Token.content = l at hread h
    cases hread with
    | symbol c' =>
      rw [List.singleton_append, List.cons.injEq, Prod.mk.injEq] at h
      obtain ⟨v, hv, hname⟩ := contents_eq_name h.2
      exact ⟨v, by rw [h.1.2, hv], hname⟩
    | other kind hkind =>
      rw [List.singleton_append, List.cons.injEq] at h
      cases h.1
      simp at hkind
    | _ => simp at h

/-- **Words are read as a relationship exactly if they spell one.** Each of the three ways
accounts for one way to distribute the tokens over words, and no word gives nothing. -/
theorem contents_eq_ends_iff {ws : List Word} {s t : List Char} {c : Cardinality} :
    contents ws = [(.ident, s), (.cardinality, c.chars), (.ident, t)]
      ↔ SpellsEnds s c t (ws.map (·.chars)) := by
  constructor
  · intro h
    cases ws with
    | nil => cases h
    | cons w ws =>
      have hread := wordReads_wordTokens w
      rw [contents_cons] at h
      rw [List.map_cons]
      generalize w.chars = cs at hread
      generalize (wordTokens w).map Token.content = l at hread h
      cases hread with
      | name hname =>
        rw [List.singleton_append, List.cons.injEq, Prod.mk.injEq] at h
        obtain ⟨v, hv, hv'⟩ := contents_eq_symbol_name h.2
        rw [hv]
        exact .apart (h.1.2 ▸ hname) hv'
      | half c' hs =>
        rw [List.cons_append, List.singleton_append, List.cons.injEq, Prod.mk.injEq,
          List.cons.injEq, Prod.mk.injEq] at h
        obtain ⟨⟨_, rfl⟩, ⟨_, hc⟩, h⟩ := h
        obtain ⟨v, hv, hv'⟩ := contents_eq_name h
        rw [hv, chars_injective hc]
        exact .gluedSource hs hv'
      | whole c' hs ht =>
        simp only [List.cons_append, List.nil_append, List.cons.injEq, Prod.mk.injEq,
          true_and] at h
        obtain ⟨rfl, hc, rfl, h⟩ := h
        rw [contents_eq_nil h, chars_injective hc]
        exact .glued hs ht
      | symbol => simp at h
      | other kind hkind =>
        rw [List.singleton_append, List.cons.injEq] at h
        cases h.1
        exact absurd List.mem_cons_self hkind
  · intro h
    generalize hws : ws.map (·.chars) = cs at h
    cases h with
    | apart hs ht =>
      obtain ⟨w, _, rfl, rfl, hws'⟩ := List.map_eq_cons_iff.1 hws
      obtain ⟨⟨column, _⟩, _, rfl, rfl, hws''⟩ := List.map_eq_cons_iff.1 hws'
      obtain ⟨v, rfl, rfl⟩ := List.map_eq_singleton_iff.1 hws''
      simp only [contents, List.flatMap_cons, List.flatMap_nil, content_of_isNameWord hs,
        content_of_isNameWord ht, wordTokens_chars]
      rfl
    | gluedSource hs ht =>
      obtain ⟨w, _, rfl, hw, hws'⟩ := List.map_eq_cons_iff.1 hws
      obtain ⟨v, rfl, rfl⟩ := List.map_eq_singleton_iff.1 hws'
      have hglued : w.chars = s ++ (c.chars ++ []) := by rw [hw, List.append_nil]
      simp only [contents, List.flatMap_cons, List.flatMap_nil, content_of_isNameWord ht,
        wordTokens_of_glued hglued hs (.inl rfl)]
      rfl
    | glued hs ht =>
      obtain ⟨w, rfl, hw⟩ := List.map_eq_singleton_iff.1 hws
      obtain ⟨x, rest, rfl, _⟩ := exists_cons_of_isIdentifier ht
      simp only [contents, List.flatMap_cons, List.flatMap_nil,
        wordTokens_of_glued hw hs (.inr ht)]
      rfl

/-! ## The tokens of a relationship line -/

/-- Words give no colon and no label. -/
theorem kind_of_mem_wordTokens {w : Word} {x : Token} (h : x ∈ wordTokens w) :
    x.kind ≠ .colon ∧ x.kind ≠ .label := by
  have hread := wordReads_wordTokens w
  have hx : x.content ∈ (wordTokens w).map Token.content := List.mem_map_of_mem h
  show x.content.1 ≠ .colon ∧ x.content.1 ≠ .label
  generalize x.content = content at hx
  generalize w.chars = cs at hread
  generalize (wordTokens w).map Token.content = l at hread hx
  cases hread with
  | other kind hkind =>
    rw [List.mem_singleton.1 hx]
    simp only [List.mem_cons, not_or] at hkind
    exact ⟨hkind.2.2.1, hkind.2.2.2.1⟩
  | _ =>
    simp only [List.mem_cons, List.not_mem_nil, or_false] at hx
    rcases hx with rfl | rfl | rfl <;> exact ⟨nofun, nofun⟩

/-- **The tokens before the colon decide whether a line is a relationship.** The label is read
apart from them, and its own text plays no part in what the line is. -/
theorem ofTokens_eq_relationship_iff {inBlock : Bool} {whole : String} {l : List Token}
    {s t : String} {c : Cardinality} {label : Option String} :
    ofTokens inBlock whole l = .ok (.relationship s c t label) ↔
      (l.takeWhile fun x => decide (x.kind ≠ .colon)).map Token.content
          = [(.ident, s.toList), (.cardinality, c.chars), (.ident, t.toList)] ∧
        labelOf ((l.find? (·.kind == .label)).map (·.chars)) = label := by
  constructor
  · intro h
    have hsays := says_of_ofTokens h
    generalize l.takeWhile (fun x => decide (x.kind ≠ .colon)) = body at hsays ⊢
    generalize l.any (·.kind == .colon) = hasColon at hsays
    cases hsays with
    | relationship hs hsymbol ht hc =>
      refine ⟨?_, rfl⟩
      simp only [List.map_cons, List.map_nil, Token.content, Token.text, String.toList_ofList, hs,
        hsymbol, ht, eq_chars_of_ofChars? hc]
  · rintro ⟨hbody, rfl⟩
    unfold ofTokens
    generalize l.takeWhile (fun x => decide (x.kind ≠ .colon)) = body at hbody ⊢
    obtain ⟨⟨_, _, _⟩, _, rfl, hx, hbody⟩ := List.map_eq_cons_iff.1 hbody
    obtain ⟨⟨_, _, _⟩, _, rfl, hy, hbody⟩ := List.map_eq_cons_iff.1 hbody
    obtain ⟨⟨_, _, _⟩, rfl, hz⟩ := List.map_eq_singleton_iff.1 hbody
    simp only [Token.content, Prod.mk.injEq] at hx hy hz
    obtain ⟨rfl, rfl⟩ := hx
    obtain ⟨rfl, rfl⟩ := hy
    obtain ⟨rfl, rfl⟩ := hz
    simp [Cardinality.ofChars?_chars]

/-! ## The label -/

theorem strip_eq_nil_iff {cs : List Char} : strip cs = [] ↔ ∀ x ∈ cs, isBlank x = true := by
  induction cs with
  | nil => simp [strip, stripLeft, stripRight]
  | cons x cs ih =>
    by_cases hx : isBlank x = true
    · rw [strip_cons_of_isBlank hx, ih]
      simp [hx]
    · rw [strip_cons_of_not_isBlank (by simpa using hx)]
      simp [hx]

/-- **What stands behind the colon of a line, read as a label**: nothing without a colon or behind
it, else the text without the blanks around it and without one pair of quotes.

The constructors exclude each other, so that a line has one label at most. In contrast to the
label that a relationship is written with, blanks between the words are kept. -/
inductive ReadsLabel : Option (List Char) → Option String → Prop where
  | missing : ReadsLabel none none
  | blank {tail} : (∀ x ∈ tail, isBlank x = true) → ReadsLabel (some tail) none
  | plain {tail} : strip tail ≠ [] → ¬ IsQuoted (strip tail) →
      ReadsLabel (some tail) (some (String.ofList (strip tail)))
  | quoted {tail q body} : q = '"' ∨ q = '\'' → strip tail = q :: (body ++ [q]) →
      ReadsLabel (some tail) (some (String.ofList body))

/-- The label token behind a colon gives the label. -/
theorem labelOf_labelTokens_eq_iff {n : Nat} {tail : List Char} {label : Option String} :
    labelOf (((labelTokens n tail).find? (·.kind == .label)).map (·.chars)) = label
      ↔ ReadsLabel (some tail) label := by
  have hfind : labelOf (((labelTokens n tail).find? (·.kind == .label)).map (·.chars))
      = if strip tail = [] then none else some (String.ofList (unquote (strip tail))) := by
    unfold labelTokens
    by_cases h : strip tail = [] <;> simp [h, labelOf]
  rw [hfind]
  constructor
  · rintro rfl
    split
    · next h => exact .blank (strip_eq_nil_iff.1 h)
    · next h =>
      by_cases hq : IsQuoted (strip tail)
      · obtain ⟨q, body, hq, hstrip⟩ := hq
        rw [hstrip, unquote_quoted hq]
        exact .quoted hq hstrip
      · rw [unquote_eq_self_iff.2 hq]
        exact .plain h hq
  · intro h
    cases h with
    | blank h => rw [if_pos (strip_eq_nil_iff.2 h)]
    | plain hne hq => rw [if_neg hne, unquote_eq_self_iff.2 hq]
    | quoted hq hstrip => rw [hstrip, if_neg (List.cons_ne_nil _ _), unquote_quoted hq]

/-! ## Relationship lines

The line is cut at its first colon. In front of it stand words, which are read one by one, and
what stands behind it is the label, whatever it is. -/

/-- Whether a line says something: it is not blank, and no comment. It is stated of the text with
the blanks around it taken off, as a comment may be indented. -/
def Speaks (cs : List Char) : Prop :=
  strip cs ≠ [] ∧ ¬ ['#'] <+: strip cs ∧ ¬ ['%', '%'] <+: strip cs

theorem isSilent_eq_false_iff {cs : List Char} : isSilent cs = false ↔ Speaks cs := by
  unfold isSilent Speaks
  generalize strip cs = l
  split
  · simp
  · simp
  · simp
  · next hhash hpercent =>
    refine ⟨fun _ => ⟨by rintro rfl; contradiction, ?_, ?_⟩, fun _ => rfl⟩
    · rintro ⟨rest, rfl⟩
      exact hhash rest rfl
    · rintro ⟨rest, rfl⟩
      exact hpercent rest rfl

/-- The tokens of a line that says something: those of its words, then those of its colon. -/
theorem tokenize_of_speaks {cs : List Char} (h : Speaks cs) :
    ∃ more, tokenize cs = (wordsFrom 0 (beforeColon cs)).flatMap wordTokens ++ more ∧
      (∀ x, more.head? = some x → x.kind = .colon) ∧
      ∀ label, labelOf ((more.find? (·.kind == .label)).map (·.chars)) = label
        ↔ ReadsLabel (afterColon? cs) label := by
  unfold tokenize
  rw [isSilent_eq_false_iff.2 h, if_neg (by decide)]
  cases afterColon? cs with
  | none =>
    refine ⟨[], rfl, nofun, fun label => ⟨?_, ?_⟩⟩
    · rintro rfl
      exact .missing
    · rintro ⟨⟩
      rfl
  | some tail =>
    refine ⟨labelTokens (beforeColon cs).length tail, rfl, fun x hx => ?_, fun label =>
      labelOf_labelTokens_eq_iff⟩
    rw [labelTokens, List.head?_cons, Option.some.injEq] at hx
    rw [← hx]

/-- **A line is a relationship exactly if it is spelled as one**, inside of blocks and outside: it
says something, the words before its colon spell the ends and the symbol, and what is behind the
colon is read as the label. A glued word spells one relationship only.

That a line in a block is recognized as well is what the error about relationships in blocks rests
on: the line is read first, and refused then. -/
theorem classify_eq_relationship_iff :
    (∀ (l : NumberedLine) (inBlock : Bool) (s t : String) (c : Cardinality)
        (label : Option String),
      l.classify inBlock = .ok (.relationship s c t label) ↔
        Speaks l.text.toList ∧
          SpellsEnds s.toList c t.toList (words (beforeColon l.text.toList)) ∧
          ReadsLabel (afterColon? l.text.toList) label) ∧
      ∀ (s s' t t' : List Char) (c c' : Cardinality), isIdentifier s = true →
        isIdentifier s' = true → s ++ (c.chars ++ t) = s' ++ (c'.chars ++ t') →
        s = s' ∧ c = c' ∧ t = t' := by
  refine ⟨fun l inBlock s t c label => ?_, fun _ _ _ _ _ _ hs hs' h => glued_inj hs hs' h⟩
  rw [NumberedLine.classify_eq_ok]
  unfold classify
  dsimp only
  by_cases hspeaks : Speaks l.text.toList
  · obtain ⟨more, htokens, hcolon, hlabel⟩ := tokenize_of_speaks hspeaks
    rw [and_iff_right hspeaks, ← hlabel, htokens]
    generalize hwords : wordsFrom 0 (beforeColon l.text.toList) = ws
    -- the words give no colon, and what is behind them starts with one
    have hbody : (ws.flatMap wordTokens ++ more).takeWhile (fun x => decide (x.kind ≠ .colon))
        = ws.flatMap wordTokens := by
      rw [List.takeWhile_append_of_pos]
      · cases more with
        | nil => rw [List.takeWhile_nil, List.append_nil]
        | cons x more =>
          rw [List.takeWhile_cons_of_neg (by simp [hcolon x rfl]), List.append_nil]
      · intro x hx
        obtain ⟨w, _, hw⟩ := List.mem_flatMap.1 hx
        exact decide_eq_true (kind_of_mem_wordTokens hw).1
    have hfind : (ws.flatMap wordTokens ++ more).find? (·.kind == .label)
        = more.find? (·.kind == .label) := by
      rw [List.find?_append, List.find?_eq_none.2, Option.none_or]
      intro x hx
      obtain ⟨w, _, hw⟩ := List.mem_flatMap.1 hx
      simp [(kind_of_mem_wordTokens hw).2]
    rw [words, hwords, ← contents_eq_ends_iff, contents, ← List.map_flatMap, ← hfind]
    split
    · next hnil => simp [List.append_eq_nil_iff.1 hnil]
    · rw [ofTokens_eq_relationship_iff, hbody]
  · have hsilent : isSilent l.text.toList = true := by
      rw [← Bool.not_eq_false, isSilent_eq_false_iff]
      exact hspeaks
    rw [tokenize, if_pos hsilent]
    refine ⟨fun h => ?_, fun h => absurd h.1 hspeaks⟩
    cases h

/-- A line with a glued symbol, a name in brackets and a quoted label, inside of a block. -/
theorem classify_eq_relationship_iff_glued :
    (NumberedLine.mk "A||--o\x7b [B] : 'x y'" 3).classify true
        = .ok (.relationship "A" ⟨.one, .zeroOrMany⟩ "B" (some "x y")) ∧
      ∀ (s' t' : List Char) (c' : Cardinality), isIdentifier s' = true →
        ['A', '|', '|', '-', '-', 'o', '{'] = s' ++ (c'.chars ++ t') →
        ['A'] = s' ∧ ⟨.one, .zeroOrMany⟩ = c' ∧ [] = t' := by
  refine ⟨(classify_eq_relationship_iff.1 _ _ _ _ _ _).2 ⟨?_, ?_, ?_⟩, fun s' t' c' hs' h =>
    classify_eq_relationship_iff.2 ['A'] s' [] t' ⟨.one, .zeroOrMany⟩ c' (by decide) hs' h⟩
  · exact ⟨by decide, by decide, by decide⟩
  · have hwords : words (beforeColon "A||--o\x7b [B] : 'x y'".toList)
        = [['A'] ++ (Cardinality.mk .one .zeroOrMany).chars, ['[', 'B', ']']] := by decide
    rw [hwords]
    exact .gluedSource (by decide) ⟨by decide, .inr rfl⟩
  · have htail : afterColon? "A||--o\x7b [B] : 'x y'".toList = some " 'x y'".toList := by decide
    rw [htail]
    exact .quoted (.inr rfl)
      (show strip " 'x y'".toList = '\'' :: ("x y".toList ++ ['\'']) by decide)

end ErDiagram.Line
