import ErDiagram.Proofs.Line.Recognition

/-!
# Symbols come first

A word with two hyphens in a row looks like a symbol, and so it is one, has one inside, or is an
unknown one. It is none of what the other shapes of lines are made of: an identifier has no two
hyphens in a row, and neither has an identifier in brackets. Since a line with a symbol is a
relationship or an error before any other shape is tried, no symbol, known or not, is ever taken
for a name. What is taken for a name is always an identifier, and so is the type of an attribute,
unless a colon sets it off, behind which a type may be any word.

The argument has two halves that do not know of each other. The first is about words and ends in
the kinds of their tokens (`exists_isSymbol_of_doubleHyphen`). The second is about the kinds of
tokens, wherever these come from (`readsSymbol_ofTokens`). That lines have no symbols among their
names is then a fact about identifiers, which by their own rule keep hyphens apart.
-/

namespace ErDiagram.Line

open Text

/-! ## Two hyphens in a row -/

theorem hasDoubleHyphen_iff {cs : List Char} : hasDoubleHyphen cs = true ↔ ['-', '-'] <:+: cs := by
  induction cs with
  | nil => simp [hasDoubleHyphen]
  | cons c cs ih =>
    rw [List.infix_cons_iff, ← ih]
    cases cs with
    | nil => simp [hasDoubleHyphen]
    | cons d cs => simp [hasDoubleHyphen, List.cons_prefix_cons, @eq_comm _ c, @eq_comm _ d]

theorem looksLikeSymbol_of_doubleHyphen {cs : List Char} (h : ['-', '-'] <:+: cs) :
    looksLikeSymbol cs = true := by
  rw [looksLikeSymbol, hasDoubleHyphen_iff.2 h, Bool.true_or]

/-- **An identifier has no two hyphens in a row.** A hyphen has a word character behind it, by the
definition. -/
theorem not_infix_of_isIdentifier {cs : List Char} (h : isIdentifier cs = true) :
    ¬ ['-', '-'] <:+: cs := by
  intro hhyphens
  -- the same word in brackets does not look like a symbol
  have hbracketed : ['-', '-'] <:+: '[' :: (cs ++ [']']) :=
    hhyphens.trans ⟨['['], [']'], by simp⟩
  rw [← Bool.false_eq_true, ← looksLikeSymbol_bracketed h]
  exact looksLikeSymbol_of_doubleHyphen hbracketed

/-- **A plain name**: an identifier, and so without a blank, without any mark of the line syntax,
and without two hyphens in a row. The last three follow from the first. They are stated because
they are what a reader of the syntax means by a name that is no symbol, and they can be read
without knowing how identifiers are defined. -/
structure IsPlainName (s : String) : Prop where
  /-- It is an identifier. -/
  identifier : isIdentifier s.toList = true
  /-- It has no blank. -/
  noBlank : ∀ c ∈ s.toList, isBlank c = false
  /-- It has no mark of the line syntax: no colon, no part of a symbol or a block, and no
  bracket. -/
  noMark : ∀ c ∈ s.toList, c ∉ [':', '|', '{', '}', '[', ']']
  /-- Its hyphens stand alone, so that it does not look like a symbol. -/
  noDoubleHyphen : ¬ ['-', '-'] <:+: s.toList

theorem isPlainName_of_isIdentifier {s : String} (h : isIdentifier s.toList = true) :
    IsPlainName s where
  identifier := h
  noBlank := (isWord_of_isIdentifier h).2
  noMark := by
    have hmarks :
        [':', '|', '{', '}', '[', ']'].all (fun d => !isWordChar d && d != '-') = true := by
      decide
    intro c hc hmark
    have hother := List.all_eq_true.1 hmarks c hmark
    rw [Bool.and_eq_true, Bool.not_eq_true', bne_iff_ne] at hother
    exact ne_of_mem_identifier h hc hother.1 hother.2 rfl
  noDoubleHyphen := not_infix_of_isIdentifier h

/-! ## Words that look like symbols -/

/-- Whether a token is a symbol, be it known or not. The two kinds are taken together, since a
line goes wrong with an unknown symbol at the same point at which it is recognized by a known
one. -/
def Token.IsSymbol (t : Token) : Prop := t.kind = .cardinality ∨ t.kind = .unknownSymbol

/-- **A word with two hyphens in a row gives a symbol**: it is one, it has one inside, or it is an
unknown one. -/
theorem exists_isSymbol_of_doubleHyphen {w : Word} (h : ['-', '-'] <:+: w.chars) :
    ∃ t ∈ wordTokens w, t.IsSymbol := by
  unfold wordTokens
  split
  · exact ⟨_, List.mem_singleton_self _, .inl rfl⟩
  split
  · next hbrace => exact absurd (hbrace ▸ h) (by decide)
  split
  · next hbrace => exact absurd (hbrace ▸ h) (by decide)
  split
  · next hid => exact absurd h (not_infix_of_isIdentifier hid)
  rw [if_pos (looksLikeSymbol_of_doubleHyphen h)]
  cases hsplit : splitGlued? w with
  | none => exact ⟨_, List.mem_singleton_self _, .inr rfl⟩
  | some l =>
    obtain ⟨c, hc⟩ := splitGlued?_eq_some_iff.1 hsplit
    obtain ⟨s, t, _, _, _, rfl⟩ := splitAtSymbol?_eq_some_iff.1 hc
    exact ⟨_, List.mem_cons_of_mem _ List.mem_cons_self, .inl rfl⟩

/-- **What a line with a symbol is read as**: a relationship, or an error about its symbol. No
other error is possible, so that such a line is never complained about as, say, an attribute. -/
inductive ReadsSymbol : Except SyntaxCause Line → Prop where
  | relationship (s t : String) (c : Cardinality) (label : Option String) :
      ReadsSymbol (.ok (.relationship s c t label))
  | malformed : ReadsSymbol (.error .malformedRelationship)
  | unknown (word : String) : ReadsSymbol (.error (.unknownSymbol word))

/-- **A symbol before the colon decides what a line is read as**, whatever else the line has.
Symbols are looked for before any other shape is tried. -/
theorem readsSymbol_ofTokens {inBlock : Bool} {whole : String} {l : List Token} {t : Token}
    (ht : t ∈ l.takeWhile fun x => decide (x.kind ≠ .colon)) (hsymbol : t.IsSymbol) :
    ReadsSymbol (ofTokens inBlock whole l) := by
  unfold ofTokens
  generalize l.takeWhile (fun x => decide (x.kind ≠ .colon)) = body at ht
  dsimp only
  split
  · exact .unknown _
  · next hunknown =>
    have hcardinality : (body.any fun x => x.kind == .cardinality) = true := by
      refine List.any_eq_true.2 ⟨t, ht, beq_iff_eq.2 (hsymbol.resolve_right fun hkind => ?_)⟩
      exact absurd (beq_iff_eq.2 hkind) (List.find?_eq_none.1 hunknown t ht)
    rw [if_pos hcardinality]
    split
    · split
      · exact .relationship _ _ _ _
      · exact .malformed
    · exact .malformed

/-- No token of words is that of a colon. -/
theorem kind_ne_colon_of_mem_flatMap {ws : List Word} {t : Token}
    (h : t ∈ ws.flatMap wordTokens) : t.kind ≠ .colon := by
  obtain ⟨w, _, hw⟩ := List.mem_flatMap.1 h
  exact (kind_of_mem_wordTokens hw).1

/-- **A word with two hyphens in a row decides what its line is read as.** The two halves meet
here: the word gives a symbol, and the symbol stands before the colon. -/
theorem readsSymbol_classify {inBlock : Bool} {text : String} {w : List Char}
    (hspeaks : Speaks text.toList) (hw : w ∈ words (beforeColon text.toList))
    (h : ['-', '-'] <:+: w) : ReadsSymbol (classify inBlock text) := by
  obtain ⟨more, htokens, -, -⟩ := tokenize_of_speaks hspeaks
  obtain ⟨v, hv, rfl⟩ := List.mem_map.1 hw
  obtain ⟨t, ht, hsymbol⟩ := exists_isSymbol_of_doubleHyphen h
  -- the symbol is in front of the colon, as all that words give
  have hbody : t ∈ (tokenize text.toList).takeWhile fun x => decide (x.kind ≠ .colon) := by
    rw [htokens, List.takeWhile_append_of_pos fun x hx =>
      decide_eq_true (kind_ne_colon_of_mem_flatMap hx)]
    exact List.mem_append_left _ (List.mem_flatMap.2 ⟨v, hv, ht⟩)
  unfold classify
  dsimp only
  split
  · next hnil =>
    rw [hnil] at hbody
    cases hbody
  · exact readsSymbol_ofTokens hbody hsymbol

/-! ## Types of attributes

In a line without a colon all words are read as tokens, and the type is one of them. This is why
it is an identifier there, and need not be one behind a colon. -/

/-- A line without a colon has no token for one. -/
theorem any_colon_tokenize {cs : List Char} (h : ':' ∉ cs) :
    (tokenize cs).any (·.kind == .colon) = false := by
  have hafter : afterColon? cs = none := afterColon?_eq_none fun x hx heq => h (heq ▸ hx)
  unfold tokenize
  split
  · rfl
  rw [hafter, List.append_nil]
  exact List.any_eq_false.2 fun x hx hcolon =>
    kind_ne_colon_of_mem_flatMap hx (beq_iff_eq.1 hcolon)

/-- **The type of an attribute is an identifier**, the one behind the name or the default, in a line
without a colon. -/
theorem Says.isIdentifier_dataType {inBlock : Bool} {label : Option (List Char)} {body : List Token}
    {name dataType : String} {flags : List Flag}
    (h : Says inBlock label body false (.attribute name dataType flags))
    (hbody : ∀ t ∈ body, t.kind = .ident → isIdentifier t.chars = true) :
    isIdentifier dataType.toList = true := by
  cases h with
  | untyped => decide
  | @typed _ type _ _ hall =>
    rw [Token.text, String.toList_ofList]
    exact hbody type (by simp) (hall type (by simp))

theorem isIdentifier_dataType {inBlock : Bool} {text name dataType : String} {flags : List Flag}
    (hcolon : ':' ∉ text.toList)
    (h : classify inBlock text = .ok (.attribute name dataType flags)) :
    isIdentifier dataType.toList = true := by
  unfold classify at h
  dsimp only at h
  split at h
  · cases h
  · have hsays := says_of_ofTokens h
    rw [any_colon_tokenize hcolon] at hsays
    exact hsays.isIdentifier_dataType fun t ht =>
      isIdentifier_of_mem_tokenize ((List.takeWhile_sublist _).subset ht)

/-! ## Lines -/

/-- **No symbol is taken for a name.** A line that says something and has, before its first colon,
a word with two hyphens in a row, is a relationship or an error about its symbol. Whatever a line
says, inside of blocks and outside, the names in it are plain, and so is the type of an attribute
in a line without a colon. In a line with a colon the type is the first word behind it, and this
may be any word. -/
theorem classify_symbols_first (l : NumberedLine) (inBlock : Bool) :
    (Speaks l.text.toList →
      (∃ w ∈ words (beforeColon l.text.toList), ['-', '-'] <:+: w) →
      (∃ s c t label, l.classify inBlock = .ok (.relationship s c t label)) ∨
        ∃ cause, l.classify inBlock = .error ⟨cause, l.line⟩ ∧
          (cause = .malformedRelationship ∨ ∃ word, cause = .unknownSymbol word)) ∧
      ∀ line, l.classify inBlock = .ok line →
        (∀ n ∈ line.names, IsPlainName n) ∧
          (':' ∉ l.text.toList → ∀ name dataType flags, line = .attribute name dataType flags →
            IsPlainName dataType) := by
  refine ⟨fun hspeaks hword => ?_, fun line h => ?_⟩
  · obtain ⟨w, hw, hhyphens⟩ := hword
    have hreads : ReadsSymbol (classify inBlock l.text) :=
      readsSymbol_classify hspeaks hw hhyphens
    unfold NumberedLine.classify
    generalize classify inBlock l.text = result at hreads
    cases hreads with
    | relationship s t c label => exact .inl ⟨s, c, t, label, rfl⟩
    | malformed => exact .inr ⟨_, rfl, .inl rfl⟩
    | unknown word => exact .inr ⟨_, rfl, .inr ⟨word, rfl⟩⟩
  · rw [NumberedLine.classify_eq_ok] at h
    refine ⟨fun n hn => isPlainName_of_isIdentifier ((names_of_classify h).1 n hn), ?_⟩
    rintro hcolon name dataType flags rfl
    exact isPlainName_of_isIdentifier (isIdentifier_dataType hcolon h)

/-- In a block, `x--y` is an unknown symbol and no type, while single hyphens and brackets are fine
in a name. -/
theorem classify_symbols_first_hyphens :
    let unknown := NumberedLine.mk "id x--y" 4
    let known := NumberedLine.mk "[a-b] c_d PK" 2
    unknown.classify true = .error ⟨.unknownSymbol "x--y", 4⟩ ∧
      (∃ cause, unknown.classify true = .error ⟨cause, 4⟩ ∧
        (cause = .malformedRelationship ∨ ∃ word, cause = .unknownSymbol word)) ∧
      known.classify true = .ok (.attribute "a-b" "c_d" [.primaryKey]) ∧
      IsPlainName "a-b" ∧ IsPlainName "c_d" := by
  intro unknown known
  have hunknown : unknown.classify true = .error ⟨.unknownSymbol "x--y", 4⟩ := by decide
  have hknown : known.classify true = .ok (.attribute "a-b" "c_d" [.primaryKey]) := by decide
  have hspeaks : Speaks unknown.text.toList := ⟨by decide, by decide, by decide⟩
  have hword : ∃ w ∈ words (beforeColon unknown.text.toList), ['-', '-'] <:+: w :=
    ⟨"x--y".toList, by decide, ['x'], ['y'], by decide⟩
  refine ⟨hunknown, ?_, hknown, ?_⟩
  · refine ((classify_symbols_first unknown true).1 hspeaks hword).resolve_left ?_
    rintro ⟨s, c, t, label, h⟩
    rw [hunknown] at h
    cases h
  · obtain ⟨hnames, htype⟩ := (classify_symbols_first known true).2 _ hknown
    exact ⟨hnames _ List.mem_cons_self, htype (by decide) _ _ _ rfl⟩

end ErDiagram.Line
