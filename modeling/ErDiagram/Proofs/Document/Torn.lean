import ErDiagram.Proofs.Document.Relationship
import ErDiagram.Proofs.Line.Recognition

/-!
# Relationship lines that are torn

A name that is an identifier but for a line feed behind it tears the line of a relationship: where
the line is read, it is cut at the line feed. Behind the last name of a line this does no harm,
since an empty line says nothing. Anywhere else the line feed leaves a line that begins with the
symbol or with the colon of the label, and such a line says nothing that is known, whether an
attribute block is open or not. So a relationship is read again exactly if its line stays whole.

Names of this kind do come up. A test for identifiers that accepts a line feed at the end lets
them pass for clean, so that they are written as they are.

A line is cut into pieces, and a piece either passes or is refused, in whatever state the reader
is. Hence nothing has to be known about the pieces around it: one that is refused stops the
reading, and if all pass, no block is ever opened and the reading comes to its end.
-/

namespace ErDiagram

open Text

namespace Line

/-- Whether a line says a relationship, or nothing. Such a line is read outside of blocks, and
leaves none open. -/
def Passes (text : String) : Prop :=
  classify false text = .ok .blank ∨
    ∃ s c t label, classify false text = .ok (.relationship s c t label)

/-- Whether a line says nothing that is known, in an attribute block or outside, so that it stops
a reading wherever it stands. -/
def IsRefused (text : String) : Prop := ∀ inBlock line, classify inBlock text ≠ .ok line

/-! ## Lines that are refused -/

/-- A symbol before the first name is not the symbol of a relationship. -/
theorem ofTokens_symbol_ne_ok {inBlock : Bool} {whole : String} {symbol t : List Char}
    {m n : Nat} {more : List Token} (hmore : ∀ x, more.head? = some x → x.kind = .colon)
    (line : Line) :
    ofTokens inBlock whole (⟨.cardinality, symbol, m⟩ :: ⟨.ident, t, n⟩ :: more) ≠ .ok line := by
  have hbody : (⟨.cardinality, symbol, m⟩ :: ⟨.ident, t, n⟩ :: more : List Token).takeWhile
      (fun x => decide (x.kind ≠ .colon)) = [⟨.cardinality, symbol, m⟩, ⟨.ident, t, n⟩] := by
    rw [List.takeWhile_cons_of_pos rfl, List.takeWhile_cons_of_pos rfl]
    cases more with
    | nil => rfl
    | cons x more => rw [List.takeWhile_cons_of_neg (by simp [hmore x rfl])]
  unfold ofTokens
  rw [hbody]
  simp

/-- A colon needs a name before it. -/
theorem ofTokens_colon_ne_ok {inBlock : Bool} {whole : String} {x : Token} {more : List Token}
    (hx : x.kind = .colon) (line : Line) : ofTokens inBlock whole (x :: more) ≠ .ok line := by
  unfold ofTokens
  rw [List.takeWhile_cons_of_neg (by simp [hx])]
  simp

/-- What begins with a space and with another character than those of comments says something. -/
theorem isSilent_space_cons {x : Char} (hblank : isBlank x = false) (hhash : x ≠ '#')
    (hpercent : x ≠ '%') (rest : List Char) : isSilent (' ' :: x :: rest) = false := by
  rw [isSilent_eq_false_iff, Speaks, strip_cons_of_isBlank isBlank_space,
    strip_cons_of_not_isBlank hblank]
  refine ⟨List.cons_ne_nil _ _, fun h => ?_, fun h => ?_⟩
  · exact hhash (List.cons_prefix_cons.1 h).1.symm
  · exact hpercent (List.cons_prefix_cons.1 h).1.symm

/-- **A line that begins with its symbol is refused**, with a label and without one. A
relationship needs a name in front of its symbol, and the symbol keeps the line from being
anything else. -/
theorem isRefused_symbol (c : Cardinality) {t : List Char} (ht : isIdentifier t = true)
    (label : Option String) :
    IsRefused (String.ofList (endsChars [] c t ++ labelChars label)) := by
  have hcolon : ∀ x ∈ endsChars [] c t, x ≠ ':' :=
    ne_colon_of_mem_endsChars nofun (ne_colon_of_mem_identifier ht)
  have hspeaks : isSilent (endsChars [] c t ++ labelChars label) = false := by
    obtain ⟨x, rest, hc, hx⟩ := exists_cons_chars c
    rw [startsSymbol, Bool.or_eq_true, beq_iff_eq, beq_iff_eq] at hx
    rw [endsChars, hc]
    rcases hx with rfl | rfl <;> exact isSilent_space_cons (by decide) (by decide) (by decide) _
  obtain ⟨rest, more, hrest, htokens, hmore, _⟩ :=
    exists_tokenize_append_labelChars label hcolon hspeaks
  intro inBlock line
  rw [classify, String.toList_ofList, htokens, wordsFrom_endsChars_nil c ht hrest]
  simp only [List.flatMap_cons, List.flatMap_nil, wordTokens_of_isIdentifier ht, wordTokens_chars]
  exact ofTokens_symbol_ne_ok hmore line

/-- **A line that begins with the colon of its label is refused.** -/
theorem isRefused_labelChars {label : Option String} (h : labelChars label ≠ []) :
    IsRefused (String.ofList (labelChars label)) := by
  obtain ⟨tail, htail⟩ : ∃ tail, labelChars label = ' ' :: ':' :: tail := by
    rcases labelChars_cases label with ⟨hnone, _⟩ | ⟨l, _, hsome⟩
    · exact absurd hnone h
    · exact ⟨_, hsome⟩
  have hsilent : isSilent (' ' :: ':' :: tail) = false :=
    isSilent_space_cons (by decide) (by decide) (by decide) tail
  have htokens : tokenize (' ' :: ':' :: tail) = labelTokens 1 tail := by
    rw [tokenize, hsilent]
    rfl
  intro inBlock line
  rw [classify, String.toList_ofList, htail, htokens]
  exact ofTokens_colon_ne_ok rfl line

/-! ## Where a line is cut

A relationship line is cut where a name in it has a line feed behind it. There are two such
places, and at one of them it depends on the label whether anything is left behind the cut. -/

theorem labelChars_eq_nil_iff {label : Option String} :
    labelChars label = [] ↔ label.getD "" = "" := by
  cases label with
  | none => simp [labelChars]
  | some l => simp [labelChars]

/-- Without a line feed behind a name, a relationship line is one line. -/
theorem splitAt_endsChars {s t : List Char} (c : Cardinality) (label : Option String)
    (hs : ∀ x ∈ s, isBlank x = false) (ht : isIdentifier t = true) :
    splitAt '\n' (endsChars s c t ++ labelChars label) = [endsChars s c t ++ labelChars label] := by
  refine splitAt_of_notMem fun x hx => ?_
  have hbreak : isLineBreak x = false := by
    rcases List.mem_append.1 hx with hx | hx
    · exact isLineBreak_of_mem_endsChars hs (isWord_of_isIdentifier ht).2 x hx
    · exact isLineBreak_of_mem_labelChars x hx
  rintro rfl
  exact absurd hbreak (by decide)

/-- A line feed behind the second name cuts the label off. -/
theorem splitAt_endsChars_concat {s t : List Char} (c : Cardinality) (label : Option String)
    (hs : ∀ x ∈ s, isBlank x = false) (ht : isIdentifier t = true) :
    splitAt '\n' (endsChars s c (t ++ ['\n']) ++ labelChars label)
      = [endsChars s c t ++ labelChars none, labelChars label] := by
  have hline : endsChars s c (t ++ ['\n']) ++ labelChars label
      = (endsChars s c t ++ labelChars none) ++ '\n' :: labelChars label := by
    simp [endsChars, labelChars]
  have hlabel : ∀ x ∈ labelChars label, x ≠ '\n' := by
    rintro x hx rfl
    exact absurd (isLineBreak_of_mem_labelChars _ hx) (by decide)
  rw [hline, splitAt_append_cons, splitAt_endsChars c none hs ht, splitAt_of_notMem hlabel,
    List.singleton_append]

/-- A line feed behind the first name cuts the name off. -/
theorem splitAt_concat_endsChars (s : List Char) (c : Cardinality) (t : List Char)
    (label : Option String) :
    splitAt '\n' (endsChars (s ++ ['\n']) c t ++ labelChars label)
      = splitAt '\n' s ++ splitAt '\n' (endsChars [] c t ++ labelChars label) := by
  have hline : endsChars (s ++ ['\n']) c t ++ labelChars label
      = s ++ '\n' :: (endsChars [] c t ++ labelChars label) := by
    simp [endsChars]
  rw [hline, splitAt_append_cons]

end Line

/-! ## Names with a line feed behind them -/

theorem exists_of_isIdentifierLine {cs : List Char} (h : isIdentifierLine cs = true) :
    isIdentifier cs = true ∨ ∃ name, cs = name ++ ['\n'] ∧ isIdentifier name = true := by
  rw [isIdentifierLine, Bool.or_eq_true, Bool.and_eq_true] at h
  rcases h with h | ⟨hlast, hname⟩
  · exact .inl h
  · obtain ⟨name, rfl⟩ := List.getLast?_eq_some_iff.1 (eq_of_beq hlast)
    rw [List.dropLast_concat] at hname
    exact .inr ⟨name, rfl, hname⟩

/-- No identifier has a line feed behind it. -/
theorem getLast?_ne_of_isIdentifier {cs : List Char} (h : isIdentifier cs = true) :
    cs.getLast? ≠ some '\n' :=
  fun hlast => ne_of_mem_identifier h (List.mem_of_getLast? hlast) (by decide) (by decide) rfl

namespace Relationship

open Line

/-- Whether the names of a relationship are identifiers, but for a line feed behind them. This is
what names are that pass for clean. -/
def IsFit (r : Relationship) : Prop :=
  isIdentifierLine r.source.toList = true ∧ isIdentifierLine r.target.toList = true

/-- **Whether the line of a relationship stays whole**: no line feed is behind the first name, and
none behind the second, unless the line ends there. An empty label is not written, so that with
one the line ends behind the second name too. -/
def IsWhole (r : Relationship) : Prop :=
  r.source.toList.getLast? ≠ some '\n' ∧
    (r.target.toList.getLast? ≠ some '\n' ∨ r.label.getD "" = "")

instance (r : Relationship) : Decidable r.IsWhole :=
  inferInstanceAs (Decidable (_ ∧ _))

variable {r : Relationship}

theorem pieces_text (r : Relationship) :
    pieces r.text = (splitAt '\n' (endsChars r.source.toList r.cardinality r.target.toList
      ++ labelChars r.label)).map String.ofList := by
  rw [pieces, text, toList_relationshipLine]

/-- **A line that stays whole passes**, with the empty line that may be cut off it. -/
theorem passes_of_isWhole (hr : r.IsFit) (h : r.IsWhole) : ∀ p ∈ pieces r.text, Passes p := by
  obtain ⟨hsource, htarget⟩ := h
  have hs : isIdentifier r.source.toList = true := by
    rcases exists_of_isIdentifierLine hr.1 with hs | ⟨name, hname, _⟩
    · exact hs
    · exact absurd (by rw [hname, List.getLast?_concat]) hsource
  have hpasses : ∀ {t : List Char} {label : Option String}, isIdentifier t = true →
      Passes (String.ofList (endsChars r.source.toList r.cardinality t ++ labelChars label)) := by
    intro t label ht
    have hline : String.ofList (endsChars r.source.toList r.cardinality t ++ labelChars label)
        = Outline.relationshipLine r.source r.cardinality (String.ofList t) label := by
      rw [← String.toList_inj, toList_relationshipLine, String.toList_ofList, String.toList_ofList]
    rw [hline]
    exact .inr ⟨_, _, _, _, classify_relationshipLine false _ _ hs
      (by rw [String.toList_ofList]; exact ht)⟩
  have hblank : ∀ x ∈ r.source.toList, isBlank x = false := (isWord_of_isIdentifier hs).2
  intro p hp
  rw [pieces_text] at hp
  rcases exists_of_isIdentifierLine hr.2 with ht | ⟨t, hname, ht⟩
  · rw [splitAt_endsChars _ _ hblank ht, List.map_singleton, List.mem_singleton] at hp
    rw [hp]
    exact hpasses ht
  · -- the line ends with the line feed, so that only an empty line is cut off
    have hlabel : labelChars r.label = [] := labelChars_eq_nil_iff.2
      (htarget.resolve_left (not_not_intro (by rw [hname, List.getLast?_concat])))
    rw [hname, splitAt_endsChars_concat _ _ hblank ht, List.map_cons, List.map_singleton,
      List.mem_cons, List.mem_singleton, hlabel] at hp
    rcases hp with rfl | rfl
    · exact hpasses ht
    · exact .inl rfl

/-- **A line that is torn has a piece that is refused.** Where the line feed stands decides which
piece it is: the one with the symbol in front, or the one with the colon. -/
theorem exists_isRefused_of_not_isWhole (hr : r.IsFit) (h : ¬ r.IsWhole) :
    ∃ p ∈ pieces r.text, IsRefused p := by
  rw [pieces_text]
  rcases exists_of_isIdentifierLine hr.1 with hs | ⟨s, hs, _⟩
  · -- then the label is cut off
    have hblank : ∀ x ∈ r.source.toList, isBlank x = false := (isWord_of_isIdentifier hs).2
    obtain ⟨hlast, hlabel⟩ := not_or.1 (not_and.1 h (getLast?_ne_of_isIdentifier hs))
    rcases exists_of_isIdentifierLine hr.2 with ht | ⟨t, hname, ht⟩
    · exact absurd (getLast?_ne_of_isIdentifier ht) hlast
    · rw [hname, splitAt_endsChars_concat _ _ hblank ht, List.map_cons, List.map_singleton]
      exact ⟨_, List.mem_cons_of_mem _ (List.mem_singleton_self _),
        isRefused_labelChars (mt labelChars_eq_nil_iff.1 hlabel)⟩
  · -- then the symbol and what follows it are cut off
    rw [hs, splitAt_concat_endsChars, List.map_append]
    rcases exists_of_isIdentifierLine hr.2 with ht | ⟨t, hname, ht⟩
    · rw [splitAt_endsChars _ _ (List.forall_mem_nil _) ht]
      exact ⟨_, List.mem_append_right _ (List.mem_singleton_self _), isRefused_symbol _ ht _⟩
    · rw [hname, splitAt_endsChars_concat _ _ (List.forall_mem_nil _) ht]
      exact ⟨_, List.mem_append_right _ List.mem_cons_self, isRefused_symbol _ ht none⟩

end Relationship

/-! ## Lists and blocks of relationship lines -/

namespace Document

open Line

variable {l : List Relationship} {numbered : List NumberedLine}

/-- Lines that pass are read one after the other as the items of a list. -/
theorem exists_addItems_of_passes (h : ∀ n ∈ numbered, Passes n.text) (d : Diagram) :
    ∃ d', addItems d (numbered.map .ok) = .ok d' := by
  induction numbered generalizing d with
  | nil => exact ⟨d, rfl⟩
  | cons n numbered ih =>
    have hone : ∃ d', addItem d n = .ok d' := by
      unfold addItem
      rcases h n List.mem_cons_self with hblank | ⟨s, c, t, label, hline⟩
      · rw [NumberedLine.classify_eq_ok.2 hblank]
        exact ⟨_, rfl⟩
      · rw [NumberedLine.classify_eq_ok.2 hline]
        exact ⟨_, rfl⟩
    obtain ⟨d', hd'⟩ := hone
    obtain ⟨d'', hd''⟩ := ih (fun m hm => h m (List.mem_cons_of_mem n hm)) d'
    refine ⟨d'', ?_⟩
    rw [List.map_cons, addItems, hd']
    exact hd''

/-- So are they as the lines of a block, outside of any attribute block. -/
theorem exists_readLines_of_passes (h : ∀ n ∈ numbered, Passes n.text) (d : Diagram) :
    ∃ d', d.readLines numbered = .ok d' := by
  induction numbered generalizing d with
  | nil => exact ⟨d, rfl⟩
  | cons n numbered ih =>
    have hone : ∃ d', (State.mk none d).read n = .ok ⟨none, d'⟩ := by
      unfold State.read
      rcases h n List.mem_cons_self with hblank | ⟨s, c, t, label, hline⟩
      · rw [Option.isSome_none, NumberedLine.classify_eq_ok.2 hblank]
        exact ⟨_, rfl⟩
      · rw [Option.isSome_none, NumberedLine.classify_eq_ok.2 hline]
        exact ⟨_, rfl⟩
    obtain ⟨d', hd'⟩ := hone
    obtain ⟨d'', hd''⟩ := ih (fun m hm => h m (List.mem_cons_of_mem n hm)) d'
    refine ⟨d'', ?_⟩
    rw [Diagram.readLines, State.readAll, hd']
    exact hd''

/-- The items of a list that is read all say something that is known. -/
theorem exists_classify_of_addItems {d d' : Diagram}
    (h : addItems d (numbered.map .ok) = .ok d') :
    ∀ n ∈ numbered, ∃ inBlock line, Line.classify inBlock n.text = .ok line := by
  induction numbered generalizing d with
  | nil => exact nofun
  | cons n numbered ih =>
    rw [List.map_cons, addItems] at h
    split at h
    · cases h
    · next d₁ hone =>
      refine List.forall_mem_cons.2 ⟨?_, ih h⟩
      unfold addItem at hone
      split at hone
      · cases hone
      all_goals exact ⟨_, _, NumberedLine.classify_eq_ok.1 ‹_›⟩

/-- So do the lines of a block. -/
theorem exists_classify_of_readAll {s : State} {d' : Diagram}
    (h : s.readAll numbered = .ok d') :
    ∀ n ∈ numbered, ∃ inBlock line, Line.classify inBlock n.text = .ok line := by
  induction numbered generalizing s with
  | nil => exact nofun
  | cons n numbered ih =>
    rw [State.readAll] at h
    split at h
    · cases h
    · next s₁ hone =>
      refine List.forall_mem_cons.2 ⟨?_, ih h⟩
      unfold State.read at hone
      split at hone
      · cases hone
      · next line hline => exact ⟨_, line, NumberedLine.classify_eq_ok.1 hline⟩

/-- The pieces of relationship lines that stay whole pass. -/
theorem passes_of_mem_flatMap (hl : ∀ r ∈ l, r.IsFit) (h : ∀ r ∈ l, r.IsWhole) {p : String}
    (hp : p ∈ (l.map (·.text)).flatMap pieces) : Passes p := by
  obtain ⟨_, ht, hp⟩ := List.mem_flatMap.1 hp
  obtain ⟨r, hr, rfl⟩ := List.mem_map.1 ht
  exact Relationship.passes_of_isWhole (hl r hr) (h r hr) p hp

/-- Where all pieces of relationship lines say something, the lines stay whole. -/
theorem isWhole_of_classify (hl : ∀ r ∈ l, r.IsFit)
    (h : ∀ p ∈ (l.map (·.text)).flatMap pieces, ∃ inBlock line,
      Line.classify inBlock p = .ok line) : ∀ r ∈ l, r.IsWhole := by
  intro r hr
  by_contra hnot
  obtain ⟨p, hp, hrefused⟩ := Relationship.exists_isRefused_of_not_isWhole (hl r hr) hnot
  obtain ⟨inBlock, line, hline⟩ :=
    h p (List.mem_flatMap.2 ⟨r.text, List.mem_map_of_mem hr, hp⟩)
  exact hrefused inBlock line hline

/-- **A list of relationship lines is read exactly if they stay whole.** -/
theorem exists_addItems_iff (hl : ∀ r ∈ l, r.IsFit)
    (htexts : numbered.map (·.text) = (l.map (·.text)).flatMap pieces) (d : Diagram) :
    (∃ d', addItems d (numbered.map .ok) = .ok d') ↔ ∀ r ∈ l, r.IsWhole := by
  constructor
  · rintro ⟨d', h⟩
    refine isWhole_of_classify hl fun p hp => ?_
    rw [← htexts] at hp
    obtain ⟨n, hn, rfl⟩ := List.mem_map.1 hp
    exact exists_classify_of_addItems h n hn
  · intro h
    refine exists_addItems_of_passes (fun n hn => passes_of_mem_flatMap hl h ?_) d
    rw [← htexts]
    exact List.mem_map_of_mem hn

/-- **So is a block of them**, with the empty line at its end. -/
theorem exists_readLines_iff (hl : ∀ r ∈ l, r.IsFit)
    (htexts : numbered.map (·.text) = (l.map (·.text)).flatMap pieces ++ [""]) (d : Diagram) :
    (∃ d', d.readLines numbered = .ok d') ↔ ∀ r ∈ l, r.IsWhole := by
  constructor
  · rintro ⟨d', h⟩
    refine isWhole_of_classify hl fun p hp => ?_
    have hmem : p ∈ numbered.map (·.text) := htexts ▸ List.mem_append_left _ hp
    obtain ⟨n, hn, rfl⟩ := List.mem_map.1 hmem
    exact exists_classify_of_readAll h n hn
  · intro h
    refine exists_readLines_of_passes (fun n hn => ?_) d
    have hmem : n.text ∈ (l.map (·.text)).flatMap pieces ++ [""] :=
      htexts ▸ List.mem_map_of_mem hn
    rcases List.mem_append.1 hmem with hmem | hmem
    · exact passes_of_mem_flatMap hl h hmem
    · rw [List.mem_singleton.1 hmem]
      exact .inl rfl

end Document

end ErDiagram
