import ErDiagram.Identifier
import ErDiagram.Proofs.Text.Words
import Mathlib.Data.List.Chain
import Mathlib.Data.List.TakeWhile

/-!
# What an identifier consists of

An identifier has nothing but word characters and hyphens, so that it is a word of any line it
stands in, and no colon, brace or comment mark is part of it.

Any other name is brought into this form in three passes. The first leaves only word characters
and hyphens, the second only single hyphens, and the third no hyphen at the ends, and this is all
that an identifier asks for (`isIdentifier_of_singleHyphens`). A line feed behind an identifier
slips through, since the name is then taken for one that is fit already. What comes out of the
passes is left alone when they are run again.

Each pass has a lemma for what it achieves and one for what it leaves as it was, and the passes
are not opened again after these. The definition of an identifier goes through its characters from
left to right, with two at a time where there is a hyphen; the form without recursion is easier to
establish from what the passes leave.
-/

namespace ErDiagram

open Text

theorem isWordChar_or_hyphen_of_mem_tail {cs : List Char} {c : Char}
    (h : identifierTail cs = true) (hc : c ∈ cs) : isWordChar c = true ∨ c = '-' := by
  fun_induction identifierTail cs with
  | case1 => cases hc
  | case2 d => exact .inl (List.mem_singleton.1 hc ▸ h)
  | case3 d rest ih =>
    rw [Bool.and_eq_true] at h
    rcases List.mem_cons.1 hc with rfl | hc
    · exact .inr rfl
    · rcases List.mem_cons.1 hc with rfl | hc
      · exact .inl h.1
      · exact ih h.2 hc
  | case4 d e rest _ ih =>
    rw [Bool.and_eq_true] at h
    rcases List.mem_cons.1 hc with rfl | hc
    · exact .inl h.1
    · exact ih h.2 hc

/-- **An identifier has word characters and hyphens only.** -/
theorem isWordChar_or_hyphen_of_mem {cs : List Char} {c : Char} (h : isIdentifier cs = true)
    (hc : c ∈ cs) : isWordChar c = true ∨ c = '-' := by
  cases cs with
  | nil => cases hc
  | cons d rest =>
    rw [isIdentifier, Bool.and_eq_true] at h
    rcases List.mem_cons.1 hc with rfl | hc
    · exact .inl h.1
    · exact isWordChar_or_hyphen_of_mem_tail h.2 hc

/-- An identifier starts with a word character. -/
theorem exists_cons_of_isIdentifier {cs : List Char} (h : isIdentifier cs = true) :
    ∃ c rest, cs = c :: rest ∧ isWordChar c = true := by
  cases cs with
  | nil => cases h
  | cons c rest =>
    rw [isIdentifier, Bool.and_eq_true] at h
    exact ⟨c, rest, rfl, h.1⟩

/-- A character that is neither is in no identifier. -/
theorem ne_of_mem_identifier {cs : List Char} {c d : Char} (h : isIdentifier cs = true)
    (hc : c ∈ cs) (hd : isWordChar d = false) (hyphen : d ≠ '-') : c ≠ d := by
  rintro rfl
  rcases isWordChar_or_hyphen_of_mem h hc with hw | hw
  · exact Bool.false_ne_true (hd.symm.trans hw)
  · exact hyphen hw

/-- **An identifier is a word.** Neither word characters nor hyphens are blanks. -/
theorem isWord_of_isIdentifier {cs : List Char} (h : isIdentifier cs = true) : IsWord cs := by
  refine ⟨?_, fun c hc => ?_⟩
  · rintro rfl
    cases h
  · rcases isWordChar_or_hyphen_of_mem h hc with hw | rfl
    · exact isBlank_eq_false_of_isWordChar hw
    · decide

/-! ## Names made fit for the line syntax -/

/-- No hyphen comes right after another. It is a chain condition, since it is about neighbours
only and is kept when the ends are cut off. -/
def SingleHyphens (cs : List Char) : Prop :=
  cs.IsChain fun c d => ¬ (c = '-' ∧ d = '-')

theorem identifierTail_of_singleHyphens {cs : List Char}
    (hchars : ∀ c ∈ cs, isWordChar c = true ∨ c = '-') (hsingle : SingleHyphens cs)
    (hlast : cs.getLast? ≠ some '-') : identifierTail cs = true := by
  have htail : ∀ {c : Char} {cs : List Char}, (c :: cs).getLast? ≠ some '-' →
      cs.getLast? ≠ some '-' := fun h hcs => h (by rw [List.getLast?_cons, hcs]; rfl)
  fun_induction identifierTail cs with
  | case1 => rfl
  | case2 c =>
    refine (hchars c List.mem_cons_self).resolve_right fun hc => hlast ?_
    rw [hc]
    rfl
  | case3 d rest ih =>
    -- what follows the hyphen is none
    obtain ⟨hne, hrest⟩ := List.isChain_cons_cons.1 hsingle
    have hd := (hchars d (by simp)).resolve_right fun hd => hne ⟨rfl, hd⟩
    rw [hd, Bool.true_and]
    exact ih (fun c hc => hchars c (by simp [hc])) hrest.tail (htail (htail hlast))
  | case4 c d rest hc ih =>
    have hword := (hchars c List.mem_cons_self).resolve_right hc
    rw [hword, Bool.true_and]
    exact ih (fun c hc => hchars c (List.mem_cons_of_mem _ hc)) hsingle.tail (htail hlast)

/-- **What makes a text an identifier**: it has word characters and hyphens only, no two hyphens
in a row, and none at its ends. -/
theorem isIdentifier_of_singleHyphens {cs : List Char} (hne : cs ≠ [])
    (hchars : ∀ c ∈ cs, isWordChar c = true ∨ c = '-') (hsingle : SingleHyphens cs)
    (hfirst : cs.head? ≠ some '-') (hlast : cs.getLast? ≠ some '-') :
    isIdentifier cs = true := by
  have htail := identifierTail_of_singleHyphens hchars hsingle hlast
  cases cs with
  | nil => exact absurd rfl hne
  | cons c rest =>
    have hc := (hchars c List.mem_cons_self).resolve_right fun hc => hfirst (by rw [hc]; rfl)
    rw [isIdentifier, hc, Bool.true_and]
    refine identifierTail_of_singleHyphens (fun c hc => hchars c (List.mem_cons_of_mem _ hc))
      hsingle.tail fun h => hlast ?_
    rw [List.getLast?_cons, h]
    rfl

theorem mem_underscoreRuns {cs : List Char} {c : Char} (h : c ∈ underscoreRuns cs) :
    isWordChar c = true ∨ c = '-' := by
  have hunderscore : isWordChar '_' = true := by decide
  fun_induction underscoreRuns cs with
  | case1 => cases h
  | case2 d rest hd ih =>
    rcases List.mem_cons.1 h with rfl | h
    · simpa using hd
    · exact ih h
  | case3 => exact .inl (List.mem_singleton.1 h ▸ hunderscore)
  | case4 _ _ _ _ _ ih =>
    rcases List.mem_cons.1 h with rfl | h
    · exact .inl hunderscore
    · exact ih h
  | case5 _ _ _ _ _ ih => exact ih h

theorem head?_singleHyphens (cs : List Char) : (singleHyphens cs).head? = cs.head? := by
  fun_induction singleHyphens cs with
  | case1 => rfl
  | case2 => rfl
  | case3 c d rest h ih =>
    rw [ih, h.1, h.2]
    rfl
  | case4 => rfl

theorem mem_singleHyphens {cs : List Char} {c : Char} (h : c ∈ singleHyphens cs) : c ∈ cs := by
  fun_induction singleHyphens cs with
  | case1 => exact h
  | case2 => exact h
  | case3 _ _ _ _ ih => exact List.mem_cons_of_mem _ (ih h)
  | case4 d e rest _ ih =>
    rcases List.mem_cons.1 h with rfl | h
    · exact List.mem_cons_self
    · exact List.mem_cons_of_mem _ (ih h)

theorem isSingle_singleHyphens (cs : List Char) : SingleHyphens (singleHyphens cs) := by
  fun_induction singleHyphens cs with
  | case1 => exact List.isChain_nil
  | case2 => exact List.isChain_singleton _
  | case3 _ _ _ _ ih => exact ih
  | case4 c d rest h ih =>
    refine List.isChain_cons.2 ⟨fun e he => ?_, ih⟩
    rw [head?_singleHyphens] at he
    cases he
    exact h

/-- What is left without the hyphens and underscores around it is a part of the text that has
neither at its ends. -/
theorem trimJoiners_spec (cs : List Char) :
    trimJoiners cs <:+: cs ∧ (trimJoiners cs).head? ≠ some '-' ∧
      (trimJoiners cs).getLast? ≠ some '-' := by
  have hkept : ∀ {l : List Char} {c : Char},
      (l.dropWhile fun c => c == '-' || c == '_').head? = some c → c ≠ '-' := by
    rintro l c hc rfl
    have hnot := List.head?_dropWhile_not (fun c => c == '-' || c == '_') l
    rw [hc] at hnot
    exact absurd hnot (by decide)
  unfold trimJoiners
  dsimp only
  have hfront := List.reverse_prefix.2 (List.dropWhile_suffix (fun c => c == '-' || c == '_')
    (l := (cs.dropWhile fun c => c == '-' || c == '_').reverse))
  rw [List.reverse_reverse] at hfront
  refine ⟨hfront.isInfix.trans (List.dropWhile_suffix _).isInfix, fun h => ?_, fun h => ?_⟩
  · obtain ⟨rest, hrest⟩ := hfront
    exact hkept (by rw [← hrest, List.head?_append, h]; rfl) rfl
  · rw [List.getLast?_reverse] at h
    exact hkept h rfl

/-- A name that is not fit is made an identifier, unless nothing is left of it. -/
theorem isIdentifier_cleanName_of_unfit {s : String} (h : isIdentifierLine s.toList = false)
    (hne : cleanName s ≠ "") : isIdentifier (cleanName s).toList = true := by
  have hclean : (cleanName s).toList
      = trimJoiners (singleHyphens (underscoreRuns s.toList)) := by
    unfold cleanName
    dsimp only
    rw [if_neg (Bool.eq_false_iff.1 h), String.toList_ofList]
  rw [Ne, ← String.toList_eq_nil_iff] at hne
  rw [hclean] at hne ⊢
  obtain ⟨hpart, hfirst, hlast⟩ := trimJoiners_spec (singleHyphens (underscoreRuns s.toList))
  have hchain : SingleHyphens (trimJoiners (singleHyphens (underscoreRuns s.toList))) :=
    List.IsChain.infix (isSingle_singleHyphens _) hpart
  exact isIdentifier_of_singleHyphens hne
    (fun c hc => mem_underscoreRuns (mem_singleHyphens (hpart.subset hc))) hchain hfirst hlast

/-- A name that is fit stays as it is. -/
theorem cleanName_eq_self {s : String} (h : isIdentifierLine s.toList = true) :
    cleanName s = s :=
  if_pos h

/-- **A name that is made fit is an identifier**, with the line feed that may end it, unless
nothing is left of it. -/
theorem cleanName_spec (s : String) :
    cleanName s = "" ∨ isIdentifierLine (cleanName s).toList = true := by
  by_cases hne : cleanName s = ""
  · exact .inl hne
  cases h : isIdentifierLine s.toList with
  | true => exact .inr (by rw [cleanName_eq_self h, h])
  | false =>
    rw [isIdentifierLine, isIdentifier_cleanName_of_unfit h hne, Bool.true_or]
    exact .inr rfl

theorem cleanName_eq_self_iff {s : String} :
    cleanName s = s ↔ s = "" ∨ isIdentifierLine s.toList = true := by
  constructor
  · intro h
    have hclean := cleanName_spec s
    rwa [h] at hclean
  · rintro (rfl | h)
    · decide
    · exact cleanName_eq_self h

/-- **Making a name fit twice is making it fit once.** What comes out is empty or fit, and both
are left as they are. -/
theorem cleanName_cleanName (s : String) : cleanName (cleanName s) = cleanName s :=
  cleanName_eq_self_iff.2 (cleanName_spec s)

/-! ## Letters and digits stay

Each of the three passes changes only characters that are no letters or digits. So something is
left of every name that has one.
-/

/-- Whether a text has a letter or a digit, which the word characters but the underscore are. The
underscore is left out because it may be cut off at the ends: a name of underscores only can be
left with nothing. -/
def HasLetter (s : String) : Prop := ∃ c ∈ s.toList, isWordChar c = true ∧ c ≠ '_'

/-- Whether a text is an identifier with a line feed behind it. This is the one shape that counts
as fit and is no identifier. -/
def IsFed (s : String) : Prop := ∃ cs, isIdentifier cs = true ∧ s.toList = cs ++ ['\n']

theorem isFed_iff {s : String} :
    IsFed s ↔ s.toList.getLast? = some '\n' ∧ isIdentifier s.toList.dropLast = true := by
  constructor
  · rintro ⟨cs, hid, hs⟩
    rw [hs, List.getLast?_concat, List.dropLast_concat]
    exact ⟨rfl, hid⟩
  · rintro ⟨hlast, hid⟩
    obtain ⟨cs, hcs⟩ := List.getLast?_eq_some_iff.1 hlast
    rw [hcs, List.dropLast_concat] at hid
    exact ⟨cs, hid, hcs⟩

instance (s : String) : Decidable (HasLetter s) :=
  decidable_of_iff ((s.toList.any fun c => isWordChar c && c != '_') = true) <| by
    simp [HasLetter]

instance (s : String) : Decidable (IsFed s) := decidable_of_iff _ isFed_iff.symm

theorem mem_underscoreRuns_of_isWordChar {cs : List Char} {c : Char} (h : c ∈ cs)
    (hc : isWordChar c = true) : c ∈ underscoreRuns cs := by
  -- a character that is replaced is no word character
  have hrest : ∀ {d : Char} {rest : List Char}, c ∈ d :: rest →
      ¬ (isWordChar d || d == '-') = true → c ∈ rest := by
    intro d rest h hd
    rcases List.mem_cons.1 h with rfl | h
    · exact absurd (by rw [hc, Bool.true_or]) hd
    · exact h
  fun_induction underscoreRuns cs with
  | case1 => cases h
  | case2 d rest _ ih =>
    rcases List.mem_cons.1 h with rfl | h
    · exact List.mem_cons_self
    · exact List.mem_cons_of_mem _ (ih h)
  | case3 d hd => cases hrest h hd
  | case4 d hd e rest _ ih => exact List.mem_cons_of_mem _ (ih (hrest h hd))
  | case5 d hd e rest _ ih => exact ih (hrest h hd)

theorem mem_singleHyphens_of_ne {cs : List Char} {c : Char} (h : c ∈ cs) (hc : c ≠ '-') :
    c ∈ singleHyphens cs := by
  fun_induction singleHyphens cs with
  | case1 => exact h
  | case2 => exact h
  | case3 d e rest hd ih => exact ih ((List.mem_cons.1 h).resolve_left fun he => hc (he.trans hd.1))
  | case4 d e rest _ ih =>
    rcases List.mem_cons.1 h with rfl | h
    · exact List.mem_cons_self
    · exact List.mem_cons_of_mem _ (ih h)

theorem mem_dropWhile_of_neg {α : Type} {p : α → Bool} {l : List α} {a : α} (h : a ∈ l)
    (ha : ¬ p a = true) : a ∈ l.dropWhile p := by
  rw [← List.takeWhile_append_dropWhile (p := p) (l := l)] at h
  exact (List.mem_append.1 h).resolve_left fun h => ha (List.mem_takeWhile_imp h)

theorem mem_trimJoiners_of_ne {cs : List Char} {c : Char} (h : c ∈ cs) (hhyphen : c ≠ '-')
    (hunderscore : c ≠ '_') : c ∈ trimJoiners cs := by
  have hc : ¬ (c == '-' || c == '_') = true := by
    simp [hhyphen, hunderscore]
  unfold trimJoiners
  dsimp only
  rw [List.mem_reverse]
  exact mem_dropWhile_of_neg (List.mem_reverse.2 (mem_dropWhile_of_neg h hc)) hc

/-- **Something is left of a name with a letter or a digit.** Each of the three passes keeps it. -/
theorem cleanName_ne_empty {s : String} (h : HasLetter s) : cleanName s ≠ "" := by
  obtain ⟨c, hmem, hword, hunderscore⟩ := h
  have hhyphen : c ≠ '-' := by
    rintro rfl
    exact absurd hword (by decide)
  have hleft : c ∈ (cleanName s).toList := by
    unfold cleanName
    dsimp only
    split
    · exact hmem
    · rw [String.toList_ofList]
      have hruns := mem_underscoreRuns_of_isWordChar hmem hword
      exact mem_trimJoiners_of_ne (mem_singleHyphens_of_ne hruns hhyphen) hhyphen hunderscore
  intro he
  rw [he] at hleft
  cases hleft

theorem isIdentifierLine_iff {s : String} :
    isIdentifierLine s.toList = true ↔ isIdentifier s.toList = true ∨ IsFed s := by
  rw [isIdentifierLine, Bool.or_eq_true, Bool.and_eq_true, beq_iff_eq, isFed_iff]

/-- **A name of which something is left is made an identifier**, unless it is one already with a
line feed behind it. -/
theorem isIdentifier_cleanName_of_ne {s : String} (hne : cleanName s ≠ "") (hfeed : ¬ IsFed s) :
    isIdentifier (cleanName s).toList = true := by
  cases hfit : isIdentifierLine s.toList with
  | true =>
    rw [cleanName_eq_self hfit]
    exact (isIdentifierLine_iff.1 hfit).resolve_right hfeed
  | false => exact isIdentifier_cleanName_of_unfit hfit hne

/-- This holds of every name with a letter or a digit. -/
theorem isIdentifier_cleanName {s : String} (h : HasLetter s) (hfeed : ¬ IsFed s) :
    isIdentifier (cleanName s).toList = true :=
  isIdentifier_cleanName_of_ne (cleanName_ne_empty h) hfeed

/-- **An identifier has no line feed behind it.** -/
theorem not_isIdentifier_of_isFed {s : String} (h : IsFed s) : ¬ isIdentifier s.toList = true := by
  obtain ⟨cs, _, hs⟩ := h
  intro hid
  have hmem : '\n' ∈ s.toList := by
    rw [hs]
    exact List.mem_append_right _ (List.mem_singleton_self _)
  exact ne_of_mem_identifier hid hmem (by decide) (by decide) rfl

end ErDiagram
