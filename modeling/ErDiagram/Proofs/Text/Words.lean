import ErDiagram.Text.Split

/-!
# Words of a text

Words are cut out one character at a time, but what is said of them is said by runs: a run of
characters that are no blanks, up to a blank or the end, is one word. From this equation follows
that joining words by single spaces and cutting again gives the same words, so that squeezing a
text changes none of its words, and a text is squeezed in one go.

The equation is `wordsFrom_append`, and with `runs_induction`, an induction along blanks and runs,
it takes the place of the recursion over characters in all later proofs. Columns are kept out as
far as possible: where a text starts moves all words by as much (`wordsFrom_add`), and the
characters of the words do not depend on it.

That no word character is a blank is a fact about two tables. It is checked for the blanks, of
which there are few, and not for the word characters.
-/

namespace ErDiagram.Text

/-! ## Blanks and word characters -/

/-- The blanks beyond ASCII, as a list: it is short enough to check each of them against the table
of word characters. -/
def wideBlanks : List Nat :=
  [0x85, 0xa0, 0x1680, 0x2000, 0x2001, 0x2002, 0x2003, 0x2004, 0x2005, 0x2006, 0x2007, 0x2008,
    0x2009, 0x200a, 0x2028, 0x2029, 0x202f, 0x205f, 0x3000]

theorem wordRanges_wideBlanks :
    ∀ n ∈ wideBlanks, (wordRanges.any fun r => r.1 ≤ n && n ≤ r.2) = false := by
  decide +kernel

theorem toNat_mem_wideBlanks {c : Char} (h : isBlank c = true) (hc : ¬ c.toNat < 128) :
    c.toNat ∈ wideBlanks := by
  simp only [isBlank, Bool.or_eq_true, Bool.and_eq_true, decide_eq_true_eq, beq_iff_eq] at h
  simp only [wideBlanks, List.mem_cons, List.not_mem_nil, or_false]
  omega

/-- Of the first 128 characters none is both. -/
theorem isBlank_ofNat_of_isWordChar :
    ∀ n < 128, isWordChar (Char.ofNat n) = true → isBlank (Char.ofNat n) = false := by
  decide +kernel

/-- **No word character is a blank.** -/
theorem isBlank_eq_false_of_isWordChar {c : Char} (h : isWordChar c = true) :
    isBlank c = false := by
  by_cases hc : c.toNat < 128
  · rw [← Char.ofNat_toNat c] at h ⊢
    exact isBlank_ofNat_of_isWordChar _ hc h
  · rw [Bool.eq_false_iff]
    intro hb
    rw [isWordChar, if_neg hc, wordRanges_wideBlanks _ (toNat_mem_wideBlanks hb hc)] at h
    exact Bool.false_ne_true h

/-- **A run of characters that can be one word**: there is one, and none is a blank. It says
nothing of what stands beside the run, which is left to `EndsWord`. -/
def IsWord (w : List Char) : Prop := w ≠ [] ∧ ∀ c ∈ w, isBlank c = false

instance : DecidablePred IsWord := fun w =>
  decidable_of_iff (w ≠ [] ∧ w.all (fun c => !isBlank c) = true) (by simp [IsWord])

/-- Whether a word ends before a text: the text is over, or starts with a blank. A run in front of
such a text is a whole word and not the beginning of one. -/
def EndsWord (rest : List Char) : Prop := ∀ c, rest.head? = some c → isBlank c = true

theorem endsWord_nil : EndsWord [] := fun _ h => by cases h

theorem endsWord_cons {b : Char} (h : isBlank b = true) (rest : List Char) :
    EndsWord (b :: rest) := fun c hc => by
  rw [List.head?_cons, Option.some.injEq] at hc
  rwa [← hc]

/-! ## The words of a text by its runs -/

theorem wordsFrom_cons_of_isBlank {b : Char} (h : isBlank b = true) (n : Nat)
    (rest : List Char) : wordsFrom n (b :: rest) = wordsFrom (n + 1) rest := by
  rw [wordsFrom, if_pos h]

/-- Words that start in some column or later have no lesser column. -/
theorem le_column_of_mem_wordsFrom {n : Nat} {cs : List Char} {w : Word}
    (h : w ∈ wordsFrom n cs) : n ≤ w.column := by
  induction cs generalizing n w with
  | nil => cases h
  | cons c rest ih =>
    rw [wordsFrom] at h
    split at h
    · exact Nat.le_of_succ_le (ih h)
    · split at h
      · cases List.mem_singleton.1 h
        exact Nat.le_refl n
      · next v vs hv =>
        have hlater : ∀ u ∈ v :: vs, n ≤ u.column := fun u hu =>
          Nat.le_of_succ_le (ih (hv ▸ hu))
        split at h
        · rcases List.mem_cons.1 h with rfl | h
          · exact Nat.le_refl n
          · exact hlater w (List.mem_cons_of_mem v h)
        · rcases List.mem_cons.1 h with rfl | h
          · exact Nat.le_refl n
          · exact hlater w h

/-- **A run up to a blank or the end is one word.** It is the equation that the other lemmas about
words are proved by. -/
theorem wordsFrom_append {w rest : List Char} (hw : IsWord w) (hr : EndsWord rest) (n : Nat) :
    wordsFrom n (w ++ rest) = ⟨n, w⟩ :: wordsFrom (n + w.length) rest := by
  obtain ⟨hne, hw⟩ := hw
  induction w generalizing n with
  | nil => exact absurd rfl hne
  | cons c w ih =>
    have hc : isBlank c = false := hw c List.mem_cons_self
    cases w with
    | nil =>
      rw [List.cons_append, List.nil_append, wordsFrom, if_neg (by rw [hc]; decide)]
      cases hlater : wordsFrom (n + 1) rest with
      | nil => simp
      | cons v vs =>
        -- the next word starts behind the blank that ends this one
        have hv : n + 2 ≤ v.column := by
          cases rest with
          | nil => cases hlater
          | cons b rest =>
            rw [wordsFrom_cons_of_isBlank (hr b rfl)] at hlater
            exact le_column_of_mem_wordsFrom (hlater ▸ List.mem_cons_self)
        have hcol : v.column ≠ n + 1 := by omega
        simp [hcol]
    | cons d w =>
      have ih := ih (n + 1) (by simp) (fun x hx => hw x (List.mem_cons_of_mem c hx))
      rw [List.cons_append, wordsFrom, if_neg (by rw [hc]; decide), ih]
      simp [Nat.add_assoc, Nat.add_comm 1]

/-- A column further to the right moves all words as far. -/
theorem wordsFrom_add (k n : Nat) (cs : List Char) :
    wordsFrom (k + n) cs = (wordsFrom n cs).map fun w => ⟨k + w.column, w.chars⟩ := by
  induction cs generalizing n with
  | nil => rfl
  | cons c rest ih =>
    have ih := ih (n + 1)
    rw [← Nat.add_assoc] at ih
    rw [wordsFrom, wordsFrom, ih]
    split
    · rfl
    · cases wordsFrom (n + 1) rest with
      | nil => rfl
      | cons v vs =>
        have hcol : k + v.column = k + n + 1 ↔ v.column = n + 1 := by omega
        simp only [List.map_cons, hcol]
        split <;> rfl

/-- The column of a text does not matter to the characters of its words. -/
theorem map_chars_wordsFrom (n : Nat) (cs : List Char) :
    (wordsFrom n cs).map (·.chars) = words cs := by
  have h := wordsFrom_add n 0 cs
  rw [Nat.add_zero] at h
  rw [h, List.map_map]
  rfl

@[simp] theorem words_nil : words [] = [] := rfl

theorem words_cons_of_isBlank {b : Char} (h : isBlank b = true) (rest : List Char) :
    words (b :: rest) = words rest := by
  rw [words, wordsFrom_cons_of_isBlank h, map_chars_wordsFrom]

theorem words_append {w rest : List Char} (hw : IsWord w) (hr : EndsWord rest) :
    words (w ++ rest) = w :: words rest := by
  rw [words, wordsFrom_append hw hr, List.map_cons, map_chars_wordsFrom]

theorem wordsFrom_of_isWord {w : List Char} (hw : IsWord w) (n : Nat) :
    wordsFrom n w = [⟨n, w⟩] := by
  have h := wordsFrom_append hw endsWord_nil n
  rwa [List.append_nil] at h

theorem words_of_isWord {w : List Char} (hw : IsWord w) : words w = [w] := by
  rw [words, wordsFrom_of_isWord hw]
  rfl

/-- Whatever is cut out of a text is a word. -/
theorem isWord_of_mem_wordsFrom {n : Nat} {cs : List Char} {w : Word}
    (h : w ∈ wordsFrom n cs) : IsWord w.chars := by
  induction cs generalizing n w with
  | nil => cases h
  | cons c rest ih =>
    rw [wordsFrom] at h
    split at h
    · exact ih h
    · next hc =>
      have hone : IsWord [c] := ⟨by simp, by simpa using hc⟩
      split at h
      · rw [List.mem_singleton.1 h]
        exact hone
      · next v vs hv =>
        have hlater : ∀ u ∈ v :: vs, IsWord u.chars := fun u hu => ih (hv ▸ hu)
        split at h
        · rcases List.mem_cons.1 h with rfl | h
          · refine ⟨by simp, fun x hx => ?_⟩
            rcases List.mem_cons.1 hx with rfl | hx
            · exact hone.2 _ List.mem_cons_self
            · exact (hlater v List.mem_cons_self).2 x hx
          · exact hlater w (List.mem_cons_of_mem v h)
        · rcases List.mem_cons.1 h with rfl | h
          · exact hone
          · exact hlater w h

theorem isWord_of_mem_words {cs w : List Char} (h : w ∈ words cs) : IsWord w := by
  obtain ⟨v, hv, rfl⟩ := List.mem_map.1 h
  exact isWord_of_mem_wordsFrom hv

/-- **Induction along the runs of a text**: it is over, or starts with a blank, or with a word. -/
@[elab_as_elim]
theorem runs_induction {motive : List Char → Prop} (nil : motive [])
    (blank : ∀ b cs, isBlank b = true → motive cs → motive (b :: cs))
    (word : ∀ w cs, IsWord w → EndsWord cs → motive cs → motive (w ++ cs))
    (cs : List Char) : motive cs := by
  -- the word that has been read so far goes along, until a blank ends it
  have hrun : ∀ cs w : List Char, (∀ c ∈ w, isBlank c = false) → motive (w ++ cs) := by
    intro cs
    induction cs with
    | nil =>
      intro w hw
      cases w with
      | nil => exact nil
      | cons c w => exact word (c :: w) [] ⟨List.cons_ne_nil c w, hw⟩ endsWord_nil nil
    | cons b cs ih =>
      intro w hw
      by_cases hb : isBlank b = true
      · have hrest : motive (b :: cs) := blank b cs hb (ih [] nofun)
        cases w with
        | nil => exact hrest
        | cons c w =>
          exact word (c :: w) (b :: cs) ⟨List.cons_ne_nil c w, hw⟩ (endsWord_cons hb cs) hrest
      · have hlonger := ih (w ++ [b]) fun c hc => by
          rcases List.mem_append.1 hc with hc | hc
          · exact hw c hc
          · rw [List.mem_singleton.1 hc]
            simpa using hb
        rwa [List.append_assoc, List.singleton_append] at hlonger
  exact hrun cs [] nofun

/-- A text without words has nothing but blanks. -/
theorem words_eq_nil_iff {cs : List Char} : words cs = [] ↔ ∀ c ∈ cs, isBlank c = true := by
  induction cs with
  | nil => simp
  | cons c rest ih =>
    by_cases hc : isBlank c = true
    · rw [words_cons_of_isBlank hc, ih]
      simp [hc]
    · refine ⟨fun h => ?_, fun h => absurd (h c List.mem_cons_self) hc⟩
      rw [words, List.map_eq_nil_iff, wordsFrom, if_neg hc] at h
      split at h
      · cases h
      · split at h <;> cases h

/-! ## Words joined by spaces

Joining and cutting are inverse for words. Squeezing a text is cutting it and joining what comes
out, and so it changes no word. -/

/-- Texts are made of their characters. -/
theorem map_ofList_map_toList (ws : List String) :
    (ws.map String.toList).map String.ofList = ws := by
  rw [List.map_map]
  exact (List.map_congr_left fun w _ => String.ofList_toList).trans (List.map_id ws)

theorem isBlank_space : isBlank ' ' = true := by decide

theorem endsWord_joinWith (ws : List (List Char)) :
    EndsWord (ws.flatMap fun w => ' ' :: w) := by
  cases ws with
  | nil => exact endsWord_nil
  | cons w ws => exact endsWord_cons isBlank_space _

/-- The first word, and a space before each other. -/
theorem joinWith_cons (w : List Char) (ws : List (List Char)) :
    joinWith [' '] (w :: ws) = w ++ ws.flatMap fun v => ' ' :: v := by
  induction ws generalizing w with
  | nil => simp [joinWith]
  | cons v vs ih =>
    rw [joinWith, ih]
    · simp
    · simp

/-- **Words joined by single spaces are cut into the same words.** Each word ends at the space
behind it, or at the end of the text. -/
theorem words_joinWith {ws : List (List Char)} (h : ∀ w ∈ ws, IsWord w) :
    words (joinWith [' '] ws) = ws := by
  cases ws with
  | nil => rfl
  | cons w ws =>
    rw [joinWith_cons, words_append (h w List.mem_cons_self) (endsWord_joinWith ws)]
    congr 1
    replace h : ∀ v ∈ ws, IsWord v := fun v hv => h v (List.mem_cons_of_mem w hv)
    induction ws with
    | nil => rfl
    | cons v vs ih =>
      rw [List.flatMap_cons, List.cons_append, words_cons_of_isBlank isBlank_space,
        words_append (h v List.mem_cons_self) (endsWord_joinWith vs),
        ih (fun u hu => h u (List.mem_cons_of_mem v hu))]

@[simp] theorem words_squeeze (cs : List Char) : words (squeeze cs) = words cs :=
  words_joinWith fun _ => isWord_of_mem_words

theorem squeeze_eq_nil_iff {cs : List Char} : squeeze cs = [] ↔ words cs = [] := by
  constructor
  · intro h
    rw [← words_squeeze, h, words_nil]
  · intro h
    rw [squeeze, h]
    rfl

theorem intercalate_eq_joinWith (separator : List Char) (ws : List (List Char)) :
    separator.intercalate ws = joinWith separator ws := by
  induction ws with
  | nil => rfl
  | cons w ws ih =>
    cases ws with
    | nil => rw [List.intercalate_singleton, joinWith]
    | cons v ws =>
      rw [List.intercalate_cons_cons, ih]
      rfl

/-- The characters of words with single spaces between them. -/
theorem toList_intercalate_space (ws : List String) :
    (" ".intercalate ws).toList = joinWith [' '] (ws.map String.toList) := by
  rw [String.toList_intercalate]
  exact intercalate_eq_joinWith _ _

/-- Words joined by spaces consist of their characters and spaces. -/
theorem eq_space_or_mem_of_mem_joinWith {ws : List (List Char)} {c : Char}
    (h : c ∈ joinWith [' '] ws) : c = ' ' ∨ ∃ w ∈ ws, c ∈ w := by
  cases ws with
  | nil => cases h
  | cons w ws =>
    rw [joinWith_cons, List.mem_append, List.mem_flatMap] at h
    rcases h with h | ⟨v, hv, h⟩
    · exact .inr ⟨w, List.mem_cons_self, h⟩
    · rcases List.mem_cons.1 h with rfl | h
      · exact .inl rfl
      · exact .inr ⟨v, List.mem_cons_of_mem w hv, h⟩

/-- A squeezed text consists of spaces and characters that are no blanks. -/
theorem eq_space_of_mem_squeeze {cs : List Char} {c : Char} (h : c ∈ squeeze cs) :
    c = ' ' ∨ isBlank c = false :=
  (eq_space_or_mem_of_mem_joinWith h).imp_right fun ⟨_, hw, hc⟩ => (isWord_of_mem_words hw).2 c hc

/-! ## Blanks around a text -/

theorem strip_cons_of_isBlank {b : Char} (h : isBlank b = true) (cs : List Char) :
    strip (b :: cs) = strip cs := by
  rw [strip, strip, stripLeft, stripLeft, List.dropWhile_cons_of_pos h]

/-- **The first character that is no blank stays.** -/
theorem strip_cons_of_not_isBlank {c : Char} (h : isBlank c = false) (cs : List Char) :
    strip (c :: cs) = c :: stripRight cs := by
  have hc : ¬ isBlank c = true := by rw [h]; decide
  rw [strip, stripLeft, List.dropWhile_cons_of_neg hc, stripRight, stripRight,
    List.reverse_cons, List.dropWhile_append]
  split
  · next he =>
    rw [List.dropWhile_cons_of_neg hc, List.isEmpty_iff.1 he]
    rfl
  · rw [List.reverse_append]
    rfl

/-- **What is taken away are the blanks** at the two ends. -/
theorem exists_strip_append (cs : List Char) :
    ∃ right, (∀ c ∈ right, isBlank c = true) ∧
      cs = cs.takeWhile isBlank ++ (strip cs ++ right) := by
  refine ⟨((stripLeft cs).reverse.takeWhile isBlank).reverse,
    fun c hc => List.all_eq_true.1 List.all_takeWhile c (List.mem_reverse.1 hc), ?_⟩
  rw [strip, stripRight, ← List.reverse_append, List.takeWhile_append_dropWhile,
    List.reverse_reverse, stripLeft, List.takeWhile_append_dropWhile]

/-- A text that does not end in a blank keeps its end. -/
theorem stripRight_eq_self {cs : List Char}
    (h : ∀ c, cs.getLast? = some c → isBlank c = false) : stripRight cs = cs := by
  rw [← List.head?_reverse] at h
  rw [stripRight]
  cases hr : cs.reverse with
  | nil => rw [List.dropWhile_nil, ← hr, List.reverse_reverse]
  | cons c l =>
    have hc : ¬ isBlank c = true := by rw [h c (by rw [hr]; rfl)]; decide
    rw [List.dropWhile_cons_of_neg hc, ← hr, List.reverse_reverse]

/-- Words joined by spaces end as the last word does. -/
theorem isBlank_getLast?_joinWith {ws : List (List Char)} (h : ∀ w ∈ ws, IsWord w) :
    ∀ c, (joinWith [' '] ws).getLast? = some c → isBlank c = false := by
  induction ws with
  | nil => intro c hc; cases hc
  | cons w ws ih =>
    intro c hc
    obtain ⟨hne, hw⟩ := h w List.mem_cons_self
    cases ws with
    | nil => exact hw c (List.mem_of_getLast? hc)
    | cons v vs =>
      rw [joinWith, List.getLast?_append, Option.or_eq_some_iff] at hc
      · rcases hc with hc | ⟨hnone, _⟩
        · exact ih (fun u hu => h u (List.mem_cons_of_mem w hu)) c hc
        · rw [List.getLast?_eq_none_iff, joinWith_cons, List.append_eq_nil_iff] at hnone
          exact absurd hnone.1 (h v (by simp)).1
      · simp

theorem strip_squeeze (cs : List Char) : strip (squeeze cs) = squeeze cs := by
  have hw : ∀ w ∈ words cs, IsWord w := fun _ => isWord_of_mem_words
  have hlast := isBlank_getLast?_joinWith hw
  rw [squeeze] at *
  cases hcs : words cs with
  | nil => rfl
  | cons w ws =>
    rw [hcs] at hw hlast
    obtain ⟨hne, hc⟩ := hw w List.mem_cons_self
    cases w with
    | nil => exact absurd rfl hne
    | cons c w =>
      rw [joinWith_cons, List.cons_append] at hlast ⊢
      rw [strip_cons_of_not_isBlank (hc c List.mem_cons_self)]
      congr 1
      refine stripRight_eq_self fun d hd => hlast d ?_
      rw [List.getLast?_cons, hd]
      rfl

end ErDiagram.Text
