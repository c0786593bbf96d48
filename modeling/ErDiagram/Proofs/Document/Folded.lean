import ErDiagram.Document.Reading
import ErDiagram.Proofs.Document.Relationship
import ErDiagram.Proofs.Line.Recognition
import Mathlib.Data.Nat.Find

/-!
# The lines of a folded block

A block of text that is folded or quoted does not keep its lines, so that the number of each is
found by looking for its text in the source: from the line on which the one before was found, and
on any line that has the text somewhere in it. Where the lines of the block stand on lines of
their own, this can only go wrong in one way. What lies between two of them is blank, so that
nothing is found there, and the search never goes past the line that is meant; but it begins on
the line before it, or on the line of the mark, and ends there if the text occurs there too. So
every line of a block gets its own number exactly if the text of none occurs in the line before
it. Lines that are repeated, or that are cut out of the one before, get the number of that one.

Blank lines of a block are looked for nowhere and get a number that says nothing. They are
filtered out before anything is compared, and as they do not move the search, this can be done
first.

The condition is exact for blocks that stand on lines of their own (`StandOn`). That a line gets
the number of some line that holds it, at or before its own, is true in any case.
-/

namespace ErDiagram

namespace Text

theorem occursIn_iff {part whole : List Char} : occursIn part whole = true ↔ part <:+: whole := by
  unfold occursIn
  induction whole with
  | nil =>
    rw [splitAround?, List.infix_nil]
    split
    · next h => exact iff_of_true rfl h
    · next h => exact iff_of_false Bool.false_ne_true h
  | cons c rest ih =>
    rw [splitAround?, List.infix_cons_iff, ← ih]
    split
    · next h => exact iff_of_true rfl (.inl (List.isPrefixOf_iff_prefix.1 h))
    · next h =>
      rw [Option.isSome_map, List.isPrefixOf_iff_prefix] at *
      exact (or_iff_right h).symm

theorem allBlank_iff {cs : List Char} : allBlank cs = true ↔ strip cs = [] := by
  rw [Line.strip_eq_nil_iff, allBlank, List.all_eq_true]

/-- A text has in it what is left of it without the blanks around it. -/
theorem strip_infix (cs : List Char) : strip cs <:+: cs := by
  have hleft : stripLeft cs <:+ cs := List.dropWhile_suffix isBlank
  have hright : stripRight (stripLeft cs) <+: stripLeft cs := by
    have h := List.dropWhile_suffix (l := (stripLeft cs).reverse) isBlank
    rw [← List.reverse_prefix, List.reverse_reverse] at h
    exact h
  exact hright.isInfix.trans hleft.isInfix

/-- What is left of a text without the blanks around it is nothing, if it is blank. -/
theorem strip_eq_nil_of_blank {cs : List Char} (h : ∀ c ∈ strip cs, isBlank c = true) :
    strip cs = [] := by
  induction cs with
  | nil => rfl
  | cons c cs ih =>
    by_cases hc : isBlank c = true
    · rw [strip_cons_of_isBlank hc] at *
      exact ih h
    · rw [Bool.not_eq_true] at hc
      rw [strip_cons_of_not_isBlank hc] at h
      exact absurd (hc.symm.trans (h c List.mem_cons_self)) Bool.false_ne_true

end Text

namespace Document

open Text Yaml

/-! ## Looking for one line

The search looks from some line on for the first one that holds a text, and stays there. One lemma
says what it finds for one line, and what comes after it goes on from the place that was found. -/

/-- Whether a line of the source holds the text of a line of a block, somewhere in it: this is all
that the search asks for. -/
def Holds (source : List (List Char)) (part : List Char) (i : Nat) : Prop :=
  ∃ l, source[i]? = some l ∧ strip part <:+: l

instance (source : List (List Char)) (part : List Char) (i : Nat) :
    Decidable (Holds source part i) :=
  decidable_of_iff (source[i]?.any (occursIn (strip part)) = true) (by
    simp only [Option.any_eq_true, occursIn_iff, Holds])

/-- Whether a text has more than blanks. -/
def hasText (cs : List Char) : Bool := !allBlank cs

theorem hasText_iff {cs : List Char} : hasText cs = true ↔ strip cs ≠ [] := by
  rw [hasText, Bool.not_eq_true', Bool.eq_false_iff, Ne, allBlank_iff]

variable {source : List (List Char)} {start here : Nat} {part : List Char}
  {parts : List (List Char)}

/-- **A line gets the number of the first line that holds it**, and the search goes on there. That
it goes on there and not behind it is why two equal lines get the same number. -/
theorem locate_cons {i : Nat} (hpart : hasText part = true) (hle : here ≤ i)
    (hi : Holds source part i) (hmin : ∀ j, here ≤ j → j < i → ¬ Holds source part j) :
    locate source start here (part :: parts)
      = ⟨String.ofList part, i + 1⟩ :: locate source start i parts := by
  obtain ⟨k, rfl⟩ := Nat.exists_eq_add_of_le hle
  obtain ⟨l, hl, hocc⟩ := hi
  obtain ⟨hlt, rfl⟩ := List.getElem?_eq_some_iff.1 hl
  have hfound : (source.drop here).findIdx? (fun l => occursIn (strip part) l) = some k := by
    have hk : k < (source.drop here).length := by
      rw [List.length_drop]
      omega
    refine List.findIdx?_eq_some_iff_getElem.2 ⟨hk, ?_, fun j hj => ?_⟩
    · rw [List.getElem_drop]
      exact occursIn_iff.2 hocc
    · rw [List.getElem_drop, occursIn_iff]
      exact fun h => hmin (here + j) (by omega) (by omega) ⟨_, List.getElem?_eq_getElem _, h⟩
  rw [locate, if_neg (mt List.isEmpty_iff.1 (hasText_iff.1 hpart)), hfound]

/-- Blank lines get a number and change no other. -/
theorem filter_locate (source : List (List Char)) (start here : Nat)
    (parts : List (List Char)) :
    (locate source start here parts).filter (fun l => hasText l.text.toList)
      = locate source start here (parts.filter hasText) := by
  induction parts generalizing here with
  | nil => rfl
  | cons part parts ih =>
    by_cases hpart : hasText part = true
    · rw [List.filter_cons_of_pos hpart, locate, locate]
      split
      · rw [List.filter_cons_of_pos (by rwa [String.toList_ofList]), ih]
      · rw [List.filter_cons_of_pos (by rwa [String.toList_ofList]), ih]
    · have hempty : strip part = [] := not_not.1 (mt hasText_iff.2 hpart)
      rw [List.filter_cons_of_neg hpart, ← ih, locate, if_pos (List.isEmpty_iff.2 hempty)]
      exact List.filter_cons_of_neg (by rwa [String.toList_ofList])

/-! ## Where the lines of a block stand

A block that is not literal may have its lines anywhere behind its beginning, one below the other
and with blanks around them. This is an assumption about the source and not about the search. -/

/-- **Lines of a block on lines of their own**: without the blanks around them they are the given
lines of the source, in order, all behind the line that the block begins on; and every other line
behind that one is blank. Lines of the source are counted from zero.

This is how a block is written when nothing else follows it and no line of it is folded into
another. The places are given, and not computed, since the statement is about whether the search
finds them. That other lines are blank is what keeps the search from stopping between two places;
without it a line of the block could be found in whatever stands there. -/
structure StandOn (source : List (List Char)) (first : Nat) (parts : List (List Char))
    (places : List Nat) : Prop where
  /-- The places come one after the other, behind the line that the block begins on. -/
  sorted : (first :: places).Pairwise (· < ·)
  /-- On each of them stands a line of the block, with any blanks around it, as indentation is
  none of the text. -/
  same : List.Forall₂ (fun part i => source[i]?.map strip = some (strip part)) parts places
  /-- Nothing else stands behind the first line. Without this a line might be found in what
  follows the block. -/
  blank : ∀ i l, first < i → i ∉ places → source[i]? = some l → allBlank l = true

theorem holds_of_strip_eq {i : Nat} (h : source[i]?.map strip = some (strip part)) :
    Holds source part i := by
  obtain ⟨l, hl, hstrip⟩ := Option.map_eq_some_iff.1 h
  exact ⟨l, hl, hstrip ▸ strip_infix l⟩

/-- Where the lines of a block stand is seen from the lines that the source has. -/
instance (source : List (List Char)) (first : Nat) (parts : List (List Char))
    (places : List Nat) : Decidable (StandOn source first parts places) :=
  decidable_of_iff ((first :: places).Pairwise (· < ·) ∧
      List.Forall₂ (fun part i => source[i]?.map strip = some (strip part)) parts places ∧
      ∀ i (hi : i < source.length), first < i → i ∉ places → allBlank source[i] = true) (by
    constructor
    · rintro ⟨hsorted, hsame, hblank⟩
      refine ⟨hsorted, hsame, fun i l hi hmem hl => ?_⟩
      obtain ⟨hlt, rfl⟩ := List.getElem?_eq_some_iff.1 hl
      exact hblank i hlt hi hmem
    · intro h
      exact ⟨h.sorted, h.same, fun i hlt hi hmem =>
        h.blank i _ hi hmem (List.getElem?_eq_getElem hlt)⟩)

namespace StandOn

variable {first i : Nat} {places : List Nat}

theorem lt (h : StandOn source first (part :: parts) (i :: places)) : first < i :=
  (List.pairwise_cons.1 h.sorted).1 i List.mem_cons_self

theorem holds (h : StandOn source first (part :: parts) (i :: places)) : Holds source part i :=
  holds_of_strip_eq (List.forall₂_cons.1 h.same).1

/-- Behind the line that is found the other lines stand. -/
theorem tail (h : StandOn source first (part :: parts) (i :: places)) :
    StandOn source i parts places where
  sorted := (List.pairwise_cons.1 h.sorted).2
  same := (List.forall₂_cons.1 h.same).2
  blank j l hj hmem hl := by
    refine h.blank j l (h.lt.trans hj) ?_ hl
    rw [List.mem_cons, not_or]
    exact ⟨hj.ne', hmem⟩

/-- Nothing is found between two lines of a block. -/
theorem not_holds_between (h : StandOn source first (part :: parts) (i :: places))
    (hpart : hasText part = true) {j : Nat} (hj : first < j) (hji : j < i) :
    ¬ Holds source part j := by
  rintro ⟨l, hl, hocc⟩
  have hmem : j ∉ i :: places := by
    have hlater := (List.pairwise_cons.1 (List.pairwise_cons.1 h.sorted).2).1
    rw [List.mem_cons, not_or]
    exact ⟨hji.ne, fun hmem => absurd (hlater j hmem) (by omega)⟩
  -- the line between is blank, and the text that was looked for is not
  have hblank := h.blank j l hj hmem hl
  rw [allBlank, List.all_eq_true] at hblank
  exact hasText_iff.1 hpart (strip_eq_nil_of_blank fun c hc => hblank c (hocc.subset hc))

end StandOn

/-! ## The numbers of the lines -/

/-- The lines of a text that have more than blanks. -/
def textLines (text : String) : List (List Char) := (splitAt '\n' text.toList).filter hasText

theorem hasText_of_mem_textLines {text : String} : ∀ part ∈ textLines text, hasText part = true :=
  fun _ h => (List.mem_filter.1 h).2

/-- Lines with numbers of their own: each has the number of the place where it stands. Numbers are
counted from one, and places from zero. -/
def numberedBy (parts : List (List Char)) (places : List Nat) : List NumberedLine :=
  List.zipWith (fun part i => ⟨String.ofList part, i + 1⟩) parts places

/-- **The search finds each line where it stands exactly if no line is found on the one before
it**, where it begins. The induction is on the lines. One that is found too early does not stop
the search from finding the later ones, but its own number is wrong already. -/
theorem locate_eq_iff {places : List Nat} (h : StandOn source here parts places)
    (hparts : ∀ part ∈ parts, hasText part = true) :
    locate source start here parts = numberedBy parts places ↔
      ∀ p ∈ parts.zip (here :: places), ¬ Holds source p.1 p.2 := by
  induction parts generalizing here places with
  | nil =>
    cases h.same
    exact iff_of_true rfl nofun
  | cons part parts ih =>
    cases places with
    | nil => cases h.same
    | cons i places =>
      rw [List.forall_mem_cons] at hparts
      rw [List.zip_cons_cons, List.forall_mem_cons]
      by_cases hhere : Holds source part here
      · -- it is found too early, and the number is not its own
        refine iff_of_false (fun heq => ?_) fun hnone => hnone.1 hhere
        rw [locate_cons hparts.1 le_rfl hhere fun j hj hlt => absurd hj (by omega)] at heq
        have hline := congrArg NumberedLine.line (List.head_eq_of_cons_eq heq)
        exact h.lt.ne (Nat.succ.inj hline)
      · have hmin : ∀ j, here ≤ j → j < i → ¬ Holds source part j := by
          intro j hj hji
          rcases hj.eq_or_lt with rfl | hj
          · exact hhere
          · exact h.not_holds_between hparts.1 hj hji
        rw [locate_cons hparts.1 h.lt.le h.holds hmin, numberedBy, List.zipWith_cons_cons,
          List.cons_inj_right]
        exact (ih h.tail hparts.2).trans (and_iff_right hhere).symm

/-- **The search never goes too far**: each line gets the number of a line that holds it, at or
before its own place. -/
theorem forall₂_locate {places : List Nat} (hsorted : places.Pairwise (· < ·))
    (hsame : List.Forall₂ (Holds source) parts places) (hhere : ∀ i ∈ places, here ≤ i)
    (hparts : ∀ part ∈ parts, hasText part = true) :
    List.Forall₂ (fun l i => l.line ≤ i + 1 ∧ Holds source l.text.toList (l.line - 1))
      (locate source start here parts) places := by
  induction hsame generalizing here with
  | nil => exact .nil
  | @cons part i parts places hi _ ih =>
    rw [List.forall_mem_cons] at hparts
    rw [List.pairwise_cons] at hsorted
    -- the first line at or behind the cursor that holds the text
    have hexists : ∃ j, here ≤ j ∧ Holds source part j := ⟨i, hhere i List.mem_cons_self, hi⟩
    obtain ⟨hle, hfound⟩ := Nat.find_spec hexists
    have hbound : Nat.find hexists ≤ i := Nat.find_le ⟨hhere i List.mem_cons_self, hi⟩
    have hmin : ∀ j, here ≤ j → j < Nat.find hexists → ¬ Holds source part j :=
      fun j hj hlt hholds => Nat.find_min hexists hlt ⟨hj, hholds⟩
    rw [locate_cons hparts.1 hle hfound hmin]
    refine .cons ⟨Nat.succ_le_succ hbound, ?_⟩ (ih hsorted.2 (fun k hk => ?_) hparts.2)
    · dsimp only
      rwa [String.toList_ofList, Nat.add_sub_cancel]
    · exact hbound.trans (hsorted.1 k hk).le

/-- **Which lines of a folded block get their own numbers.** Let the lines of a block that is not
literal stand on lines of their own, with blank lines around them. Then each of those that are not
blank gets the number of its own line exactly if none of them occurs in the line of the source on
which the one before it stands, nor the first one in the line that the block begins on. In any case
each gets the number of a line that holds it, and of none behind its own. -/
theorem blockLines_eq_numberedBy_iff {style : ScalarStyle} {text : String} {first : Nat}
    {places : List Nat} (hstyle : style ≠ .literal)
    (h : StandOn source first (textLines text) places) :
    let lines := (blockLines source style text first).filter fun l => hasText l.text.toList
    (lines = numberedBy (textLines text) places ↔
        ∀ p ∈ (textLines text).zip (first :: places), ¬ Holds source p.1 p.2) ∧
      List.Forall₂ (fun l i => l.line ≤ i + 1 ∧ Holds source l.text.toList (l.line - 1))
        lines places := by
  intro lines
  have hlines : lines = locate source (first + 1) first (textLines text) := by
    rw [textLines, ← filter_locate]
    cases style with
    | literal => exact absurd rfl hstyle
    | _ => rfl
  have hbehind := List.pairwise_cons.1 h.sorted
  rw [hlines]
  exact ⟨locate_eq_iff h hasText_of_mem_textLines,
    forall₂_locate hbehind.2 (h.same.imp fun _ _ => holds_of_strip_eq)
      (fun i hi => (hbehind.1 i hi).le) hasText_of_mem_textLines⟩

/-- A folded block in which lines occur in later ones, and one is repeated further down. -/
theorem blockLines_eq_numberedBy_iff_nested :
    let source := lines
      "erDiagram: >\n  A\n\n  A ||--|| B\n\n  B ||--|| A : x\n\n  A ||--|| B\n".toList
    let text := "A\nA ||--|| B\nB ||--|| A : x\nA ||--|| B\n"
    ScalarStyle.folded ≠ .literal ∧ StandOn source 0 (textLines text) [1, 3, 5, 7] ∧
      ((blockLines source .folded text 0).filter fun l => hasText l.text.toList)
        = [⟨"A", 2⟩, ⟨"A ||--|| B", 4⟩, ⟨"B ||--|| A : x", 6⟩, ⟨"A ||--|| B", 8⟩] := by
  intro source text
  have hstyle : ScalarStyle.folded ≠ .literal := by decide
  have hstand : StandOn source 0 (textLines text) [1, 3, 5, 7] := by decide +kernel
  refine ⟨hstyle, hstand, ?_⟩
  rw [(blockLines_eq_numberedBy_iff hstyle hstand).1.2 (by decide +kernel)]
  decide +kernel

/-- Sources whose folded block is misnumbered, each with its text, the places of its lines and the
numbers that are read: a line that is cut out of the one before, a line that is repeated, and a line
that stands in a comment beside the mark. -/
def misnumbered : List (String × String × List Nat × List Nat) :=
  [("erDiagram: >\n  A ||--|| B : x\n\n  A ||--|| B\n", "A ||--|| B : x\nA ||--|| B\n",
      [1, 3], [2, 2]),
    ("erDiagram: >\n  A ||--|| B\n\n  A ||--|| B\n", "A ||--|| B\nA ||--|| B\n",
      [1, 3], [2, 2]),
    ("erDiagram: > # A ||--|| B\n  A ||--|| B\n", "A ||--|| B\n", [1], [1])]

/-- **A line may get the number of another one**, and its relationship with it. -/
theorem not_blockLines_eq_numberedBy :
    (∀ p ∈ misnumbered, StandOn (lines p.1.toList) 0 (textLines p.2.1) p.2.2.1 ∧
      (Diagram.parse p.1).map (fun d => d.relationships.map (·.line))
        = .ok (p.2.2.2.map fun i => some (Int.ofNat i))) ∧
      ¬ ∀ (source : List (List Char)) (style : ScalarStyle) (text : String) (first : Nat)
        (places : List Nat), style ≠ .literal → StandOn source first (textLines text) places →
        ((blockLines source style text first).filter fun l => hasText l.text.toList)
          = numberedBy (textLines text) places := by
  have hread : ∀ p ∈ misnumbered, StandOn (lines p.1.toList) 0 (textLines p.2.1) p.2.2.1 ∧
      (Diagram.parse p.1).map (fun d => d.relationships.map (·.line))
        = .ok (p.2.2.2.map fun i => some (Int.ofNat i)) := by
    decide +kernel
  refine ⟨hread, fun h => ?_⟩
  have hown := h _ .folded _ _ _ (by decide) (hread _ List.mem_cons_self).1
  exact absurd hown (by decide +kernel)

end Document

end ErDiagram
