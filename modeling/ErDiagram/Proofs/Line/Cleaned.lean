import ErDiagram.Proofs.Line.Names
import ErDiagram.Proofs.Line.Relationship

/-!
# Cleaned names are names of the line syntax

A name is cleaned before it is written into a line, and the line is read word by word. That the
cleaning ends where the reading begins rests on one notion of an identifier: a text that is
scanned as a single name without a rest is an identifier, and the other way round, since an
identifier is a word that can be no symbol, no brace and no comment.

So the question whether a cleaned name can be read is put in terms of the scan (`IsName`) and
answered in terms of characters (`isName_iff`). Keeping the two apart matters: an answer in terms
of the cleaning's own test would hold by definition, and would say nothing about the lines that
the name is written into.

The cleaning also leaves alone what is an identifier with a line feed behind it (`IsFed`). The
scan takes the line feed for a blank, so that a name is found there too, but it is not all of the
text. This is the one way in which a cleaned name can fail to be a name, and the statement is
exact about it.
-/

namespace ErDiagram.Line

open Text

/-! ## Texts that are names -/

/-- **An identifier is scanned as one name.** It is one word, it does not begin a comment, and no
test before that for identifiers accepts it. -/
theorem tokenize_of_isIdentifier {cs : List Char} (h : isIdentifier cs = true) :
    tokenize cs = [⟨.ident, cs, 0⟩] := by
  have hsilent : isSilent cs = false := by
    rw [← List.append_nil cs]
    exact isSilent_append h []
  have hcolon := ne_colon_of_mem_identifier h
  unfold tokenize
  rw [hsilent, if_neg Bool.false_ne_true, beforeColon_eq_self hcolon, afterColon?_eq_none hcolon]
  dsimp only
  rw [wordsFrom_of_isWord (isWord_of_isIdentifier h), List.flatMap_singleton,
    wordTokens_of_isIdentifier h, List.append_nil]

/-- **A text that is a name**: it is scanned as one token, which is a name and holds all of it.
The last part is needed, since blanks around a name, or brackets, leave its token as it is and are
no part of the name. -/
def IsName (s : String) : Prop :=
  ∃ t, tokenize s.toList = [t] ∧ t.kind = .ident ∧ t.text = s

/-- **Names are identifiers.** The direction from left to right uses that the token holds all of
the text: brackets would be left out of it. -/
theorem isName_iff {s : String} : IsName s ↔ isIdentifier s.toList = true := by
  constructor
  · rintro ⟨t, htokens, hkind, rfl⟩
    rw [Token.text, String.toList_ofList] at htokens ⊢
    exact isIdentifier_of_mem_tokenize (htokens ▸ List.mem_singleton_self t) hkind
  · exact fun h => ⟨_, tokenize_of_isIdentifier h, rfl, String.ofList_toList⟩

/-! ## Cleaned names -/

/-- **What is left of a name is a name exactly if there was no line feed behind one.** Just the
empty text, names, and names with a line feed behind them stay as they are, and a name that has
been cleaned is clean. The empty text is what is left where no character may stay; it is no name,
and the one who cleans a name has to put something else in its place. -/
theorem isName_cleanName_iff (s : String) :
    ((cleanName s = "" ∨ IsName (cleanName s)) ↔ ¬ IsFed s) ∧
      (cleanName s = s ↔ s = "" ∨ IsName s ∨ IsFed s) ∧
      cleanName (cleanName s) = cleanName s := by
  have hfixed : cleanName s = s ↔ s = "" ∨ IsName s ∨ IsFed s := by
    rw [cleanName_eq_self_iff, isIdentifierLine_iff, isName_iff]
  refine ⟨⟨fun hclean hfeed => ?_, fun hfeed => ?_⟩, hfixed, cleanName_cleanName s⟩
  · rw [hfixed.2 (.inr (.inr hfeed)), isName_iff] at hclean
    rcases hclean with rfl | hid
    · exact absurd hfeed (by decide)
    · exact not_isIdentifier_of_isFed hfeed hid
  · refine or_iff_not_imp_left.2 fun hne => ?_
    exact isName_iff.2 (isIdentifier_cleanName_of_ne hne hfeed)

/-- **A line feed behind a name is not cleaned away**, and the scan leaves it out. -/
theorem not_isName_cleanName :
    (cleanName "A\n" = "A\n" ∧ tokenize "A\n".toList = [⟨.ident, ['A'], 0⟩]) ∧
      ¬ ∀ s, cleanName s = "" ∨ IsName (cleanName s) := by
  have hclean : cleanName "A\n" = "A\n" := by decide
  refine ⟨⟨hclean, by decide⟩, fun h => ?_⟩
  have hname := h "A\n"
  rw [hclean, isName_iff] at hname
  exact absurd hname (by decide)

/-- All three passes leave a mark: the runs of other characters, the hyphens in a row that come
together, and the ends. -/
example : cleanName "-a !?--b_-" = "a_-b" := by decide

end ErDiagram.Line
