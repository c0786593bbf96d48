import ErDiagram.Document.Relationships
import ErDiagram.Proofs.Line.Relationship

/-!
# Any text can be a label

The label of a relationship is free text, and it is put into a line whose syntax gives a meaning
to colons, hashes, braces, quotes and line breaks. None of these does any harm. The line starts
with a name, so that it is no comment; names and symbols have no colon, so that the first colon is
the one before the label; and the words of the label are put side by side with spaces between
them, so that no line break is left. Whoever reads the line, in a text, in a list or in an
attribute block, finds the same two ends around the same symbol.

What the label loses is what the syntax takes off: the blanks around and between its words, and
one pair of quotes around them all. `ComesBack` says this without the functions that do it, by
four cases that exclude each other, and `comesBack_iff` is the proof that the functions do just
that.

The statement has no condition on the label. The only ones are on the two names, which have to be
identifiers, and these are what cleaning gives.
-/

namespace ErDiagram.Line

open Text

/-- **What a label is read back as.** The four cases exclude each other.

The relation is given by cases on the text and not by the reader's functions, so that one can see
what happens to a given label. The quotes are looked for around the words that are squeezed
together, since this is the text that is written. -/
inductive ComesBack : Option String → Option String → Prop where
  /-- Where there is no label, none is read. -/
  | missing : ComesBack none none
  /-- A label without words is lost. -/
  | blank {l : String} (h : ∀ x ∈ l.toList, isBlank x = true) : ComesBack (some l) none
  /-- Quotes around all the words are taken off, once. -/
  | quoted {l : String} {q : Char} {body : List Char} (hq : q = '"' ∨ q = '\'')
      (h : squeeze l.toList = q :: (body ++ [q])) :
      ComesBack (some l) (some (String.ofList body))
  /-- Any other label is read as its words with single spaces between them. -/
  | plain {l : String} (hne : ∃ x ∈ l.toList, isBlank x = false)
      (hq : ¬ IsQuoted (squeeze l.toList)) :
      ComesBack (some l) (some (String.ofList (squeeze l.toList)))

/-- **A label comes back as one text, and as no other.** So the relation is a function, and the
cases of its definition leave nothing out. -/
theorem comesBack_iff {label back : Option String} :
    ComesBack label back ↔ back = labelBack label := by
  constructor
  · intro h
    cases h with
    | missing => rfl
    | blank h => exact (if_pos (words_eq_nil_iff.2 h)).symm
    | @quoted l q body hq h =>
      have hwords : words l.toList ≠ [] := by
        rw [Ne, ← squeeze_eq_nil_iff, h]
        exact List.cons_ne_nil _ _
      rw [labelBack, Option.bind_some, if_neg hwords, h, unquote_quoted hq]
    | @plain l hne hq =>
      have hwords : words l.toList ≠ [] := by
        rw [Ne, words_eq_nil_iff]
        obtain ⟨x, hx, hblank⟩ := hne
        exact fun h => Bool.false_ne_true (hblank.symm.trans (h x hx))
      rw [labelBack, Option.bind_some, if_neg hwords, unquote_eq_self_iff.2 hq]
  · rintro rfl
    cases label with
    | none => exact .missing
    | some l =>
      rw [labelBack, Option.bind_some]
      by_cases hwords : words l.toList = []
      · rw [if_pos hwords]
        exact .blank (words_eq_nil_iff.1 hwords)
      · rw [if_neg hwords]
        by_cases hq : IsQuoted (squeeze l.toList)
        · obtain ⟨q, body, hquote, h⟩ := hq
          rw [h, unquote_quoted hquote]
          exact .quoted hquote h
        · rw [unquote_eq_self_iff.2 hq]
          refine .plain ?_ hq
          rw [words_eq_nil_iff] at hwords
          push Not at hwords
          simpa only [Bool.not_eq_true] using hwords

/-- **Relationship lines are read back whatever the label is.** The line of a relationship has no
line break, and it is read, in or out of an attribute block, as a relationship between the same
two names with the same symbol and with what is left of the label. A text and a list of
relationships with this line gain just this relationship, under the number of the line.

That there is no line break is part of the statement because the others are about a line: if the
label could break it, the text would have two lines, and neither need be the one that is read
here. -/
theorem read_relationshipLine {s t : String} {c : Cardinality} {label : Option String}
    {l : NumberedLine} (hs : isIdentifier s.toList = true) (ht : isIdentifier t.toList = true)
    (hl : l.text = Outline.relationshipLine s c t label) :
    (∀ x ∈ l.text.toList, isLineBreak x = false) ∧
      ∃ back, ComesBack label back ∧
        (∀ inBlock, l.classify inBlock = .ok (.relationship s c t back)) ∧
        ∀ d : Diagram,
          let r : Relationship :=
            { source := s, target := t, cardinality := c, label := back, line := some l.line }
          (State.mk none d).read l = .ok ⟨none, d.addRelationship r⟩ ∧
            Document.addItem d l = .ok (d.addRelationship r) := by
  have hread : ∀ inBlock, l.classify inBlock = .ok (.relationship s c t (labelBack label)) := by
    intro inBlock
    rw [NumberedLine.classify, hl, classify_relationshipLine inBlock c label hs ht]
    rfl
  refine ⟨hl ▸ isLineBreak_of_mem_relationshipLine c label hs ht, labelBack label,
    comesBack_iff.2 rfl, hread, fun d => ⟨?_, ?_⟩⟩
  · rw [State.read, Option.isSome_none, hread]
    rfl
  · rw [Document.addItem, hread]
    rfl

/-- A label with a line break, quotes around it, and all that has a meaning elsewhere in a line. -/
theorem read_relationshipLine_hostile :
    let label := "' x:\n #  \x7b ||--|| \"%% \x7d'"
    let l : NumberedLine := ⟨Outline.relationshipLine "A-1" ⟨.one, .zeroOrMany⟩ "b" (some label), 7⟩
    isIdentifier "A-1".toList = true ∧ isIdentifier "b".toList = true ∧
      l.text = "A-1 ||--o\x7b b : ' x: # \x7b ||--|| \"%% \x7d'" ∧
      l.classify true = .ok (.relationship "A-1" ⟨.one, .zeroOrMany⟩ "b"
        (some " x: # \x7b ||--|| \"%% \x7d")) := by
  intro label l
  have hs : isIdentifier "A-1".toList = true := by decide
  have ht : isIdentifier "b".toList = true := by decide
  have hl : l.text = Outline.relationshipLine "A-1" ⟨.one, .zeroOrMany⟩ "b" (some label) := rfl
  obtain ⟨-, back, hback, hread, -⟩ := read_relationshipLine hs ht hl
  have hlabel : back = some " x: # \x7b ||--|| \"%% \x7d" := by
    rw [comesBack_iff.1 hback]
    decide
  refine ⟨hs, ht, by decide, ?_⟩
  rw [hread true, hlabel]

end ErDiagram.Line
