import ErDiagram.Line.Reading
import ErDiagram.Proofs.Except
import ErDiagram.Proofs.Identifier

/-!
# The names of a line

What a line calls an entity, an attribute or a key was a token of kind `ident`, and every way in
which a word becomes such a token asks that it be an identifier. Inside an attribute block no line
declares an entity or gives a key. Both are read off the shapes that the tokens of a line can
have, one for each thing that a line can say.

These shapes are listed once, as a relation (`Says`), and the function that classifies tokens is
taken apart once, to show that it says nothing else (`says_of_ofTokens`). What follows about names
and about blocks is then a matter of going through the shapes, and a new kind of line would add
one shape and one case to each.

The two facts are what makes the diagram of a text well formed: all names in it come from here.
-/

namespace ErDiagram

theorem NumberedLine.classify_eq_ok {l : NumberedLine} {inBlock : Bool} {line : Line} :
    l.classify inBlock = .ok line ↔ Line.classify inBlock l.text = .ok line :=
  Except.mapError_eq_ok

end ErDiagram

namespace ErDiagram.Line

open Text

theorem isIdentifier_of_bracketed? {w name : List Char} (h : bracketed? w = some name) :
    isIdentifier name = true := by
  unfold bracketed? at h
  split at h
  · split at h
    · next hc =>
      rw [Bool.and_eq_true] at hc
      rw [← Option.some.inj h]
      exact hc.2
    · cases h
  · cases h

/-- Both names beside a glued symbol are identifiers. -/
theorem isIdentifier_of_mem_splitGlued? {w : Word} {l : List Token} {t : Token}
    (h : splitGlued? w = some l) (ht : t ∈ l) (hk : t.kind = .ident) :
    isIdentifier t.chars = true := by
  obtain ⟨c, _, hc⟩ := List.exists_of_findSome?_eq_some h
  unfold splitAtSymbol? at hc
  split at hc
  · cases hc
  · next left right _ =>
    split at hc
    · next hid =>
      rw [Bool.and_eq_true, Bool.or_eq_true] at hid
      obtain ⟨hleft, hright⟩ := hid
      rw [← Option.some.inj hc] at ht
      split at ht
      · rcases List.mem_cons.1 ht with rfl | ht
        · exact hleft
        · rw [List.mem_singleton.1 ht] at hk
          cases hk
      · next hne =>
        rcases List.mem_cons.1 ht with rfl | ht
        · exact hleft
        rcases List.mem_cons.1 ht with rfl | ht
        · cases hk
        rw [List.mem_singleton.1 ht]
        exact hright.resolve_left hne
    · cases hc

/-- A token that is alone in its list and of another kind is no identifier. -/
theorem isIdentifier_of_mem_singleton {s t : Token} (h : t ∈ [s]) (hk : t.kind = .ident)
    (hs : s.kind = .ident → isIdentifier s.chars = true) : isIdentifier t.chars = true := by
  rw [List.mem_singleton.1 h] at hk ⊢
  exact hs hk

/-- **What a word gives as a name is an identifier.** A word may be a name, a name in brackets or
names around a symbol, and each of these is tested. -/
theorem isIdentifier_of_mem_wordTokens {w : Word} {t : Token} (h : t ∈ wordTokens w)
    (hk : t.kind = .ident) : isIdentifier t.chars = true := by
  unfold wordTokens at h
  split at h
  · exact isIdentifier_of_mem_singleton h hk nofun
  split at h
  · exact isIdentifier_of_mem_singleton h hk nofun
  split at h
  · exact isIdentifier_of_mem_singleton h hk nofun
  split at h
  · next hid => exact isIdentifier_of_mem_singleton h hk fun _ => hid
  split at h
  · cases hs : splitGlued? w with
    | none =>
      rw [hs] at h
      exact isIdentifier_of_mem_singleton h hk nofun
    | some l =>
      rw [hs] at h
      exact isIdentifier_of_mem_splitGlued? hs h hk
  · split at h
    · next hb =>
      exact isIdentifier_of_mem_singleton h hk fun _ => isIdentifier_of_bracketed? hb
    · exact isIdentifier_of_mem_singleton h hk nofun

/-- **Every token of kind `ident` holds an identifier.** -/
theorem isIdentifier_of_mem_tokenize {cs : List Char} {t : Token} (h : t ∈ tokenize cs)
    (hk : t.kind = .ident) : isIdentifier t.chars = true := by
  unfold tokenize at h
  split at h
  · cases h
  · rcases List.mem_append.1 h with h | h
    · obtain ⟨w, _, hw⟩ := List.mem_flatMap.1 h
      exact isIdentifier_of_mem_wordTokens hw hk
    · -- the tokens from the colon on are the colon and the label
      split at h
      · cases h
      · unfold labelTokens at h
        rcases List.mem_cons.1 h with rfl | h
        · cases hk
        · split at h
          · cases h
          · rw [List.mem_singleton.1 h] at hk
            cases hk

/-! ## What tokens say -/

/-- **What a line says by the shape of its tokens**: those before the colon, and whether it has
one. There is one constructor for each branch in which the tokens are accepted; the errors are
left out, since nothing is named in them that could get into a diagram. -/
inductive Says (inBlock : Bool) (label : Option (List Char)) : List Token → Bool → Line → Prop where
  | relationship {s symbol t : Token} {c hasColon} :
      s.kind = .ident → symbol.kind = .cardinality → t.kind = .ident →
      Cardinality.ofChars? symbol.chars = some c →
      Says inBlock label [s, symbol, t] hasColon (.relationship s.text c t.text (labelOf label))
  | blockEnd {t : Token} : t.kind = .closeBrace → Says inBlock label [t] false .blockEnd
  | labelled {t : Token} : inBlock = true → t.kind = .ident →
      Says inBlock label [t] true (.attribute t.text (firstWord label) [])
  | key {t : Token} : inBlock = false → t.kind = .ident →
      Says inBlock label [t] true (.key t.text (labelOf label))
  | untyped {t : Token} : inBlock = true → t.kind = .ident →
      Says inBlock label [t] false (.attribute t.text "string" [])
  | entity {t : Token} : inBlock = false → t.kind = .ident →
      Says inBlock label [t] false (.entity t.text false)
  | typed {name type : Token} {more flags} : (∀ t ∈ name :: type :: more, t.kind = .ident) →
      flagsOf (more.map (·.text)) = .ok flags →
      Says inBlock label (name :: type :: more) false (.attribute name.text type.text flags)
  | opening {t brace : Token} : inBlock = false → t.kind = .ident → brace.kind = .openBrace →
      Says inBlock label [t, brace] false (.entity t.text true)

/-- **Tokens say nothing else.** The proof goes once through the cases of the function; all that
is said of lines later goes through the shapes instead. -/
theorem says_of_ofTokens {inBlock : Bool} {whole : String} {l : List Token} {line : Line}
    (h : ofTokens inBlock whole l = .ok line) :
    Says inBlock ((l.find? (·.kind == .label)).map (·.chars))
      (l.takeWhile fun t => decide (t.kind ≠ .colon)) (l.any (·.kind == .colon)) line := by
  unfold ofTokens at h
  generalize l.takeWhile (fun t => decide (t.kind ≠ .colon)) = body at h ⊢
  generalize l.any (·.kind == .colon) = hasColon at h ⊢
  dsimp only at h
  split at h
  · cases h
  split at h
  · -- a symbol: the line is a relationship or an error
    split at h
    · split at h
      · next hc =>
        cases h
        exact .relationship rfl rfl rfl hc
      · cases h
    · cases h
  split at h
  · cases h
    exact .blockEnd rfl
  · split at h
    · next hblock =>
      cases h
      exact .labelled hblock rfl
    · next hblock =>
      cases h
      exact .key (Bool.eq_false_iff.2 hblock) rfl
  · split at h
    · next hblock =>
      cases h
      exact .untyped hblock rfl
    · next hblock =>
      cases h
      exact .entity (Bool.eq_false_iff.2 hblock) rfl
  · split at h
    · next hall =>
      obtain ⟨flags, hflags, hline⟩ := Except.map_eq_ok.1 h
      cases hline
      exact .typed (fun t ht => beq_iff_eq.1 (List.all_eq_true.1 hall t ht)) hflags
    · split at h
      · next hident hbrace _ _ _ =>
        cases h
        exact .opening rfl hident hbrace
      · cases h
  · cases h

/-! ## Names -/

/-- The entities, the attribute or the key that a line names. The type of an attribute and its
flags are no names in this sense, and neither is a label. -/
def names : Line → List String
  | .blank => []
  | .relationship source _ target _ => [source, target]
  | .attribute name _ _ => [name]
  | .entity name _ => [name]
  | .blockEnd => []
  | .key name _ => [name]

/-- Whether a line says something that stands outside of attribute blocks only. Relationships are
not among these: in a block they are recognized too, and refused later, with an error of their
own. -/
def isOuter : Line → Bool
  | .entity .. => true
  | .key .. => true
  | _ => false

/-- What a line names is the text of a token of kind `ident` before its colon. -/
theorem Says.exists_of_mem_names {inBlock hasColon : Bool} {label : Option (List Char)}
    {body : List Token} {line : Line} (h : Says inBlock label body hasColon line) {n : String}
    (hn : n ∈ line.names) : ∃ t ∈ body, t.kind = .ident ∧ t.text = n := by
  cases h with
  | relationship hs _ ht =>
    rcases List.mem_cons.1 hn with rfl | hn
    · exact ⟨_, by simp, hs, rfl⟩
    · exact ⟨_, by simp, ht, (List.mem_singleton.1 hn).symm⟩
  | blockEnd => cases hn
  | typed hall => exact ⟨_, by simp, hall _ List.mem_cons_self, (List.mem_singleton.1 hn).symm⟩
  | labelled _ ht | key _ ht | untyped _ ht | entity _ ht | opening _ ht =>
    exact ⟨_, by simp, ht, (List.mem_singleton.1 hn).symm⟩

/-- A block has no entities and no keys. -/
theorem Says.isOuter_eq_false {hasColon : Bool} {label : Option (List Char)}
    {body : List Token} {line : Line} (h : Says true label body hasColon line) :
    line.isOuter = false := by
  cases h with
  | key hblock | entity hblock | opening hblock => cases hblock
  | _ => rfl

/-- **What a line says, it says with identifiers**, and inside a block it says nothing that stands
outside of blocks only. What else is proved about lines needs to know no more about their shapes
than this. -/
theorem names_of_classify {inBlock : Bool} {text : String} {line : Line}
    (h : classify inBlock text = .ok line) :
    (∀ n ∈ line.names, isIdentifier n.toList = true) ∧
      (inBlock = true → line.isOuter = false) := by
  unfold classify at h
  dsimp only at h
  split at h
  · cases h
    exact ⟨nofun, fun _ => rfl⟩
  · have hsays := says_of_ofTokens h
    refine ⟨fun n hn => ?_, ?_⟩
    · obtain ⟨t, ht, hident, rfl⟩ := hsays.exists_of_mem_names hn
      rw [Token.text, String.toList_ofList]
      exact isIdentifier_of_mem_tokenize ((List.takeWhile_sublist _).subset ht) hident
    · rintro rfl
      exact hsays.isOuter_eq_false

/-- The ends of a relationship line are identifiers. -/
theorem isIdentifier_of_relationship {inBlock : Bool} {text s t : String} {c : Cardinality}
    {label : Option String} (h : classify inBlock text = .ok (.relationship s c t label)) :
    isIdentifier s.toList = true ∧ isIdentifier t.toList = true :=
  ⟨(names_of_classify h).1 s (by simp [names]), (names_of_classify h).1 t (by simp [names])⟩

end ErDiagram.Line
