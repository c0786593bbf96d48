import ErDiagram.Proofs.Document.Title
import ErDiagram.Proofs.OrderedMap

/-!
# The order of sections

A diagram is written in sections, each under a key of its own. Under the header a section is
looked up by its key, so that with different keys their order cannot matter: not for what is read,
and not for which error is found first, since all but unknown keys are looked up in a fixed order.

At the top of a document the pairs are read one after the other, after those for entities have
been put in front. Here a title and relationships stay in the order of the text, and the one thing
that both can set is the title, since a block of text may have title lines of its own. So up to
the title the order does not matter either. For the title the last section wins that gives one,
which makes a difference exactly if two sections give different ones.

The argument at the top has two halves. Up to the title, a pair for a title does nothing and can
be left out, and of pairs for entities and for relationships there is at most one each, so that
any order leaves the same list. For the title, a pair either gives one or keeps the one there is
(`title_addPair`), and which it gives does not depend on the diagram (`GivesTitle`). That two
pairs which give different titles make a difference is shown by putting each of them last.
-/

namespace ErDiagram

/-! ## Lists with few elements of a kind -/

section

variable {α β : Type} {l l' : List α}

/-- **Where only one element passes a test**, no order changes what passes. Sections are looked up
by their keys, and a key that stands once passes the test alone. -/
theorem filter_eq_of_perm {p : α → Bool} (h : l.Perm l') (hone : (l.filter p).length ≤ 1) :
    l'.filter p = l.filter p := by
  have hp := h.filter p
  cases hl : l.filter p with
  | nil =>
    rw [hl] at hp
    exact hp.symm.eq_nil
  | cons a rest =>
    rw [hl, List.length_cons] at hone
    obtain rfl : rest = [] := List.eq_nil_of_length_eq_zero (by omega)
    rw [hl] at hp
    exact List.perm_singleton.1 hp.symm

/-- Of elements with different keys at most one has a given key. -/
theorem length_filter_le_one [DecidableEq β] {f : α → β} (h : (l.map f).Nodup) (b : β) :
    (l.filter fun a => f a = b).length ≤ 1 := by
  have hcount := List.nodup_iff_count_le_one.1 h b
  rw [List.count_eq_countP, List.countP_map, List.countP_eq_length_filter] at hcount
  exact hcount

end

namespace Document

open Yaml

variable {source : Source} {d d' : Diagram} {pairs pairs' : List Section}

/-! ## Sections under the header -/

/-- **A section is the last of those with its key.** -/
theorem sectionValue?_eq (pairs : List Section) (key : String) :
    sectionValue? (sections pairs) key
      = ((pairs.filter fun p => keyText p.1 = key).getLast?).map (·.2) := by
  rw [sectionValue?, sections, OrderedMap.get?_ofList, List.filter_map, List.getLast?_map,
    Option.map_map, Option.map_map]
  rfl

/-- Sections are read by their keys, and what is left are the unknown ones. -/
theorem addStructured_congr (d : Diagram)
    (hvalue : ∀ key, sectionValue? (sections pairs') key = sectionValue? (sections pairs) key)
    (hunknown : (sections pairs').entries.find? (fun e => !sectionKeys.contains e.1)
      = (sections pairs).entries.find? fun e => !sectionKeys.contains e.1) :
    addStructured source d pairs' = addStructured source d pairs := by
  have htitle : setTitle (sections pairs') = setTitle (sections pairs) := by
    funext d key
    rw [setTitle, setTitle, hvalue]
  have hsection : addSection (sections pairs') = addSection (sections pairs) := by
    funext key add d
    rw [addSection, addSection, hvalue]
  unfold addStructured
  dsimp only
  rw [htitle, hsection, hunknown]

/-- **Under the header the order of sections does not matter.** They are looked up in a fixed
order, so that where they stand is not seen. -/
theorem addStructured_of_perm (source : Source) (d : Diagram) (h : pairs.Perm pairs')
    (hkeys : (pairs.map fun p => keyText p.1).Nodup)
    (hone : (pairs.filter fun p => !sectionKeys.contains (keyText p.1)).length ≤ 1) :
    addStructured source d pairs' = addStructured source d pairs := by
  have hentries : ∀ {l : List Section}, (l.map fun p => keyText p.1).Nodup →
      (sections l).entries = l.map fun p => (keyText p.1, p) := by
    intro l hl
    refine OrderedMap.entries_ofList ?_
    rw [List.map_map]
    exact hl
  have hkeys' : (pairs'.map fun p => keyText p.1).Nodup := (h.map _).nodup_iff.1 hkeys
  refine addStructured_congr d (fun key => ?_) ?_
  · rw [sectionValue?_eq, sectionValue?_eq,
      filter_eq_of_perm h (length_filter_le_one hkeys key)]
  · have hfilter := filter_eq_of_perm h hone
    simp only [hentries hkeys, hentries hkeys', ← List.head?_filter, List.filter_map,
      Function.comp_def, hfilter]

/-! ## Titles at the top of a document -/

/-- **The title that a pair at the top of a document gives**: its value, or the one of the last
title line in its block of text. Either may be left out, and then a title is given all the same,
which is none: it takes away one that was given before. A pair that is no title and has no title
line gives none in the other sense, and is in no constructor. -/
inductive GivesTitle (source : Source) : Section → Option String → Prop where
  | value {p} : Role.ofKey p.1 = .title → GivesTitle source p p.2.text?
  | line {p items x} : Role.ofKey p.1 = .relationships → p.2.isScalar = true →
      Line.Script items (scalarLines source.lines p.2) →
      (items.filterMap Line.Item.title?).getLast? = some x → GivesTitle source p x

/-- **Whether two of the pairs give different titles.** Two that give the same one are no problem
in any order. -/
def GiveTwoTitles (source : Source) (pairs : List Section) : Prop :=
  ∃ p ∈ pairs, ∃ q ∈ pairs, ∃ x y, GivesTitle source p x ∧ GivesTitle source q y ∧ x ≠ y

theorem GivesTitle.unique {p : Section} {x y : Option String} (hx : GivesTitle source p x)
    (hy : GivesTitle source p y) : x = y := by
  cases hx with
  | value hp =>
    cases hy with
    | value => rfl
    | line hp' => cases hp.symm.trans hp'
  | line hp _ hs hlast =>
    cases hy with
    | value hp' => cases hp.symm.trans hp'
    | line _ _ hs' hlast' =>
      rw [hs.lastTitle_unique hs', hlast'] at hlast
      exact (Option.some.inj hlast).symm

/-- Whether a pair at the top of a document is for the title or for relationships. -/
def IsTitleOrRelationships (p : Section) : Prop :=
  Role.ofKey p.1 = .title ∨ Role.ofKey p.1 = .relationships

theorem addPair_of_title {p : Section} (hp : Role.ofKey p.1 = .title) (d : Diagram) :
    addPair source d p.1 p.2 = .ok { d with title := p.2.text? } := by
  unfold addPair
  rw [hp]

theorem addPair_of_relationships {p : Section} (hp : Role.ofKey p.1 = .relationships)
    (d : Diagram) : addPair source d p.1 p.2 = addRelationships source d p.2 := by
  unfold addPair
  rw [hp]

/-- **A pair that is read either gives the title or keeps it.** -/
theorem title_addPair {p : Section} (hp : IsTitleOrRelationships p)
    (h : addPair source d p.1 p.2 = .ok d') :
    GivesTitle source p d'.title ∨ d'.title = d.title ∧ ∀ x, ¬ GivesTitle source p x := by
  rcases hp with hp | hp
  · cases (addPair_of_title hp d).symm.trans h
    exact .inl (.value hp)
  rw [addPair_of_relationships hp, addRelationships] at h
  split at h
  · next hv =>
    obtain ⟨items, hs, rfl⟩ :=
      Line.State.continues_of_readAll (s := ⟨none, d⟩) (Except.mapError_eq_ok.1 h)
    rw [Line.title_foldl_addTo]
    cases hlast : (items.filterMap Line.Item.title?).getLast? with
    | some x => exact .inl (.line hp hv hs hlast)
    | none =>
      refine .inr ⟨rfl, fun x hx => ?_⟩
      cases hx with
      | value hp' => cases hp.symm.trans hp'
      | line _ _ hs' hlast' =>
        rw [hs'.lastTitle_unique hs, hlast] at hlast'
        cases hlast'
  · next hv =>
    obtain ⟨ls, hls⟩ := exists_of_addItems h
    rw [hls, addItems_eq_ok_iff] at h
    rw [h.2, NumberedLine.title_foldl_addTo]
    refine .inr ⟨rfl, fun x hx => ?_⟩
    cases hx with
    | value hp' => cases hp.symm.trans hp'
    | line _ hv' => exact hv hv'

/-! ## Pairs at the top of a document

Pairs are added one after the other, each to what there is already. Two orders can be compared
only as far as a pair does not look at what the others have added. -/

theorem addPairs_cons_eq_bind (d : Diagram) (p : Section) (pairs : List Section) :
    addPairs source d (p :: pairs) = addPair source d p.1 p.2 >>= (addPairs source · pairs) := by
  rw [addPairs]
  cases addPair source d p.1 p.2 <;> rfl

theorem addPairs_append (d : Diagram) (l l' : List Section) :
    addPairs source d (l ++ l') = addPairs source d l >>= (addPairs source · l') := by
  induction l generalizing d with
  | nil => rfl
  | cons p l ih =>
    rw [List.cons_append, addPairs_cons_eq_bind, addPairs_cons_eq_bind]
    cases addPair source d p.1 p.2 with
    | error e => rfl
    | ok d => exact ih d

theorem map_untitled_addPair {p : Section} (hp : IsTitleOrRelationships p) (d : Diagram) :
    (addPair source d.untitled p.1 p.2).map Diagram.untitled
      = (addPair source d p.1 p.2).map Diagram.untitled := by
  rcases hp with hp | hp
  · rw [addPair_of_title hp, addPair_of_title hp]
    rfl
  · rw [addPair_of_relationships hp, addPair_of_relationships hp]
    exact map_untitled_addRelationships source d p.2

/-- **What pairs for titles and relationships add but for the title, those for relationships
add.** The errors are the same too, as no title can be wrong. -/
theorem map_untitled_addPairs (hpairs : ∀ p ∈ pairs, IsTitleOrRelationships p) {d d' : Diagram}
    (hd : d'.untitled = d.untitled) :
    (addPairs source d' pairs).map Diagram.untitled
      = (addPairs source d (pairs.filter fun p => Role.ofKey p.1 = .relationships)).map
          Diagram.untitled := by
  induction pairs generalizing d d' with
  | nil => exact congrArg Except.ok hd
  | cons p pairs ih =>
    rw [List.forall_mem_cons] at hpairs
    rcases hpairs.1 with hp | hp
    · have hrole : ¬ (Role.ofKey p.1 = .relationships) := by
        rw [hp]
        decide
      rw [List.filter_cons_of_neg (by simpa using hrole), addPairs_cons_eq_bind,
        addPair_of_title hp]
      exact ih hpairs.2 hd
    · rw [List.filter_cons_of_pos (by simpa using hp), addPairs_cons_eq_bind,
        addPairs_cons_eq_bind]
      have hpair : (addPair source d' p.1 p.2).map Diagram.untitled
          = (addPair source d p.1 p.2).map Diagram.untitled := by
        rw [← map_untitled_addPair hpairs.1 d', hd, map_untitled_addPair hpairs.1 d]
      exact Except.map_bind_congr hpair fun _ _ hd => ih hpairs.2 hd

/-- **One of the pairs gives the title, or none does and it is kept.** -/
theorem title_addPairs (hpairs : ∀ p ∈ pairs, IsTitleOrRelationships p)
    (h : addPairs source d pairs = .ok d') :
    (∃ p ∈ pairs, GivesTitle source p d'.title) ∨
      d'.title = d.title ∧ ∀ p ∈ pairs, ∀ x, ¬ GivesTitle source p x := by
  induction pairs generalizing d with
  | nil =>
    cases h
    exact .inr ⟨rfl, nofun⟩
  | cons p pairs ih =>
    rw [List.forall_mem_cons] at hpairs
    rw [addPairs_cons_eq_bind] at h
    obtain ⟨d₁, hp, h⟩ := Except.bind_eq_ok.1 h
    rcases ih hpairs.2 h with ⟨q, hq, hgives⟩ | ⟨hkeep, hnone⟩
    · exact .inl ⟨q, List.mem_cons_of_mem p hq, hgives⟩
    rw [hkeep, List.exists_mem_cons_iff, List.forall_mem_cons]
    rcases title_addPair hpairs.1 hp with hgives | ⟨hkeep', hnone'⟩
    · exact .inl (.inl hgives)
    · exact .inr ⟨hkeep', hnone', hnone⟩

/-! ## Documents in sections

Entities are added first in any case. Of the other pairs there are those for titles and one for
relationships, so that the title is all that an order can change. -/

/-- Whether a pair at the top of a document is for entities. -/
def isEntities (p : Section) : Bool := keyText p.1 == "entities"

theorem ofKey_of_isEntities {p : Section} (h : isEntities p = true) :
    Role.ofKey p.1 = .entities := by
  have hkey : keyText p.1 = "entities" := eq_of_beq h
  unfold Role.ofKey
  rw [hkey]
  decide

theorem ofKey_eq_relationships_iff {k : Node} :
    Role.ofKey k = .relationships ↔ keyText k = "relationships" := by
  unfold Role.ofKey
  dsimp only
  constructor
  · intro h
    split_ifs at h with _ _ _ hkey
    exact eq_of_beq hkey
  · intro hkey
    rw [hkey]
    decide

theorem isTitleOrRelationships_of_keyText {p : Section} (h : keyText p.1 ∈ sectionKeys)
    (hp : isEntities p = false) : IsTitleOrRelationships p := by
  unfold IsTitleOrRelationships Role.ofKey
  unfold isEntities at hp
  simp only [sectionKeys, List.mem_cons, List.not_mem_nil, or_false] at h
  rcases h with hkey | hkey | hkey | hkey <;> rw [hkey] at hp ⊢ <;> revert hp <;> decide

theorem ofKey_ne_line {p : Section} (h : keyText p.1 ∈ sectionKeys) : Role.ofKey p.1 ≠ .line := by
  cases hp : isEntities p with
  | true =>
    rw [ofKey_of_isEntities hp]
    decide
  | false =>
    rcases isTitleOrRelationships_of_keyText h hp with hrole | hrole <;> rw [hrole] <;> decide

/-- The pairs of a document that are not for entities. -/
def others (pairs : List Section) : List Section := pairs.filter fun p => !isEntities p

theorem isTitleOrRelationships_of_mem_others (hkeys : ∀ p ∈ pairs, keyText p.1 ∈ sectionKeys) :
    ∀ p ∈ others pairs, IsTitleOrRelationships p := by
  intro p hp
  obtain ⟨hmem, hentities⟩ := List.mem_filter.1 hp
  exact isTitleOrRelationships_of_keyText (hkeys p hmem) (by simpa using hentities)

/-- **A document of sections** is what those for entities add, and then the others. -/
theorem ofPairs_eq_bind (hkeys : ∀ p ∈ pairs, keyText p.1 ∈ sectionKeys) :
    ofPairs source pairs = addPairs source {} (pairs.filter isEntities) >>= fun d =>
      addPairs source d (others pairs) >>= fun d => addLines (pairs.any recognizes) d [] := by
  have horder : (entitiesFirst pairs).Perm pairs := List.filter_append_perm isEntities pairs
  have hlines : (entitiesFirst pairs).filter (fun p => Role.ofKey p.1 == .line) = [] :=
    List.filter_eq_nil_iff.2 fun p hp => by
      simpa using ofKey_ne_line (hkeys p (horder.mem_iff.1 hp))
  unfold ofPairs
  dsimp only
  rw [hlines, horder.any_eq]
  show (addPairs source {} (pairs.filter isEntities ++ others pairs) >>= _) = _
  rw [addPairs_append, bind_assoc]

theorem exists_of_ofPairs (hkeys : ∀ p ∈ pairs, keyText p.1 ∈ sectionKeys)
    (h : ofPairs source pairs = .ok d) :
    ∃ d₁, addPairs source {} (pairs.filter isEntities) = .ok d₁ ∧
      addPairs source d₁ (others pairs) = .ok d := by
  rw [ofPairs_eq_bind hkeys] at h
  obtain ⟨d₁, hentities, h⟩ := Except.bind_eq_ok.1 h
  obtain ⟨d₂, hothers, h⟩ := Except.bind_eq_ok.1 h
  unfold addLines at h
  split at h
  · cases h
    exact ⟨d₁, hentities, hothers⟩
  · cases h

section

variable (hperm : pairs.Perm pairs') (hnodup : (pairs.map fun p => keyText p.1).Nodup)
  (hkeys : ∀ p ∈ pairs, keyText p.1 ∈ sectionKeys)

include hperm hnodup

theorem filter_isEntities_of_perm : pairs'.filter isEntities = pairs.filter isEntities := by
  refine filter_eq_of_perm hperm ?_
  refine (congrArg List.length (List.filter_congr fun p _ => ?_)).trans_le
    (length_filter_le_one hnodup "entities")
  exact beq_eq_decide ..

theorem filter_relationships_of_perm :
    (others pairs').filter (fun p => Role.ofKey p.1 = .relationships)
      = (others pairs).filter fun p => Role.ofKey p.1 = .relationships := by
  refine filter_eq_of_perm (hperm.filter _) ?_
  refine (congrArg List.length (List.filter_congr fun p _ => ?_)).trans_le
    (length_filter_le_one (hnodup.sublist (List.filter_sublist.map _)) "relationships")
  exact decide_eq_decide.2 ofKey_eq_relationships_iff

include hkeys

/-- **Up to the title the order does not matter.** What is left of the pairs is then one section
of each kind. -/
theorem map_untitled_ofPairs_of_perm :
    (ofPairs source pairs').map Diagram.untitled = (ofPairs source pairs).map Diagram.untitled := by
  have hkeys' : ∀ p ∈ pairs', keyText p.1 ∈ sectionKeys := fun p hp => hkeys p (hperm.mem_iff.2 hp)
  rw [ofPairs_eq_bind hkeys, ofPairs_eq_bind hkeys', filter_isEntities_of_perm hperm hnodup,
    hperm.symm.any_eq]
  refine Except.map_bind_congr (f := id) rfl fun d d' hd => ?_
  have hothers : (addPairs source d' (others pairs')).map Diagram.untitled
      = (addPairs source d (others pairs)).map Diagram.untitled := by
    rw [map_untitled_addPairs (isTitleOrRelationships_of_mem_others hkeys') rfl,
      map_untitled_addPairs (isTitleOrRelationships_of_mem_others hkeys) rfl,
      filter_relationships_of_perm hperm hnodup, show d' = d from hd]
  refine Except.map_bind_congr hothers fun e e' he => ?_
  unfold addLines
  split
  · exact congrArg Except.ok he
  · rfl

/-- **Without two titles the title does not depend on the order either.** There is then one pair
that can give it. -/
theorem title_ofPairs_of_perm (hone : ¬ GiveTwoTitles source pairs)
    (h : ofPairs source pairs = .ok d) (h' : ofPairs source pairs' = .ok d') :
    d'.title = d.title := by
  have hkeys' : ∀ p ∈ pairs', keyText p.1 ∈ sectionKeys := fun p hp => hkeys p (hperm.mem_iff.2 hp)
  obtain ⟨d₁, hentities, hothers⟩ := exists_of_ofPairs hkeys h
  obtain ⟨d₁', hentities', hothers'⟩ := exists_of_ofPairs hkeys' h'
  rw [filter_isEntities_of_perm hperm hnodup, hentities] at hentities'
  cases hentities'
  have hmem : ∀ p, p ∈ others pairs' ↔ p ∈ others pairs := fun p => (hperm.filter _).symm.mem_iff
  rcases title_addPairs (isTitleOrRelationships_of_mem_others hkeys) hothers with
    ⟨p, hp, hgives⟩ | ⟨hkeep, hnone⟩
  · rcases title_addPairs (isTitleOrRelationships_of_mem_others hkeys') hothers' with
      ⟨p', hp', hgives'⟩ | ⟨_, hnone'⟩
    · by_contra hne
      exact hone ⟨p', List.mem_of_mem_filter ((hmem p').1 hp'), p, List.mem_of_mem_filter hp,
        _, _, hgives', hgives, hne⟩
    · exact absurd hgives (hnone' p ((hmem p).2 hp) _)
  · rcases title_addPairs (isTitleOrRelationships_of_mem_others hkeys') hothers' with
      ⟨p', hp', hgives'⟩ | ⟨hkeep', _⟩
    · exact absurd hgives' (hnone p' ((hmem p').1 hp') _)
    · exact hkeep'.trans hkeep.symm

end

theorem GivesTitle.isTitleOrRelationships {p : Section} {x : Option String}
    (h : GivesTitle source p x) : IsTitleOrRelationships p := by
  cases h with
  | value hp => exact .inl hp
  | line hp => exact .inr hp

/-- **The last pair has the last word on the title.** -/
theorem title_ofPairs_concat {p : Section} {x : Option String}
    (hkeys : ∀ q ∈ pairs ++ [p], keyText q.1 ∈ sectionKeys) (hp : GivesTitle source p x)
    (h : ofPairs source (pairs ++ [p]) = .ok d) : d.title = x := by
  have hrole := hp.isTitleOrRelationships
  have hentities : isEntities p = false := by
    cases he : isEntities p with
    | false => rfl
    | true => rcases hrole with hrole | hrole <;> cases (ofKey_of_isEntities he).symm.trans hrole
  obtain ⟨d₁, _, h⟩ := exists_of_ofPairs hkeys h
  have hlast : others (pairs ++ [p]) = others pairs ++ [p] := by
    unfold others
    rw [List.filter_append, List.filter_cons_of_pos (by rw [hentities]; rfl), List.filter_nil]
  rw [hlast, addPairs_append] at h
  obtain ⟨d₂, _, h⟩ := Except.bind_eq_ok.1 h
  rw [addPairs_cons_eq_bind] at h
  obtain ⟨d₃, hpair, h⟩ := Except.bind_eq_ok.1 h
  cases h
  rcases title_addPair hrole hpair with hgives | ⟨_, hnone⟩
  · exact hgives.unique hp
  · exact absurd hp (hnone x)

/-- **The order of sections does not matter, but for two titles.** Under the header, sections with
different keys, of which at most one is unknown, give the same diagram or the same error in every
order. At the top of a document they do so too, up to the title; and the title is the same in
every order exactly if the document does not give two different ones, such as one in a section of
its own and one inside the block of relationships. The last condition is only needed if the
document is read at all, since otherwise the error is the same. -/
theorem sections_perm (source : Source) (pairs : List Section)
    (hnodup : (pairs.map fun p => keyText p.1).Nodup) :
    ((pairs.filter fun p => !sectionKeys.contains (keyText p.1)).length ≤ 1 →
      ∀ d pairs', pairs.Perm pairs' →
        addStructured source d pairs' = addStructured source d pairs) ∧
    ((∀ p ∈ pairs, keyText p.1 ∈ sectionKeys) →
      (∀ pairs', pairs.Perm pairs' → (ofPairs source pairs').map Diagram.untitled
        = (ofPairs source pairs).map Diagram.untitled) ∧
      ((∀ pairs', pairs.Perm pairs' → ofPairs source pairs' = ofPairs source pairs) ↔
        ((∃ d, ofPairs source pairs = .ok d) → ¬ GiveTwoTitles source pairs))) := by
  refine ⟨fun hone d pairs' hperm => addStructured_of_perm source d hperm hnodup hone,
    fun hkeys => ⟨fun pairs' hperm => map_untitled_ofPairs_of_perm hperm hnodup hkeys, ?_, ?_⟩⟩
  · rintro hsame ⟨d, hd⟩ ⟨p, hp, q, hq, x, y, hx, hy, hne⟩
    -- any pair can be put at the end
    have htitle : ∀ r ∈ pairs, ∀ z, GivesTitle source r z → d.title = z := by
      intro r hr z hz
      obtain ⟨before, after, rfl⟩ := List.append_of_mem hr
      have hperm : (before ++ r :: after).Perm (before ++ after ++ [r]) :=
        List.perm_middle.trans (List.perm_append_singleton r (before ++ after)).symm
      rw [← hsame _ hperm] at hd
      exact title_ofPairs_concat (fun s hs => hkeys s (hperm.mem_iff.2 hs)) hz hd
    exact hne ((htitle p hp x hx).symm.trans (htitle q hq y hy))
  · intro hone pairs' hperm
    have huntitled : (ofPairs source pairs').map Diagram.untitled
        = (ofPairs source pairs).map Diagram.untitled :=
      map_untitled_ofPairs_of_perm hperm hnodup hkeys
    cases hd : ofPairs source pairs with
    | error e =>
      rw [hd] at huntitled
      cases hd' : ofPairs source pairs' with
      | error e' =>
        rw [hd'] at huntitled
        cases Except.error.inj huntitled
        rfl
      | ok d' =>
        rw [hd'] at huntitled
        cases huntitled
    | ok d =>
      rw [hd] at huntitled
      obtain ⟨d', hd', hsame⟩ := Except.map_eq_ok.1 huntitled
      have htitle := title_ofPairs_of_perm hperm hnodup hkeys (hone ⟨d, hd⟩) hd hd'
      rw [hd', Diagram.eq_of_untitled hsame htitle]

/-- A block of relationships with a title line of its own, and a title after it. -/
def titledTwice : List Section :=
  [(.scalar Tag.str .plain "relationships" 0,
      .scalar Tag.str .literal "title: X\nA ||--|| B\n" 0),
    (.scalar Tag.str .plain "title" 3, .scalar Tag.str .plain "T" 3)]

/-- All that two titles can make different is the title: not the sections under the header, and not
the two entities and the relationship at the top of a document. -/
theorem sections_perm_titledTwice :
    (titledTwice.map fun p => keyText p.1).Nodup ∧
    (titledTwice.filter fun p => !sectionKeys.contains (keyText p.1)).length ≤ 1 ∧
    (∀ p ∈ titledTwice, keyText p.1 ∈ sectionKeys) ∧
    addStructured {} {} titledTwice.reverse = addStructured {} {} titledTwice ∧
    (ofPairs {} titledTwice.reverse).map Diagram.untitled
      = (ofPairs {} titledTwice).map Diagram.untitled := by
  have hnodup : (titledTwice.map fun p => keyText p.1).Nodup := by decide
  have hone : (titledTwice.filter fun p => !sectionKeys.contains (keyText p.1)).length ≤ 1 := by
    decide
  have hkeys : ∀ p ∈ titledTwice, keyText p.1 ∈ sectionKeys := by decide
  have hperm := (List.reverse_perm titledTwice).symm
  obtain ⟨hstructured, htop⟩ := sections_perm {} titledTwice hnodup
  exact ⟨hnodup, hone, hkeys, hstructured hone {} _ hperm, (htop hkeys).1 _ hperm⟩

/-- **Two titles at the top of a document**: the later one wins, whereas under the header it is
always the one inside the relationships. -/
theorem titledTwice_reverse :
    (ofPairs {} titledTwice).map Diagram.title = .ok (some "T") ∧
    (ofPairs {} titledTwice.reverse).map Diagram.title = .ok (some "X") ∧
    (addStructured {} {} titledTwice).map Diagram.title = .ok (some "X") ∧
    (addStructured {} {} titledTwice.reverse).map Diagram.title = .ok (some "X") ∧
    (Diagram.parse "relationships: |\n  title: X\n  A ||--|| B\ntitle: T\n").map Diagram.title
      = .ok (some "T") ∧
    (Diagram.parse "title: T\nrelationships: |\n  title: X\n  A ||--|| B\n").map Diagram.title
      = .ok (some "X") := by
  decide +kernel

end Document

end ErDiagram
