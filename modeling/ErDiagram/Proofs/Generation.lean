import ErDiagram.Proofs.Document.WellFormed
import ErDiagram.Proofs.Layout.Independence
import ErDiagram.Proofs.Layout.Keys

/-!
# Generation adds places and sizes, and nothing else

A diagram that is generated from a text is the diagram that the text is read into, with a place
and a size for every entity. Writing a map of places passes over an entity that the map does not
name, and so says nothing of one that was lost on the way. None is lost, since a diagram that was
read has different names and a layout places every name: the map has a point for each entity, and
this point is what is written.

The proof puts together what was proved of the parts, and has little of its own. A generation is
cut into what is decided, the plan, and what is written, the arrangement. That the plan has a
place for each name is `Diagram.keys_layout` with `refine`, which keeps keys; that each entity is
written with its place is a lemma about one entity. The reader enters by one fact, that names are
different in a diagram that was read, and this holds for any reader of YAML.
-/

namespace ErDiagram

/-- An entity with a place and with the size of the settings. Nothing else of it may change, and
this is what the definition says, as it is an update of the entity. -/
def Entity.placed (e : Entity) (s : Settings) (p : Point Float) : Entity :=
  { e with x := some p.x, y := some p.y, width := s.entityWidth, height := s.entityHeight }

/-- The strategy is the one that is asked for by its name, and the recommended one if none is. -/
theorem Layout.name_of_choose_eq_ok {a : Analysis} {name : Option String} {t : Strategy}
    (h : choose a name = .ok t) :
    (∀ n, name = some n → n ≠ "" → t.name = n) ∧
      (name = none ∨ name = some "" → t = a.strategy) := by
  unfold choose at h
  split at h
  · cases h
    exact ⟨nofun, fun _ => rfl⟩
  · next n =>
    split at h
    · next hempty =>
      cases h
      exact ⟨fun _ hn hne => absurd (Option.some.inj hn ▸ String.isEmpty_iff.1 hempty) hne,
        fun _ => rfl⟩
    · next hempty =>
      split at h
      · next t' ht =>
        cases h
        have hname : t.name = n := by simpa using List.find?_some ht
        refine ⟨fun _ hn _ => hname.trans (Option.some.inj hn), fun hnone => ?_⟩
        rcases hnone with hnone | hnone
        · cases hnone
        · exact absurd (String.isEmpty_iff.2 (Option.some.inj hnone)) hempty
      · cases h

namespace Diagram

variable {d : Diagram} {strategy : Option String} {s : Settings}

/-! ## What is decided -/

/-- A plan consists of the pattern of the diagram, the strategy that was chosen, and the layout
that this strategy gives, refined. -/
theorem exists_of_plan_eq_ok {p : Plan} (h : d.plan strategy s = .ok p) :
    ∃ t m, Layout.choose d.analyze strategy = .ok t ∧ d.layout d.analyze t s = .ok m ∧
      p = ⟨d.analyze.pattern, t, Refinement.refine s.refinement d.ends m⟩ := by
  unfold plan at h
  dsimp only at h
  obtain ⟨t, ht, h⟩ := Except.bind_eq_ok.1 h
  obtain ⟨m, hm, h⟩ := Except.bind_eq_ok.1 h
  cases h
  exact ⟨t, m, ht, hm, rfl⟩

/-- **The places of a plan are those of the declared names.** Refining keeps the keys of a map, so
that this is what is known of the layout. -/
theorem mem_keys_plan {p : Plan} (h : d.plan strategy s = .ok p) (n : String) :
    n ∈ p.positions.keys ↔ n ∈ d.entityNames := by
  obtain ⟨t, m, _, hm, rfl⟩ := exists_of_plan_eq_ok h
  unfold layout at hm
  obtain ⟨spots, hspots, hm⟩ := Except.bind_eq_ok.1 hm
  rw [Refinement.keys_refine, Layout.SpotMap.keys_of_positions_eq_ok hm]
  exact mem_keys_spots d.analyze_within hspots n

/-! ## What is written -/

theorem arrangeEntity_eq_placed {m : PositionMap Float} {e : Entity} {p : Point Float}
    (h : m.get? e.name = some p) : arrangeEntity s m e = e.placed s p := by
  unfold arrangeEntity
  dsimp only
  rw [h]
  rfl

/-- **Every entity is written with the place that the map has for it**, if the map names all
entities. -/
theorem forall₂_placed {p : Plan} (h : ∀ n ∈ d.entityNames, n ∈ p.positions.keys) :
    List.Forall₂ (fun e e' => ∃ q, p.positions.get? e.name = some q ∧ e' = e.placed s q)
      d.entities (d.arrange s p).diagram.entities := by
  rw [entities_arrange]
  refine List.forall₂_map_right_iff.2 (List.forall₂_same.2 fun e he => ?_)
  obtain ⟨q, hq⟩ := OrderedMap.exists_get?_of_mem_keys (h e.name (List.mem_map_of_mem he))
  exact ⟨q, hq, arrangeEntity_eq_placed hq⟩

end Diagram

/-- **Generating a diagram only adds places and sizes.** The text is read into a diagram that has
the same title and the same relationships, and the same entities in the same order but for their
places and sizes. Every entity has the size of the settings and the place that is returned for its
name, no other name has one, and pattern and strategy are those of the analysis, unless another
strategy is asked for.

Nothing of this depends on how a YAML text is taken apart: whatever the reader of YAML finds, the
diagram that is read from it has different names, and that is all that a layout needs. -/
theorem generate_only_places {compose : String → Except Yaml.Failure (Option Yaml.Node)}
    {text : String} {strategy : Option String} {s : Settings} {g : Generated}
    (h : generateBy compose text strategy s = .ok g) :
    ∃ d, Diagram.parseBy compose text = .ok d ∧
      g.diagram.title = d.title ∧ g.diagram.relationships = d.relationships ∧
      List.Forall₂ (fun e e' => ∃ p, g.positions.get? e.name = some p ∧ e' = e.placed s p)
        d.entities g.diagram.entities ∧
      g.positions.keys.Perm d.entityNames ∧
      g.pattern = d.analyze.pattern ∧
      (∀ n, strategy = some n → n ≠ "" → g.strategy.name = n) ∧
      (strategy = none ∨ strategy = some "" → g.strategy = d.analyze.strategy) := by
  unfold generateBy at h
  split at h
  · cases h
  split at h
  · cases h
  · next d hd =>
    rw [Except.mapError_eq_ok, Diagram.generate_eq, Except.map_eq_ok] at h
    obtain ⟨p, hp, rfl⟩ := h
    have hkeys := Diagram.mem_keys_plan hp
    have hperm : p.positions.keys.Perm d.entityNames :=
      (List.perm_ext_iff_of_nodup p.positions.nodup_keys
        (Diagram.wellFormed_of_parseBy hd).nodup).2 hkeys
    have hplaced := Diagram.forall₂_placed (s := s) fun n => (hkeys n).2
    obtain ⟨t, m, ht, _, rfl⟩ := Diagram.exists_of_plan_eq_ok hp
    obtain ⟨hasked, hfree⟩ := Layout.name_of_choose_eq_ok ht
    exact ⟨d, hd, rfl, rfl, hplaced, hperm, rfl, hasked, hfree⟩

/-- A text of two entities and a title, of which a grid is asked for by its name. -/
theorem generate_only_places_couple :
    ∃ d g, Diagram.parse "title: T\nA ||--|| B : has" = .ok d ∧ d.entityNames = ["A", "B"] ∧
      generate "title: T\nA ||--|| B : has" (some "grid-fallback") {} = .ok g ∧
      g.diagram.title = d.title ∧ g.diagram.relationships = d.relationships ∧
      List.Forall₂ (fun e e' => ∃ p, g.positions.get? e.name = some p ∧ e' = e.placed {} p)
        d.entities g.diagram.entities ∧
      g.positions.keys.Perm ["A", "B"] ∧ g.strategy.name = "grid-fallback" := by
  have hread : (Diagram.parse "title: T\nA ||--|| B : has").map (fun d => decide
      (d.entityNames = ["A", "B"] ∧ d.ends = [("A", "B")])) = .ok true := by decide +kernel
  obtain ⟨d, hd, hfacts⟩ := Except.map_eq_ok.1 hread
  obtain ⟨hnames, hends⟩ := of_decide_eq_true hfacts
  obtain ⟨p, hp⟩ : ∃ p, d.plan (some "grid-fallback") {} = .ok p := by
    -- only names and ends matter, and these are the ones of the couple
    have hcouple :
        d.plan (some "grid-fallback") {} = Diagram.couple.plan (some "grid-fallback") {} :=
      Diagram.plan_congr hnames hends _ _
    obtain ⟨m, hm⟩ := Diagram.exists_layout_couple
    rw [hcouple]
    refine Except.exists_eq_ok_of_isOk ?_
    show (Diagram.couple.layout Diagram.couple.analyze .grid {} >>= _ :
      Except LayoutError Plan).isOk = true
    rw [hm]
    rfl
  have hgenerate :
      generate "title: T\nA ||--|| B : has" (some "grid-fallback") {} = .ok (d.arrange {} p) := by
    have hblank : Text.allBlank "title: T\nA ||--|| B : has".toList = false := by decide
    rw [Diagram.parse] at hd
    rw [generate, generateBy, hblank, if_neg Bool.false_ne_true, hd]
    dsimp only
    rw [Diagram.generate_eq, hp]
    rfl
  obtain ⟨d', hd', htitle, hrelationships, hentities, hkeys, _, hasked, _⟩ :=
    generate_only_places hgenerate
  cases hd.symm.trans hd'
  exact ⟨d, _, hd, hnames, hgenerate, htitle, hrelationships, hentities, hnames ▸ hkeys,
    hasked _ rfl (by decide)⟩

end ErDiagram
