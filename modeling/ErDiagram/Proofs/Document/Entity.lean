import ErDiagram.Proofs.Diagram.Append
import ErDiagram.Proofs.Document.Attribute

/-!
# Entities are read back

An entity of which nothing is known is written as a name without a value. Any other has a mapping
with an option for whether it is weak, one for its attributes, or both, and it is these options
that tell the mapping from one that lists attributes itself.

Entities are read into a diagram one after the other, and each is declared before its attributes
are added to it. To follow this, a diagram is written as one with the entity at its end
(`Diagram.append`): as long as names differ, that is the entity which everything is added to.
-/

namespace ErDiagram

open Yaml

/-- **An entity is read back as another one**: as one of the same name that is weak if it is, with
the attributes that its own are read back as. Its place and size are not written and do not come
back. -/
def Entity.ReadsAs (e e' : Entity) : Prop :=
  ∃ attributes, List.Forall₂ Attribute.ReadsAs (Attribute.written e.attributes) attributes ∧
    e' = { name := e.name, attributes, weak := e.weak }

/-- No name is lost. -/
theorem Entity.map_name_of_readsAs {l l' : List Entity} (h : List.Forall₂ Entity.ReadsAs l l') :
    l'.map (·.name) = l.map (·.name) := by
  induction h with
  | nil => rfl
  | cons he _ ih =>
    obtain ⟨_, _, rfl⟩ := he
    rw [List.map_cons, List.map_cons, ih]

theorem exists_forall₂ {α β : Type} {R : α → β → Prop} {l : List α} (h : ∀ a ∈ l, ∃ b, R a b) :
    ∃ l', List.Forall₂ R l l' := by
  induction l with
  | nil => exact ⟨[], .nil⟩
  | cons a l ih =>
    obtain ⟨b, hb⟩ := h a List.mem_cons_self
    obtain ⟨l', hl⟩ := ih fun x hx => h x (List.mem_cons_of_mem a hx)
    exact ⟨b :: l', .cons hb hl⟩

/-- Entities are read back if those of their attributes that are written can be read. -/
theorem Entity.exists_readsAs {l : List Entity}
    (h : ∀ e ∈ l, ∀ a ∈ Attribute.written e.attributes, a.IsReadable) :
    ∃ l', List.Forall₂ Entity.ReadsAs l l' := by
  refine exists_forall₂ fun e he => ?_
  obtain ⟨attributes, hattributes⟩ := exists_forall₂ fun a ha => (h e he a ha).exists_readsAs
  exact ⟨_, attributes, hattributes, rfl⟩

namespace Document

/-- **Attributes are read back one by one.** The entity is the last one of the diagram, and each
attribute goes to its end. -/
theorem addAttributePairs_of_meansPairs {entity : String} {l l' : List Attribute}
    (h : List.Forall₂ Attribute.ReadsAs l l') {pairs : List (Node × Node)}
    (hp : Node.meansPairs (l.map fun a => (a.name, a.toValue)) pairs = true) (d : Diagram) :
    addAttributePairs entity d pairs = .ok (l'.foldl (·.addAttribute entity ·) d) := by
  induction h generalizing d pairs with
  | nil =>
    rw [Node.eq_nil_of_meansPairs hp]
    rfl
  | cons ha _ ih =>
    obtain ⟨k, v, more, rfl, hk, hv, hmore⟩ := Node.exists_of_meansPairs_cons hp
    rw [addAttributePairs, Node.text?_of_isText hk]
    dsimp only
    rw [ha v hv]
    exact ih hmore _

/-- The mapping of the attributes of an entity gives the last entity these attributes. -/
theorem addAttributes_of_means {d : Diagram} {e : Entity} {l l' : List Attribute}
    (h : List.Forall₂ Attribute.ReadsAs (Attribute.written l) l') {n : Node}
    (hn : n.means (Outline.attributesValue l) = true) (he : e.name ∉ d.entityNames) :
    addAttributes e.name (d.append e) n
      = .ok (d.append { e with attributes := e.attributes ++ l' }) := by
  rw [Attribute.attributesValue_eq] at hn
  obtain ⟨tag, pairs, line, rfl, hp⟩ := Node.exists_of_means_map hn
  show addAttributePairs e.name (d.append e) pairs = _
  rw [addAttributePairs_of_meansPairs h hp, Diagram.foldl_addAttribute_append l' he]

/-! ## Options

An entity that is weak or has attributes is written with options. Which of the two are there gives
three cases, and each is read by following the options through the mapping. -/

/-- The options of a mapping, from its first pair on. -/
theorem option?_cons {k v : Node} {key : String} (hk : k.isText key = true)
    (rest : List (Node × Node)) (name : String) :
    option? ((k, v) :: rest) name
      = (option? rest name).or (if key = name then some v else none) := by
  unfold option?
  rw [List.reverse_cons, List.find?_append, Option.map_or, List.find?_singleton,
    Node.text?_of_isText hk]
  congr 1
  by_cases h : key = name
  · rw [if_pos h, h, beq_self_eq_true]
    rfl
  · rw [if_neg h, if_neg (by simpa using h)]
    rfl

theorem weakOption?_of_means_true {pairs : List (Node × Node)} {n : Node}
    (h : option? pairs "weak" = some n) (hn : n.means (.bool true) = true) :
    weakOption? pairs = .ok (some true) := by
  obtain ⟨_, htag⟩ := Node.text?_of_means_true hn
  obtain ⟨style, line, rfl⟩ := Node.exists_of_means_true hn
  have htrue : isTrue "true" = true := by decide
  rw [weakOption?, h]
  dsimp only
  rw [htag, if_pos rfl, htrue]

theorem weakOption?_of_none {pairs : List (Node × Node)} (h : option? pairs "weak" = none) :
    weakOption? pairs = .ok none := by
  rw [weakOption?, h]

section

variable {d : Diagram} {e : Entity} {attributes : List Attribute} {pairs : List (Node × Node)}
  (h : List.Forall₂ Attribute.ReadsAs (Attribute.written e.attributes) attributes)
  (hnew : e.name ∉ d.entityNames)

include hnew in
/-- A weak entity without attributes. -/
theorem addOptions_weak (hp : Node.meansPairs [("weak", .bool true)] pairs = true) :
    addOptions e.name (d.append { name := e.name }) pairs
      = .ok (d.append { name := e.name, weak := true }) := by
  obtain ⟨k, v, more, rfl, hk, hv, hmore⟩ := Node.exists_of_meansPairs_cons hp
  cases Node.eq_nil_of_meansPairs hmore
  have hweak : option? [(k, v)] "weak" = some v := option?_cons hk [] _
  have hnone : option? [(k, v)] "attributes" = none := option?_cons hk [] _
  rw [addOptions, weakOption?_of_means_true hweak hv, hnone]
  exact congrArg Except.ok (Diagram.modifyEntity_append (e := { name := e.name }) _ hnew)

include h hnew in
/-- Attributes of an entity that is not weak. -/
theorem addOptions_attributes
    (hp : Node.meansPairs [("attributes", Outline.attributesValue e.attributes)] pairs = true) :
    addOptions e.name (d.append { name := e.name }) pairs
      = .ok (d.append { name := e.name, attributes }) := by
  obtain ⟨k, v, more, rfl, hk, hv, hmore⟩ := Node.exists_of_meansPairs_cons hp
  cases Node.eq_nil_of_meansPairs hmore
  have hnone : option? [(k, v)] "weak" = none := option?_cons hk [] _
  have hsome : option? [(k, v)] "attributes" = some v := option?_cons hk [] _
  rw [addOptions, weakOption?_of_none hnone, hsome]
  exact addAttributes_of_means (e := { name := e.name }) h hv hnew

include h hnew in
/-- Attributes of a weak entity. -/
theorem addOptions_weak_attributes
    (hp : Node.meansPairs [("weak", .bool true),
      ("attributes", Outline.attributesValue e.attributes)] pairs = true) :
    addOptions e.name (d.append { name := e.name }) pairs
      = .ok (d.append { name := e.name, attributes, weak := true }) := by
  obtain ⟨k, v, more, rfl, hk, hv, hmore⟩ := Node.exists_of_meansPairs_cons hp
  obtain ⟨k', v', more, rfl, hk', hv', hmore⟩ := Node.exists_of_meansPairs_cons hmore
  cases Node.eq_nil_of_meansPairs hmore
  have hweak : option? [(k, v), (k', v')] "weak" = some v := by
    rw [option?_cons hk, option?_cons hk']
    rfl
  have hsome : option? [(k, v), (k', v')] "attributes" = some v' := by
    rw [option?_cons hk, option?_cons hk']
    rfl
  have hmodify := Diagram.modifyEntity_append (d := d) (e := { name := e.name })
    ({ · with weak := true }) hnew
  rw [addOptions, weakOption?_of_means_true hweak hv, hsome]
  dsimp only at hmodify ⊢
  rw [hmodify]
  exact addAttributes_of_means (e := { name := e.name, weak := true }) h hv' hnew

end

/-- **An entity is read back** from its name and value. -/
theorem addEntity_of_means {d : Diagram} {e e' : Entity} (h : e.ReadsAs e')
    (hnew : e.name ∉ d.entityNames) {k v : Node} (hk : k.isText e.name = true)
    (hv : v.means (Outline.entityValue e.attributes e.weak) = true) :
    addEntity d k v = .ok (d.append e') := by
  obtain ⟨attributes, hattributes, rfl⟩ := h
  -- an entity without attributes comes back without any
  have hempty : e.attributes = [] → attributes = [] := fun hl => by
    rw [hl] at hattributes
    cases hattributes
    rfl
  rw [addEntity, Node.text?_of_isText hk]
  dsimp only
  rw [Diagram.declare_of_notMem hnew]
  unfold Outline.entityValue at hv
  by_cases hl : e.attributes = []
  · rw [hempty hl]
    rw [hl] at hv
    cases hw : e.weak with
    | false =>
      rw [hw] at hv
      obtain ⟨style, text, line, rfl⟩ := Node.exists_of_means_null hv
      rfl
    | true =>
      rw [hw] at hv
      obtain ⟨tag, pairs, line, rfl, hp⟩ := Node.exists_of_means_map hv
      exact addOptions_weak hnew hp
  · have hsome : e.attributes.isEmpty = false := by simpa using hl
    rw [hsome] at hv
    cases hw : e.weak with
    | false =>
      rw [hw] at hv
      obtain ⟨tag, pairs, line, rfl, hp⟩ := Node.exists_of_means_map hv
      exact addOptions_attributes hattributes hnew hp
    | true =>
      rw [hw] at hv
      obtain ⟨tag, pairs, line, rfl, hp⟩ := Node.exists_of_means_map hv
      exact addOptions_weak_attributes hattributes hnew hp

/-- **Entities are read back one by one.** The names of the diagram so far and those that are
still to come have to differ, so that each is declared and none is found again. -/
theorem addEntityPairs_of_meansPairs {l l' : List Entity} (h : List.Forall₂ Entity.ReadsAs l l')
    {pairs : List (Node × Node)} (d : Diagram) (hnew : (d.entityNames ++ l.map (·.name)).Nodup)
    (hp : Node.meansPairs (l.map fun e => (e.name, Outline.entityValue e.attributes e.weak)) pairs
      = true) :
    addEntityPairs d pairs = .ok { d with entities := d.entities ++ l' } := by
  induction h generalizing d pairs with
  | nil =>
    rw [Node.eq_nil_of_meansPairs hp, List.append_nil]
    rfl
  | @cons e e' l l' he _ ih =>
    obtain ⟨k, v, more, rfl, hk, hv, hmore⟩ := Node.exists_of_meansPairs_cons hp
    have hname : e.name ∉ d.entityNames := fun hmem =>
      (List.nodup_append.1 hnew).2.2 e.name hmem e.name List.mem_cons_self rfl
    have hnames : (d.append e').entityNames = d.entityNames ++ [e.name] := by
      obtain ⟨_, _, rfl⟩ := he
      exact Diagram.entityNames_append
    rw [addEntityPairs, addEntity_of_means he hname hk hv]
    dsimp only
    rw [ih (d.append e') (by rw [hnames, List.append_assoc]; exact hnew) hmore]
    show Except.ok { d with entities := (d.entities ++ [e']) ++ l' } = _
    rw [List.append_assoc, List.singleton_append]

end Document

end ErDiagram
