import ErDiagram.Proofs.Canvas.Names
import Mathlib.Data.List.Flatten

/-!
# Every attribute is attached once

An attribute of a graph may name an entity as its parent, and any number of connections may join
it with entities, in either direction. The graph is gone through twice. First each attribute whose
parent is an entity goes to it; then the connections are followed in their order, and an attribute
that has no entity yet goes to the one at the other end. So the parent comes before all
connections, and among connections the first one wins.

The second walk carries along the list of all that is attached so far. What it adds can be told
without this list: an attachment is added exactly if some connection draws it, no connection
before that one draws any for the same attribute, and the attribute had none at the start
(`Adds`). The rest follows, since where ids are distinct a connection draws an attachment exactly
if it joins an attribute with an entity.

There are two vocabularies, on purpose. `IsParent`, `Ties`, `IsFirstTie` and `BelongsTo` speak of
a graph as it is drawn, by ids and types, and they are what the result is stated in. `Spares`,
`Draws`, `DrawnBefore` and `Adds` speak of attachments as they are looked up, and need no
assumption about ids. That ids are distinct is used just where one is translated into the other.
-/

namespace ErDiagram.Canvas

/-- No attribute is an entity. -/
theorem Element.isEntity_eq_false {e : Element} (h : e.isAttribute = true) :
    e.isEntity = false := by
  have htype : Text.lower e.type = "attribute" := eq_of_beq h
  rw [isEntity, htype]
  decide

namespace Graph

/-- The attribute names the entity as its parent. A parent that is no entity, or no element at
all, is as good as none, so that connections are followed for this attribute too. -/
def IsParent (g : Graph) (e o : Element) : Prop := o ∈ g.entities ∧ e.parent = some o.id

/-- The connection joins the element with the entity, in either direction. Both ends are told by
their ids alone, as a connection has nothing else. -/
def Ties (g : Graph) (c : Connection) (e o : Element) : Prop :=
  o ∈ g.entities ∧ (c.source = e.id ∧ c.target = o.id ∨ c.target = e.id ∧ c.source = o.id)

/-- **The first connection that joins an element with an entity** is the one at a place of the
list, and the entity is the one at its other end. It is the place that counts and not the
connection, since the same connection may be in the list twice. -/
def IsFirstTie (g : Graph) (e : Element) (i : Nat) (o : Element) : Prop :=
  (∃ c, g.connections[i]? = some c ∧ g.Ties c e o) ∧
    ∀ j c, j < i → g.connections[j]? = some c → ∀ o', ¬ g.Ties c e o'

/-- **The entity that an attribute belongs to**: its parent, or else the entity that the first
such connection joins it with. There is at most one, where ids are distinct: a parent has one id,
and so has the other end of a connection. -/
inductive BelongsTo (g : Graph) (e o : Element) : Prop where
  | parent (h : g.IsParent e o)
  | connection (i : Nat) (hparent : ∀ o', ¬ g.IsParent e o') (h : g.IsFirstTie e i o)

/-- **The attributes of the entities of one name**, in order: first those whose parent is one of
them, as the graph lists them, and then those that are joined with one of them, in the order of
their first connections.

It is names and not entities that collect, because several entities can be drawn under one name,
and the text has one place for all of them. The two lists are kept apart as they are ordered by
different things: the first by the elements, the second by the connections. -/
structure Collects (g : Graph) (name : String) (own linked : List Element) : Prop where
  /-- The attributes whose parent has the name. The parent may be any of the entities with this
  name. -/
  mem_own : ∀ e, e ∈ own ↔ (e ∈ g.elements ∧ e.isAttribute = true) ∧
    ∃ o, g.IsParent e o ∧ o.entityName = name
  /-- They come in the order of the elements, among which each stands once. -/
  own_order : own.Sublist g.elements
  /-- The attributes without a parent whose first connection joins them with the name. An
  attribute with a parent is never looked for among the connections. -/
  mem_linked : ∀ e, e ∈ linked ↔ (e ∈ g.elements ∧ e.isAttribute = true) ∧
    (∀ o, ¬ g.IsParent e o) ∧ ∃ i o, g.IsFirstTie e i o ∧ o.entityName = name
  /-- They come in the order of these connections, which need not be that of the elements. -/
  linked_order : linked.Pairwise fun e e' =>
    ∃ i o i' o', g.IsFirstTie e i o ∧ g.IsFirstTie e' i' o' ∧ i < i'

variable {g : Graph}

/-! ## Attributes with a parent -/

/-- The attachment of an element to its parent. -/
def parentAttachment? (g : Graph) (e : Element) : Option Attachment :=
  if e.isAttribute then
    match e.parent.bind g.element? with
    | some owner => if owner.isEntity then some ⟨e, owner⟩ else none
    | none => none
  else none

theorem parented_eq (g : Graph) : g.parented = g.elements.filterMap g.parentAttachment? := rfl

theorem part_of_parentAttachment? {e : Element} {a : Attachment}
    (h : g.parentAttachment? e = some a) : a.part = e := by
  unfold parentAttachment? at h
  split at h
  · split at h
    · split at h
      · cases h
        rfl
      · cases h
    · cases h
  · cases h

/-- **An element goes to its parent** exactly if it is an attribute and the parent an entity. That
ids are distinct is needed to go from the id to the entity: it is the only element with its id. -/
theorem parentAttachment?_eq_some_iff (hids : (g.elements.map (·.id)).Nodup) {e o : Element} :
    g.parentAttachment? e = some ⟨e, o⟩ ↔ e.isAttribute = true ∧ g.IsParent e o := by
  constructor
  · intro h
    unfold parentAttachment? at h
    split at h
    · next hattribute =>
      split at h
      · next owner howner =>
        split at h
        · next hentity =>
          cases h
          obtain ⟨id, hid, hfound⟩ := Option.bind_eq_some_iff.1 howner
          obtain ⟨hmem, rfl⟩ := mem_of_element? hfound
          exact ⟨hattribute, mem_entities.2 ⟨hmem, hentity⟩, hid⟩
        · cases h
      · cases h
    · cases h
  · rintro ⟨hattribute, howner, hparent⟩
    obtain ⟨hmem, hentity⟩ := mem_entities.1 howner
    have hfound : e.parent.bind g.element? = some o := by
      rw [hparent, Option.bind_some, element?_id hids hmem]
    rw [parentAttachment?, if_pos hattribute, hfound]
    exact if_pos hentity

theorem mem_parented_iff (hids : (g.elements.map (·.id)).Nodup) {e o : Element} :
    ⟨e, o⟩ ∈ g.parented ↔ (e ∈ g.elements ∧ e.isAttribute = true) ∧ g.IsParent e o := by
  rw [parented_eq, List.mem_filterMap, and_assoc]
  constructor
  · rintro ⟨e', he', h⟩
    cases part_of_parentAttachment? h
    exact ⟨he', (parentAttachment?_eq_some_iff hids).1 h⟩
  · rintro ⟨he, h⟩
    exact ⟨e, he, (parentAttachment?_eq_some_iff hids).2 h⟩

/-- The attributes with a parent stand in the order of the elements. -/
theorem parts_parented_sublist (g : Graph) : (g.parented.map (·.part)).Sublist g.elements := by
  rw [parented_eq]
  induction g.elements with
  | nil => exact .slnil
  | cons e l ih =>
    cases h : g.parentAttachment? e with
    | none =>
      rw [List.filterMap_cons_none h]
      exact ih.cons e
    | some a =>
      rw [List.filterMap_cons_some h, List.map_cons, part_of_parentAttachment? h]
      exact ih.cons_cons e

/-! ## What the connections add

The walk looks at one connection at a time and at the list of what is attached. `Draws` and `Adds`
say the same by places in the list of connections, where nothing is carried along. -/

/-- The connection draws nothing for the attribute of an attachment. Attributes are compared by
their ids here, as in the walk. -/
def Spares (g : Graph) (c : Connection) (a : Attachment) : Prop :=
  ∀ a', g.attachment? c = some a' → a'.part.id ≠ a.part.id

/-- **The connection at a place draws an attachment first**: no connection before draws one for the
same attribute. -/
def Draws (g : Graph) (cs : List Connection) (i : Nat) (a : Attachment) : Prop :=
  (∃ c, cs[i]? = some c ∧ g.attachment? c = some a) ∧
    ∀ j c, j < i → cs[j]? = some c → g.Spares c a

variable {c : Connection} {cs : List Connection} {known new : List Attachment}
  {a b : Attachment} {i j : Nat}

theorem not_draws_nil : ¬ g.Draws [] i a := by
  rintro ⟨⟨c, hc, _⟩, _⟩
  cases hc

theorem draws_cons_zero_iff : g.Draws (c :: cs) 0 a ↔ g.attachment? c = some a := by
  constructor
  · rintro ⟨⟨c', hc, ha⟩, _⟩
    cases hc
    exact ha
  · exact fun h => ⟨⟨c, rfl, h⟩, fun j _ hj => absurd hj (Nat.not_lt_zero j)⟩

theorem draws_cons_succ_iff :
    g.Draws (c :: cs) (i + 1) a ↔ g.Spares c a ∧ g.Draws cs i a := by
  constructor
  · rintro ⟨hdrawn, hfirst⟩
    exact ⟨hfirst 0 c (Nat.succ_pos i) rfl, hdrawn,
      fun j c' hj => hfirst (j + 1) c' (Nat.succ_lt_succ hj)⟩
  · rintro ⟨hspares, hdrawn, hfirst⟩
    refine ⟨hdrawn, fun j c' hj hc => ?_⟩
    cases j with
    | zero =>
      cases hc
      exact hspares
    | succ j => exact hfirst j c' (Nat.lt_of_succ_lt_succ hj) hc

theorem exists_draws_cons_iff : (∃ i, g.Draws (c :: cs) i a) ↔
    g.attachment? c = some a ∨ g.Spares c a ∧ ∃ i, g.Draws cs i a := by
  constructor
  · rintro ⟨_ | i, h⟩
    · exact .inl (draws_cons_zero_iff.1 h)
    · obtain ⟨hspares, h⟩ := draws_cons_succ_iff.1 h
      exact .inr ⟨hspares, i, h⟩
  · rintro (h | ⟨hspares, i, h⟩)
    · exact ⟨0, draws_cons_zero_iff.2 h⟩
    · exact ⟨i + 1, draws_cons_succ_iff.2 ⟨hspares, h⟩⟩

/-- One attachment is drawn first before another one is. -/
def DrawnBefore (g : Graph) (cs : List Connection) (a b : Attachment) : Prop :=
  ∃ i j, g.Draws cs i a ∧ g.Draws cs j b ∧ i < j

theorem DrawnBefore.cons (ha : g.Spares c a) (hb : g.Spares c b) (h : g.DrawnBefore cs a b) :
    g.DrawnBefore (c :: cs) a b := by
  obtain ⟨i, j, hi, hj, hij⟩ := h
  exact ⟨i + 1, j + 1, draws_cons_succ_iff.2 ⟨ha, hi⟩, draws_cons_succ_iff.2 ⟨hb, hj⟩,
    Nat.succ_lt_succ hij⟩

/-- What is drawn at different places is for different attributes. -/
theorem DrawnBefore.ne (h : g.DrawnBefore cs a b) : a.part.id ≠ b.part.id := by
  obtain ⟨i, j, ⟨⟨c, hc, ha⟩, _⟩, ⟨_, hfirst⟩, hij⟩ := h
  exact hfirst i c hij hc a ha

/-- **What connections add to the attachments that there are**: what they draw first for
attributes that have no entity, in their order.

The walk is an induction over the connections with a growing list, and `skip` and `take` are its
two steps. In this form neither of them mentions what was added before, other than by way of
`known`. -/
structure Adds (g : Graph) (known : List Attachment) (cs : List Connection)
    (new : List Attachment) : Prop where
  /-- What is added was not known, and is drawn first. An attribute that was known at the start
  gets nothing, however often it is drawn. -/
  mem_iff : ∀ a : Attachment,
    a ∈ new ↔ (∀ k ∈ known, k.part.id ≠ a.part.id) ∧ ∃ i, g.Draws cs i a
  /-- It is added when it is drawn, so that it stands in the order of the connections. -/
  order : new.Pairwise (g.DrawnBefore cs)

namespace Adds

/-- A connection that draws nothing for attributes without an entity adds nothing. -/
theorem skip (hc : ∀ a : Attachment, (∀ k ∈ known, k.part.id ≠ a.part.id) → g.Spares c a)
    (h : g.Adds known cs new) : g.Adds known (c :: cs) new := by
  have hspares : ∀ a ∈ new, g.Spares c a := fun a ha => hc a ((h.mem_iff a).1 ha).1
  constructor
  · intro a
    rw [h.mem_iff, exists_draws_cons_iff]
    refine and_congr_right fun hfresh => ?_
    constructor
    · exact fun h => .inr ⟨hc a hfresh, h⟩
    · rintro (ha | ⟨_, h⟩)
      · exact absurd rfl (hc a hfresh a ha)
      · exact h
  · exact h.order.imp_of_mem fun ha hb h => h.cons (hspares _ ha) (hspares _ hb)

/-- An attribute without an entity gets the one that is drawn. -/
theorem take (hc : g.attachment? c = some b) (hb : ∀ k ∈ known, k.part.id ≠ b.part.id)
    (h : g.Adds (known ++ [b]) cs new) : g.Adds known (c :: cs) (b :: new) := by
  have hspares : ∀ {a : Attachment}, g.Spares c a ↔ b.part.id ≠ a.part.id := by
    intro a
    rw [Spares, hc]
    simp only [Option.some.injEq, forall_eq']
  have hmem : ∀ a : Attachment, a ∈ new ↔
      (∀ k ∈ known, k.part.id ≠ a.part.id) ∧ g.Spares c a ∧ ∃ i, g.Draws cs i a := by
    intro a
    rw [h.mem_iff, List.forall_mem_append, List.forall_mem_singleton, and_assoc, hspares]
  constructor
  · intro a
    rw [List.mem_cons, hmem, exists_draws_cons_iff]
    constructor
    · rintro (rfl | ⟨hfresh, h⟩)
      · exact ⟨hb, .inl hc⟩
      · exact ⟨hfresh, .inr h⟩
    · rintro ⟨hfresh, ha | h⟩
      · rw [hc, Option.some.injEq] at ha
        exact .inl ha.symm
      · exact .inr ⟨hfresh, h⟩
  · refine .cons (fun a ha => ?_) (h.order.imp_of_mem fun ha ha' h =>
      h.cons ((hmem _).1 ha).2.1 ((hmem _).1 ha').2.1)
    obtain ⟨_, ha, i, hi⟩ := (hmem a).1 ha
    exact ⟨0, i + 1, draws_cons_zero_iff.2 hc, draws_cons_succ_iff.2 ⟨ha, hi⟩, Nat.succ_pos i⟩

end Adds

/-- **The walk along the connections** adds to what is known what they draw first, and nothing
else. The induction is on the connections, and the list that is known grows along with it. -/
theorem exists_connected_eq (g : Graph) (known : List Attachment) (cs : List Connection) :
    ∃ new, g.connected known cs = known ++ new ∧ g.Adds known cs new := by
  induction cs generalizing known with
  | nil =>
    refine ⟨[], (List.append_nil known).symm, fun a => iff_of_false List.not_mem_nil ?_, .nil⟩
    rintro ⟨_, i, h⟩
    exact not_draws_nil h
  | cons c cs ih =>
    rw [connected.eq_def]
    dsimp only
    cases hc : g.attachment? c with
    | none =>
      obtain ⟨new, heq, hadds⟩ := ih known
      exact ⟨new, heq, hadds.skip fun a _ a' ha' => absurd (hc.symm.trans ha') nofun⟩
    | some b =>
      dsimp only
      split
      · next hknown =>
        obtain ⟨new, heq, hadds⟩ := ih known
        refine ⟨new, heq, hadds.skip fun a hfresh a' ha' => ?_⟩
        obtain ⟨k, hk, hid⟩ := List.any_eq_true.1 hknown
        rw [hc, Option.some.injEq] at ha'
        rw [← ha', ← eq_of_beq hid]
        exact hfresh k hk
      · next hfresh =>
        obtain ⟨new, heq, hadds⟩ := ih (known ++ [b])
        rw [List.append_assoc, List.singleton_append] at heq
        refine ⟨b :: new, heq, hadds.take hc fun k hk hid => hfresh ?_⟩
        exact List.any_eq_true.2 ⟨k, hk, beq_iff_eq.2 hid⟩

/-! ## What a connection draws -/

theorem ends?_eq_some_iff (hids : (g.elements.map (·.id)).Nodup) {s t : Element} :
    g.ends? c = some (s, t) ↔
      (s ∈ g.elements ∧ s.id = c.source) ∧ t ∈ g.elements ∧ t.id = c.target := by
  constructor
  · intro h
    unfold ends? at h
    split at h
    · next hs ht =>
      cases h
      exact ⟨mem_of_element? hs, mem_of_element? ht⟩
    · cases h
  · rintro ⟨⟨hs, hsource⟩, ht, htarget⟩
    rw [ends?, ← hsource, ← htarget, element?_id hids hs, element?_id hids ht]

/-- **A connection draws an attachment exactly if it joins an attribute with an entity.** The
cases of the definition come down to the two directions, as no attribute is an entity. -/
theorem attachment?_eq_some_iff (hids : (g.elements.map (·.id)).Nodup) {e o : Element} :
    g.attachment? c = some ⟨e, o⟩ ↔
      (e ∈ g.elements ∧ e.isAttribute = true) ∧ g.Ties c e o := by
  constructor
  · intro h
    unfold attachment? at h
    split at h
    · next s t hends =>
      obtain ⟨⟨hs, hsource⟩, ht, htarget⟩ := (ends?_eq_some_iff hids).1 hends
      split at h
      · cases h
      split at h
      · next hboth =>
        cases h
        rw [Bool.and_eq_true] at hboth
        exact ⟨⟨hs, hboth.1⟩, mem_entities.2 ⟨ht, hboth.2⟩, .inl ⟨hsource.symm, htarget.symm⟩⟩
      split at h
      · next hboth =>
        cases h
        rw [Bool.and_eq_true] at hboth
        exact ⟨⟨ht, hboth.1⟩, mem_entities.2 ⟨hs, hboth.2⟩, .inr ⟨htarget.symm, hsource.symm⟩⟩
      · cases h
    · cases h
  · rintro ⟨⟨he, hattribute⟩, howner, hends⟩
    obtain ⟨ho, hentity⟩ := mem_entities.1 howner
    have hno := Element.isEntity_eq_false hattribute
    have hneither : o.isAttribute = false := by
      rw [Bool.eq_false_iff]
      intro h
      rw [Element.isEntity_eq_false h] at hentity
      cases hentity
    rcases hends with ⟨hsource, htarget⟩ | ⟨htarget, hsource⟩
    · rw [attachment?, (ends?_eq_some_iff hids).2 ⟨⟨he, hsource.symm⟩, ho, htarget.symm⟩]
      simp only [hno, hentity, hattribute, Bool.false_and, Bool.and_self, Bool.false_eq_true,
        if_false, if_true]
    · rw [attachment?, (ends?_eq_some_iff hids).2 ⟨⟨ho, hsource.symm⟩, he, htarget.symm⟩]
      simp only [hno, hentity, hattribute, hneither, Bool.and_false, Bool.and_self,
        Bool.false_eq_true, if_false, if_true]

theorem spares_iff (hids : (g.elements.map (·.id)).Nodup) {e o : Element}
    (he : e ∈ g.elements ∧ e.isAttribute = true) :
    g.Spares c ⟨e, o⟩ ↔ ∀ o', ¬ g.Ties c e o' := by
  constructor
  · intro h o' hties
    exact h ⟨e, o'⟩ ((attachment?_eq_some_iff hids).2 ⟨he, hties⟩) rfl
  · rintro h ⟨e', o'⟩ hdrawn hid
    obtain ⟨he', hties⟩ := (attachment?_eq_some_iff hids).1 hdrawn
    cases List.inj_on_of_nodup_map hids he'.1 he.1 hid
    exact h o' hties

/-- **The first attachment that is drawn for an attribute is that of its first connection.** -/
theorem draws_iff (hids : (g.elements.map (·.id)).Nodup) {e o : Element} :
    g.Draws g.connections i ⟨e, o⟩ ↔
      (e ∈ g.elements ∧ e.isAttribute = true) ∧ g.IsFirstTie e i o := by
  constructor
  · rintro ⟨⟨c, hc, hdrawn⟩, hfirst⟩
    obtain ⟨he, hties⟩ := (attachment?_eq_some_iff hids).1 hdrawn
    exact ⟨he, ⟨c, hc, hties⟩, fun j c' hj hc' => (spares_iff hids he).1 (hfirst j c' hj hc')⟩
  · rintro ⟨he, ⟨c, hc, hties⟩, hfirst⟩
    exact ⟨⟨c, hc, (attachment?_eq_some_iff hids).2 ⟨he, hties⟩⟩,
      fun j c' hj hc' => (spares_iff hids he).2 (hfirst j c' hj hc')⟩

/-! ## The attributes of a name

What is attached in the end is split again by names, and within a name by how it was attached. -/

/-- Where ids are distinct, what connections add are the attributes without a parent. -/
theorem Adds.mem_iff_of_parented (hids : (g.elements.map (·.id)).Nodup)
    (h : g.Adds g.parented g.connections new) {e o : Element} :
    ⟨e, o⟩ ∈ new ↔ (e ∈ g.elements ∧ e.isAttribute = true) ∧
      (∀ o', ¬ g.IsParent e o') ∧ ∃ i, g.IsFirstTie e i o := by
  have hparent : ∀ {e : Element}, e ∈ g.elements ∧ e.isAttribute = true →
      ((∀ k ∈ g.parented, k.part.id ≠ e.id) ↔ ∀ o', ¬ g.IsParent e o') := by
    intro e he
    constructor
    · exact fun hk o' ho' => hk ⟨e, o'⟩ ((mem_parented_iff hids).2 ⟨he, ho'⟩) rfl
    · rintro hnone ⟨e', o'⟩ hk hid
      obtain ⟨he', ho'⟩ := (mem_parented_iff hids).1 hk
      cases List.inj_on_of_nodup_map hids he'.1 he.1 hid
      exact hnone o' ho'
  rw [h.mem_iff]
  simp only [draws_iff hids, exists_and_left]
  constructor
  · rintro ⟨hk, he, htie⟩
    exact ⟨he, (hparent he).1 hk, htie⟩
  · rintro ⟨he, hnone, htie⟩
    exact ⟨(hparent he).2 hnone, he, htie⟩

/-- **What is attached in the end is what belongs together.** An attribute has a parent or has
none, and this decides in which of the two lists it is looked for. -/
theorem Adds.mem_append_iff (hids : (g.elements.map (·.id)).Nodup)
    (h : g.Adds g.parented g.connections new) {e o : Element} :
    ⟨e, o⟩ ∈ g.parented ++ new ↔
      (e ∈ g.elements ∧ e.isAttribute = true) ∧ g.BelongsTo e o := by
  rw [List.mem_append, mem_parented_iff hids, h.mem_iff_of_parented hids, ← and_or_left]
  refine and_congr_right fun _ => ⟨?_, ?_⟩
  · rintro (hparent | ⟨hnone, i, htie⟩)
    · exact .parent hparent
    · exact .connection i hnone htie
  · rintro (hparent | ⟨i, hnone, htie⟩)
    · exact .inl hparent
    · exact .inr ⟨hnone, i, htie⟩

theorem BelongsTo.mem_entities {e o : Element} (h : g.BelongsTo e o) : o ∈ g.entities := by
  rcases h with h | ⟨_, _, ⟨_, _, h⟩, _⟩
  · exact h.1
  · exact h.1

/-- No attribute is attached twice. -/
theorem Adds.nodup_parts (hids : (g.elements.map (·.id)).Nodup)
    (h : g.Adds g.parented g.connections new) :
    ((g.parented ++ new).map (·.part)).Nodup := by
  rw [List.map_append]
  refine List.nodup_append.2 ⟨hids.of_map.sublist (parts_parented_sublist g), ?_, ?_⟩
  · exact List.pairwise_map.2 (h.order.imp fun hab heq => hab.ne (congrArg Element.id heq))
  · intro e he e' he' heq
    obtain ⟨k, hk, rfl⟩ := List.mem_map.1 he
    obtain ⟨a, ha, rfl⟩ := List.mem_map.1 he'
    exact ((h.mem_iff a).1 ha).1 k hk (congrArg Element.id heq)

/-- The attributes that are attached to entities of a name. -/
def partsOf (name : String) (l : List Attachment) : List Element :=
  (l.filter fun a => a.owner.entityName == name).map (·.part)

theorem mem_partsOf {name : String} {l : List Attachment} {e : Element} :
    e ∈ partsOf name l ↔ ∃ o, ⟨e, o⟩ ∈ l ∧ o.entityName = name := by
  simp only [partsOf, List.mem_map, List.mem_filter, beq_iff_eq]
  constructor
  · rintro ⟨⟨e', o⟩, h, rfl⟩
    exact ⟨o, h⟩
  · rintro ⟨o, h⟩
    exact ⟨⟨e, o⟩, h, rfl⟩

theorem attributesOf_eq (g : Graph) (name : String) :
    g.attributesOf name = (partsOf name g.attachments).map Element.toAttribute := by
  rw [partsOf, List.map_map]
  rfl

/-- Names share no attribute that is attached once. -/
theorem nodup_flatMap_partsOf {names : List String} (hnames : names.Nodup) {l : List Attachment}
    (hl : (l.map (·.part)).Nodup) : (names.flatMap fun name => partsOf name l).Nodup := by
  refine List.nodup_flatMap.2 ⟨fun name _ => hl.sublist (List.filter_sublist.map _), ?_⟩
  refine hnames.imp fun {name name'} hne e he he' => hne ?_
  obtain ⟨o, ho, rfl⟩ := mem_partsOf.1 he
  obtain ⟨o', ho', rfl⟩ := mem_partsOf.1 he'
  cases List.inj_on_of_nodup_map hl ho ho' rfl
  rfl

/-- **What is attached by parents and by connections are the attributes of a name**, in order.
Each field of `Collects` is about one of the two lists, and is read off the lemma for this list. -/
theorem collects_partsOf (hids : (g.elements.map (·.id)).Nodup)
    (h : g.Adds g.parented g.connections new) (name : String) :
    g.Collects name (partsOf name g.parented) (partsOf name new) where
  mem_own e := by
    simp only [mem_partsOf, mem_parented_iff hids, and_assoc, exists_and_left]
  own_order := (List.filter_sublist.map _).trans (parts_parented_sublist g)
  mem_linked e := by
    simp only [mem_partsOf, h.mem_iff_of_parented hids]
    constructor
    · rintro ⟨o, ⟨he, hnone, i, htie⟩, hname⟩
      exact ⟨he, hnone, i, o, htie, hname⟩
    · rintro ⟨he, hnone, i, o, htie, hname⟩
      exact ⟨o, ⟨he, hnone, i, htie⟩, hname⟩
  linked_order := by
    refine List.pairwise_map.2 ((h.order.sublist List.filter_sublist).imp ?_)
    rintro ⟨e, o⟩ ⟨e', o'⟩ ⟨i, i', hi, hi', hlt⟩
    exact ⟨i, o, i', o', ((draws_iff hids).1 hi).2, ((draws_iff hids).1 hi').2, hlt⟩

/-- The outline has the attributes of each name. -/
theorem get?_entities_outline {o : Outline} (h : g.outline? = some o) {name : String}
    (hname : name ∈ o.entities.keys) : o.entities.get? name = some (g.attributesOf name) := by
  obtain ⟨v, hv⟩ := OrderedMap.exists_get?_of_mem_keys hname
  have hentry := OrderedMap.mem_entries_of_get?_eq_some hv
  unfold outline? at h
  split at h
  · cases h
  cases h
  obtain ⟨e, _, he⟩ := List.mem_map.1 (OrderedMap.mem_of_mem_entries_ofList hentry)
  cases he
  exact hv

/-- **Every attribute is attached once, and to the right entity.** Let the ids of a graph be
distinct and one of its elements be an entity. Then it has an outline, whose entities have the
names of its entities. The attributes of a name are those whose parent has it, in the order of the
elements, and then those without a parent whose first connection with an entity joins them with
one of that name, in the order of these connections. Over all names no attribute stands twice, and
one is missing exactly if it belongs to no entity: if neither its parent is one nor any connection
joins it with one.

The lists `own` and `linked` have elements and not attributes, as two elements may be the same
attribute, of the same name and type, and would otherwise not be told apart. -/
theorem collects_outline (hids : (g.elements.map (·.id)).Nodup) (hne : g.entities ≠ []) :
    ∃ outline, g.outline? = some outline ∧
      (∀ name, name ∈ outline.entities.keys ↔ ∃ e ∈ g.entities, e.entityName = name) ∧
      ∃ own linked : String → List Element,
        (∀ name ∈ outline.entities.keys,
          outline.entities.get? name
              = some ((own name ++ linked name).map Element.toAttribute) ∧
            g.Collects name (own name) (linked name)) ∧
        (outline.entities.keys.flatMap fun name => own name ++ linked name).Nodup ∧
        ∀ e ∈ g.elements, e.isAttribute = true →
          ((∀ name ∈ outline.entities.keys, e ∉ own name ++ linked name) ↔
            ∀ o, ¬ g.BelongsTo e o) := by
  obtain ⟨new, hnew, hadds⟩ := exists_connected_eq g g.parented g.connections
  replace hnew : g.attachments = g.parented ++ new := hnew
  have hparts : ∀ name, partsOf name g.parented ++ partsOf name new
      = partsOf name g.attachments := fun name => by
    rw [hnew, partsOf, partsOf, partsOf, List.filter_append, List.map_append]
  have houtline : ∃ outline, g.outline? = some outline :=
    ⟨_, if_neg (mt List.isEmpty_iff.1 hne)⟩
  obtain ⟨outline, houtline⟩ := houtline
  have hkeys := mem_keys_outline houtline
  refine ⟨outline, houtline, hkeys, fun name => partsOf name g.parented,
    fun name => partsOf name new, fun name hname => ⟨?_, collects_partsOf hids hadds name⟩, ?_, ?_⟩
  · rw [hparts, get?_entities_outline houtline hname, attributesOf_eq]
  · simp only [hparts]
    exact nodup_flatMap_partsOf outline.entities.nodup_keys (hnew ▸ hadds.nodup_parts hids)
  · intro e he hattribute
    simp only [hparts, mem_partsOf, hnew, hadds.mem_append_iff hids]
    constructor
    · intro hmissing o hbelongs
      exact hmissing o.entityName ((hkeys _).2 ⟨o, hbelongs.mem_entities, rfl⟩)
        ⟨o, ⟨⟨he, hattribute⟩, hbelongs⟩, rfl⟩
    · rintro hnone name _ ⟨o, ⟨_, hbelongs⟩, _⟩
      exact hnone o hbelongs

/-- Attributes that name one entity and are connected with another, that are connected several times
and in both directions, with elements that do not exist and with each other, and one with nothing;
and two entities of the same name. -/
def crossing : Graph where
  elements := [{ id := "z", type := "attribute", name := "z", parent := some "gone" },
    { id := "a", name := "A" },
    { id := "x", type := "ATTRIBUTE", name := "x", parent := some "a" },
    { id := "y", type := "attribute", name := "y", parent := some "x" },
    { id := "b", type := "Weak-Entity", name := "B" }, { id := "a2", name := "A" },
    { id := "w", type := "attribute", name := "w" }]
  connections := [{ source := "x", target := "b" }, { source := "y", target := "gone" },
    { source := "y", target := "z" }, { source := "a2", target := "y" },
    { source := "y", target := "b" }, { source := "a", target := "y" },
    { source := "z", target := "b" }, { source := "a", target := "b" }]

theorem collects_outline_crossing :
    (crossing.elements.map (·.id)).Nodup ∧ crossing.entities ≠ [] ∧
      ∃ own linked : String → List Element,
        crossing.Collects "A" (own "A") (linked "A") ∧
        (own "A" ++ linked "A").map (·.name) = ["x", "y"] ∧
        crossing.Collects "B" (own "B") (linked "B") ∧
        (own "B" ++ linked "B").map (·.name) = ["z"] := by
  have hids : (crossing.elements.map (·.id)).Nodup := by decide
  have hne : crossing.entities ≠ [] := by decide
  obtain ⟨outline, houtline, hkeys, own, linked, hlists, -⟩ := collects_outline hids hne
  have hread : ∀ name attributes,
      (crossing.outline?.bind fun o => o.entities.get? name) = some attributes →
      crossing.Collects name (own name) (linked name) ∧
        (own name ++ linked name).map (·.name) = attributes.map (·.name) := by
    intro name attributes h
    rw [houtline, Option.bind_some] at h
    obtain ⟨hget, hcollects⟩ := hlists name (OrderedMap.mem_keys_of_get?_eq_some h)
    rw [hget, Option.some.injEq] at h
    rw [← h, List.map_map]
    exact ⟨hcollects, rfl⟩
  have hA := hread "A" [{ name := "x" }, { name := "y" }] (by decide +kernel)
  have hB := hread "B" [{ name := "z" }] (by decide +kernel)
  exact ⟨hids, hne, own, linked, hA.1, hA.2, hB.1, hB.2⟩

end Graph

end ErDiagram.Canvas
