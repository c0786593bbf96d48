import ErDiagram.Proofs.Document.RoundTrip
import ErDiagram.Proofs.Document.Torn

/-!
# Which documents can be read again

That a written document is read back takes attributes that are written so that they can be read:
with a flag, without any type, or with a type that is a word and flags. Nothing less will do. A
type that is some other text, or nothing but blanks, stops the reader wherever it stands, since
every pair of a document that was written is looked at. Where the names at the ends of the
relationships may have a line feed behind them, the lines must stay whole as well. So whether a
document can be read again is decided by its attributes and by these names.

To be read is not to be read as the same. A mapping says all of an attribute, but the text of a
bare type is cut into words, so that without a flag only a type that is one word comes back as it
was.

The conditions are equivalences, and each has two proofs. That they are enough follows what is
read; that they are necessary goes back from a result through the readers, each of which has read
its parts. On both sides the reader of YAML is a parameter, and the hypothesis about it is that it
finds in this one text what was written.
-/

namespace ErDiagram

open Yaml Text

/-- Whether an attribute can be read is seen from its flags and the words of its type. -/
instance (a : Attribute) : Decidable a.IsReadable :=
  decidable_of_iff (a.flags = [] → a.dataType = "" ∨ words a.dataType.toList ≠ [] ∧
      (Line.flagsOf ((words a.dataType.toList).tail.map String.ofList)).isOk = true) (by
    refine imp_congr_right fun _ => or_congr_right ?_
    constructor
    · rintro ⟨hne, hok⟩
      obtain ⟨w, ws, hwords⟩ := List.exists_cons_of_ne_nil hne
      obtain ⟨flags, hflags⟩ := Except.exists_eq_ok_of_isOk hok
      exact ⟨w, ws, flags, hwords, by rw [hwords] at hflags; exact hflags⟩
    · rintro ⟨w, ws, flags, hwords, hflags⟩
      rw [hwords]
      exact ⟨List.cons_ne_nil w ws, by rw [List.tail_cons, hflags]; rfl⟩)

namespace Document

/-- **An attribute that is read was readable.** -/
theorem isReadable_of_attributeOfNode {a a' : Attribute} {n : Node}
    (hn : n.means a.toValue = true) (h : attributeOfNode a.name n = .ok a') : a.IsReadable := by
  intro hflags
  by_cases he : a.dataType = ""
  · exact .inl he
  rw [Attribute.toValue, hflags, if_pos List.isEmpty_nil, Node.means_text] at hn
  have htype : typeText n = a.dataType := by
    rw [typeText, Node.text?_of_isText hn]
    exact if_neg (mt String.isEmpty_iff.1 he)
  obtain ⟨style, line, rfl⟩ := Node.isText_iff.1 hn
  have htext : attributeOfText a.name (typeText (.scalar Tag.str style a.dataType line)) _
      = .ok a' := h
  rw [htype] at htext
  obtain ⟨w, ws, flags, hwords, hread, _⟩ := Attribute.attributeOfText_eq_ok_iff.1 htext
  exact .inr ⟨w, ws, flags, hwords, hread⟩

/-! ## Attributes that are read as themselves -/

theorem dataType_assign (a : Attribute) (f : Flag) (b : Bool) :
    (a.assign f b).dataType = a.dataType := by
  cases f <;> rfl

/-- Flags do not change the type. -/
theorem dataType_ofFlags (name dataType : String) (flags : List Flag) :
    (Attribute.ofFlags name dataType flags).dataType = dataType :=
  List.foldlRecOn (motive := fun a : Attribute => a.dataType = dataType) flags
    (fun a f => a.assign f true) rfl fun a h f _ => (dataType_assign a f true).trans h

/-- Whatever is read of a bare text has a type of one word. -/
theorem isWord_of_attributeOfText {name text : String} {line : Nat} {a : Attribute}
    (h : attributeOfText name text line = .ok a) : IsWord a.dataType.toList := by
  obtain ⟨w, ws, flags, hwords, _, rfl⟩ := Attribute.attributeOfText_eq_ok_iff.1 h
  rw [dataType_ofFlags, String.toList_ofList]
  exact isWord_of_mem_words (hwords ▸ List.mem_cons_self)

/-- **An attribute is read back as itself exactly if it has a flag or a type of one word.** It is
read back at all exactly if it is readable, so that an attribute without flags whose type is
empty, is padded with blanks or has flag words in it comes back as another one, without an error.
The node is any that says the value of the attribute. -/
theorem attributeOfNode_toValue_iff {a : Attribute} {n : Node} (hn : n.means a.toValue = true) :
    (attributeOfNode a.name n = .ok a ↔ a.flags ≠ [] ∨ IsWord a.dataType.toList) ∧
      ((∃ a', attributeOfNode a.name n = .ok a') ↔ a.IsReadable) := by
  refine ⟨⟨fun h => ?_, fun h => ?_⟩, ⟨fun ⟨a', h⟩ => ?_, fun h => ?_⟩⟩
  · refine or_iff_not_imp_left.2 fun hflags => ?_
    rw [not_not] at hflags
    -- without flags the node is a scalar, whose text is read as words
    rw [Attribute.toValue, hflags, if_pos List.isEmpty_nil, Node.means_text] at hn
    obtain ⟨style, line, rfl⟩ := Node.isText_iff.1 hn
    exact isWord_of_attributeOfText h
  · by_cases hflags : a.flags = []
    · exact Attribute.readsAs_of_isWord hflags (h.resolve_left (not_not.2 hflags)) n hn
    · exact Attribute.readsAs_of_flags hflags n hn
  · exact isReadable_of_attributeOfNode hn h
  · obtain ⟨a', ha'⟩ := h.exists_readsAs
    exact ⟨a', ha' n hn⟩

/-- A type of several words, one of them a flag, is safe beside a flag that is set. -/
theorem attributeOfNode_toValue_iff_flagged :
    let a : Attribute := { name := "", dataType := " int PK ", derived := true }
    let n : Node := .mapping Tag.map [(.scalar Tag.str .plain "type" 3,
        .scalar Tag.str .singleQuoted " int PK " 3),
      (.scalar Tag.str .plain "derived" 4, .scalar Tag.bool .plain "true" 4)] 3
    n.means a.toValue = true ∧ attributeOfNode "" n = .ok a := by
  intro a n
  have hn : n.means a.toValue = true := by decide
  exact ⟨hn, (attributeOfNode_toValue_iff hn).1.2 (.inl (by decide))⟩

/-- Types that are written bare and not read as they were, each with what is read instead. -/
def bareTypes : List (String × Except ReadingError Attribute) :=
  [("int PK", .ok { name := "x", dataType := "int", primaryKey := true }),
    ("", .ok { name := "x", dataType := "string" }),
    (" int", .ok { name := "x", dataType := "int" }),
    ("int unsigned", .error (.invalid ⟨.unknownFlag "UNSIGNED", 1⟩)),
    (" ", .error .missingType)]

/-- **Not every attribute is read back as itself**: a bare type may turn into a type and flags, or
into an error. -/
theorem not_attributeOfNode_toValue :
    (∀ p ∈ bareTypes, attributeOfNode "x" (.scalar Tag.str .singleQuoted p.1 0) = p.2) ∧
      ¬ ∀ (a : Attribute) (n : Node), n.means a.toValue = true →
        attributeOfNode a.name n = .ok a := by
  have hread : ∀ p ∈ bareTypes,
      attributeOfNode "x" (.scalar Tag.str .singleQuoted p.1 0) = p.2 := by
    decide
  refine ⟨hread, fun h => ?_⟩
  have hback := h { name := "x", dataType := "int PK" }
    (.scalar Tag.str .singleQuoted "int PK" 0) (by decide)
  have hkey := hread _ List.mem_cons_self
  exact absurd (hback.symm.trans hkey) (by decide)

/-! ## Attributes that are read -/

theorem isReadable_of_addAttributePairs {entity : String} {d d' : Diagram} {l : List Attribute}
    {pairs : List (Node × Node)}
    (hp : Node.meansPairs (l.map fun a => (a.name, a.toValue)) pairs = true)
    (h : addAttributePairs entity d pairs = .ok d') : ∀ a ∈ l, a.IsReadable := by
  induction l generalizing d pairs with
  | nil => exact nofun
  | cons a l ih =>
    obtain ⟨k, v, more, rfl, hk, hv, hmore⟩ := Node.exists_of_meansPairs_cons hp
    rw [addAttributePairs, Node.text?_of_isText hk] at h
    dsimp only at h
    split at h
    · cases h
    · next ha =>
      exact List.forall_mem_cons.2 ⟨isReadable_of_attributeOfNode hv ha, ih hmore h⟩

theorem isReadable_of_addAttributes {entity : String} {d d' : Diagram} {l : List Attribute}
    {n : Node} (hn : n.means (Outline.attributesValue l) = true)
    (h : addAttributes entity d n = .ok d') : ∀ a ∈ Attribute.written l, a.IsReadable := by
  rw [Attribute.attributesValue_eq] at hn
  obtain ⟨tag, pairs, line, rfl, hp⟩ := Node.exists_of_means_map hn
  exact isReadable_of_addAttributePairs hp h

/-- Options with attributes are read by reading the attributes, weak or not. -/
theorem exists_addAttributes_of_addOptions {entity : String} {d d' : Diagram}
    {pairs : List (Node × Node)} {n : Node} (hn : option? pairs "attributes" = some n)
    (h : addOptions entity d pairs = .ok d') :
    ∃ d₁, addAttributes entity d₁ n = .ok d' := by
  unfold addOptions at h
  rw [hn] at h
  cases hw : weakOption? pairs with
  | error e =>
    rw [hw] at h
    cases h
  | ok w =>
    rw [hw] at h
    cases w with
    | none => exact ⟨d, h⟩
    | some weak => exact ⟨d.modifyEntity entity ({ · with weak }), h⟩

/-- **An entity that is read has readable attributes.** -/
theorem isReadable_of_addEntity {d d' : Diagram} {name : String} {l : List Attribute}
    {weak : Bool} {k v : Node} (hk : k.isText name = true)
    (hv : v.means (Outline.entityValue l weak) = true) (h : addEntity d k v = .ok d') :
    ∀ a ∈ Attribute.written l, a.IsReadable := by
  cases l with
  | nil => exact nofun
  | cons a l =>
    -- the mapping has an option for the attributes, with or without one before it
    have hoption : ∃ tag pairs line n, v = .mapping tag pairs line ∧
        option? pairs "attributes" = some n ∧
        n.means (Outline.attributesValue (a :: l)) = true := by
      cases weak with
      | false =>
        obtain ⟨tag, pairs, line, rfl, hp⟩ := Node.exists_of_means_map hv
        obtain ⟨k, v, more, rfl, hk, hlist, hmore⟩ := Node.exists_of_meansPairs_cons hp
        cases Node.eq_nil_of_meansPairs hmore
        exact ⟨tag, _, line, v, rfl, option?_cons hk [] _, hlist⟩
      | true =>
        obtain ⟨tag, pairs, line, rfl, hp⟩ := Node.exists_of_means_map hv
        obtain ⟨k, v, more, rfl, hk, _, hmore⟩ := Node.exists_of_meansPairs_cons hp
        obtain ⟨k', v', more, rfl, hk', hlist, hmore⟩ := Node.exists_of_meansPairs_cons hmore
        cases Node.eq_nil_of_meansPairs hmore
        refine ⟨tag, _, line, v', rfl, ?_, hlist⟩
        rw [option?_cons hk, option?_cons hk']
        rfl
    obtain ⟨tag, pairs, line, n, rfl, hn, hmeans⟩ := hoption
    rw [addEntity, Node.text?_of_isText hk] at h
    obtain ⟨d₁, hattributes⟩ := exists_addAttributes_of_addOptions hn h
    exact isReadable_of_addAttributes hmeans hattributes

theorem isReadable_of_addEntityPairs {d d' : Diagram} {l : List Entity}
    {pairs : List (Node × Node)}
    (hp : Node.meansPairs (l.map fun e => (e.name, Outline.entityValue e.attributes e.weak)) pairs
      = true)
    (h : addEntityPairs d pairs = .ok d') :
    ∀ e ∈ l, ∀ a ∈ Attribute.written e.attributes, a.IsReadable := by
  induction l generalizing d pairs with
  | nil => exact nofun
  | cons e l ih =>
    obtain ⟨k, v, more, rfl, hk, hv, hmore⟩ := Node.exists_of_meansPairs_cons hp
    unfold addEntityPairs at h
    split at h
    · cases h
    · next he =>
      exact List.forall_mem_cons.2 ⟨isReadable_of_addEntity hk hv he, ih hmore h⟩

/-- Sections that are read have been read one after the other. -/
theorem exists_of_addStructured {source : Source} {k₁ v₁ k₂ v₂ k₃ v₃ : Node}
    {d : Diagram} (hk₁ : k₁.isText "title" = true) (hk₂ : k₂.isText "entities" = true)
    (hk₃ : k₃.isText "relationships" = true)
    (h : addStructured source {} [(k₁, v₁), (k₂, v₂), (k₃, v₃)] = .ok d) :
    ∃ d₀ d₁ d₂, addEntities d₀ v₂ = .ok d₁ ∧ addRelationships source d₁ v₃ = .ok d₂ := by
  have hentries : (sections [(k₁, v₁), (k₂, v₂), (k₃, v₃)]).entries = _ :=
    entries_sections hk₁ hk₂ hk₃
  have hvalue := sectionValue?_of_entries hentries
  have hentities : sectionValue? _ "entities" = some v₂ := hvalue "entities"
  have hrelationships : sectionValue? _ "relationships" = some v₃ := hvalue "relationships"
  unfold addStructured at h
  obtain ⟨d₁, h₁, h⟩ := Except.bind_eq_ok.1 h
  obtain ⟨d₂, h₂, _⟩ := Except.bind_eq_ok.1 h
  unfold addSection at h₁ h₂
  rw [hentities] at h₁
  rw [hrelationships] at h₂
  exact ⟨_, d₁, d₂, h₁, h₂⟩

/-- **The sections of a diagram are read exactly if its attributes are readable and its
relationship lines stay whole.** Names of entities may be any texts here, since they stand in the
document as keys. -/
theorem exists_addStructured_iff (source : Source) {d : Diagram}
    (hnodup : d.entityNames.Nodup) (hfit : ∀ r ∈ d.relationships, r.IsFit) {title : String}
    {pairs : List (Node × Node)}
    (hp : Node.meansPairs [("title", .text title),
      ("entities", .map (d.entities.map fun e =>
        (e.name, Outline.entityValue e.attributes e.weak))),
      ("relationships", .texts (d.relationships.map (·.text)))] pairs = true) :
    (∃ d', addStructured source {} pairs = .ok d') ↔
      (∀ e ∈ d.entities, ∀ a ∈ Attribute.written e.attributes, a.IsReadable) ∧
        ∀ r ∈ d.relationships, r.IsWhole := by
  obtain ⟨k₁, v₁, more, rfl, hk₁, hv₁, hmore⟩ := Node.exists_of_meansPairs_cons hp
  obtain ⟨k₂, v₂, more, rfl, hk₂, hv₂, hmore⟩ := Node.exists_of_meansPairs_cons hmore
  obtain ⟨k₃, v₃, more, rfl, hk₃, hv₃, hmore⟩ := Node.exists_of_meansPairs_cons hmore
  cases Node.eq_nil_of_meansPairs hmore
  rw [Node.means_text] at hv₁
  obtain ⟨tag, entityPairs, line, rfl, hentities⟩ := Node.exists_of_means_map hv₂
  obtain ⟨tag', nodes, line', rfl, hnodes⟩ := Node.exists_of_means_texts hv₃
  obtain ⟨numbered, hitems, htexts⟩ := exists_itemsOfList hnodes source.lines source.nesting
  have hlines := exists_addItems_iff hfit htexts
  rw [← hitems] at hlines
  constructor
  · rintro ⟨d', h⟩
    obtain ⟨_, d₁, d₂, h₁, h₂⟩ := exists_of_addStructured hk₁ hk₂ hk₃ h
    exact ⟨isReadable_of_addEntityPairs hentities h₁, (hlines d₁).1 ⟨d₂, h₂⟩⟩
  · rintro ⟨hreadable, hwhole⟩
    obtain ⟨es, hes⟩ := Entity.exists_readsAs hreadable
    have hread := addEntityPairs_of_meansPairs hes { title := some title } (by
      rw [Diagram.entityNames, List.map_nil, List.nil_append]
      exact hnodup) hentities
    obtain ⟨d', hadd⟩ := (hlines _).2 hwhole
    exact ⟨d', addStructured_of_sections hk₁ hk₂ hk₃ hv₁ hread hadd⟩

end Document

namespace Diagram

variable {d : Diagram} {compose : String → Except Failure (Option Node)}

/-- **A diagram is read again exactly if its attributes are readable**, as far as they are
written, **and its relationship lines stay whole**, whatever its names are, as long as the
entities have different ones and those that are related are identifiers, but for a line feed
behind them. That exception is there because such names pass for clean ones. -/
theorem exists_parseBy_text_iff (hnodup : d.entityNames.Nodup)
    (hfit : ∀ r ∈ d.relationships, r.IsFit) (hback : d.outline.isComposedBack compose = true) :
    (∃ d', parseBy compose d.outline.text = .ok d') ↔
      (∀ e ∈ d.entities, ∀ a ∈ Attribute.written e.attributes, a.IsReadable) ∧
        ∀ r ∈ d.relationships, r.IsWhole := by
  obtain ⟨n, hcompose, hsays⟩ := Outline.exists_of_isComposedBack hback
  have hparse : parseBy compose d.outline.text
      = Document.ofNode { lines := lines d.outline.text.toList } n := parseBy_text hcompose
  rw [hparse]
  by_cases hplain : d.outline.isPlain = true
  · -- a plain diagram has no attributes, and its lines are those of a block
    have hnone : ∀ e ∈ d.entities, ∀ a ∈ Attribute.written e.attributes, a.IsReadable := by
      intro e he a ha
      rw [((isPlain_outline hnodup).1 hplain e he).1] at ha
      cases ha
    have hform : d.outline.form = .block (Outline.titleOf d.title) (d.relationships.map (·.text)) :=
      if_pos hplain
    rw [hform, Form.value] at hsays
    obtain ⟨tag, nodes, line, rfl, hpairs⟩ := Node.exists_of_means_map hsays
    obtain ⟨k₁, v₁, more, rfl, hk₁, hv₁, hmore⟩ := Node.exists_of_meansPairs_cons hpairs
    obtain ⟨k₂, v₂, more, rfl, hk₂, hv₂, hmore⟩ := Node.exists_of_meansPairs_cons hmore
    cases Node.eq_nil_of_meansPairs hmore
    rw [Node.means_text] at hv₁ hv₂
    have htexts := Document.map_text_scalarLines_join hv₂ (lines d.outline.text.toList)
    rw [and_iff_right hnone, ← Document.exists_readLines_iff hfit htexts
      { title := some (Outline.titleOf d.title) }]
    refine exists_congr fun d' => ?_
    show Document.ofPairs _ [(k₁, v₁), (k₂, v₂)] = _ ↔ _
    rw [Document.ofPairs_block hk₁ hv₁ hk₂ hv₂, ReadingError.ofSyntax, Except.mapError_eq_ok]
  · rw [form_outline hnodup (eq_false_of_ne_true hplain)] at hsays
    obtain ⟨k, tag, pairs, line, tag', line', rfl, hk, hp⟩ := exists_of_means_structured hsays
    rw [← Document.exists_addStructured_iff { lines := lines d.outline.text.toList } hnodup hfit hp]
    refine exists_congr fun d' => ?_
    show Document.ofPairs _ [(k, .mapping tag pairs line)] = _ ↔ _
    rw [Document.ofPairs_structured hk]

end Diagram

end ErDiagram
