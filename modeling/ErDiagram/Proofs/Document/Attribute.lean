import ErDiagram.Document.Entities
import ErDiagram.Proofs.OrderedMap
import ErDiagram.Proofs.Record.Field
import ErDiagram.Proofs.Text.Words
import ErDiagram.Proofs.Yaml.Meaning

/-!
# Attributes are read back

An attribute with a flag is written as a mapping, and one without any as the text of its type. The
mapping holds all that there is to say, so that it is read back as the same attribute whatever its
name and its type are. The text of a type is read as words, of which the first is the type and the
others are flags, so that a type of one word is read back as it was.

What is written is a value, and what is read is a node. The two are compared by `Node.means`,
which leaves open how a value was spelled and on which line it stands, and all statements here are
about every node that says a value. So they do not depend on how a value is turned into text.

A mapping is read by way of a record, and a record is known by its fields. The record that comes
of a mapping is compared with the one that an attribute should have field by field, which is where
it is used that no two flags have one field.
-/

namespace ErDiagram

open Yaml Text

namespace Attribute

/-- **An attribute is read back as another one** from every node that says its value. Being read
back as itself is the case that one hopes for, but not the only one, so that the relation has both
attributes. -/
def ReadsAs (a a' : Attribute) : Prop :=
  ∀ n : Node, n.means a.toValue = true → Document.attributeOfNode a.name n = .ok a'

/-! ## Attributes with flags

A mapping is read into a record, pair by pair, and the record into an attribute, field by field.
The record is described by what is found in it, so that the order of its fields does not matter. -/

theorem mem_flags {a : Attribute} {f : Flag} : f ∈ a.flags ↔ a.has f = true := by
  rw [flags, List.mem_filter]
  refine ⟨And.right, fun h => ⟨?_, h⟩⟩
  cases f <;> decide

theorem field_injective : Function.Injective Flag.field := by
  intro f g h
  cases f <;> cases g <;> first | rfl | exact absurd h (by decide)

/-- The record that a mapping for an attribute is read into: its name and its type, and then each
flag that is set. -/
def flaggedRecord (a : Attribute) : Record :=
  a.flags.foldl (fun r f => r.set f.field (.bool true))
    [("name", .str a.name), ("type", .str a.dataType)]

theorem get?_foldl_set (fs : List Flag) (r : Record) (name : String) :
    (fs.foldl (fun r f => r.set f.field (.bool true)) r).get? name
      = if name ∈ fs.map Flag.field then some (.bool true) else r.get? name := by
  induction fs generalizing r with
  | nil => rfl
  | cons f fs ih =>
    rw [List.foldl_cons, ih, Record.get?_set, List.map_cons]
    by_cases hmem : name ∈ fs.map Flag.field
    · rw [if_pos hmem, if_pos (List.mem_cons_of_mem _ hmem)]
    · rw [if_neg hmem]
      simp only [List.mem_cons, hmem, or_false]

/-- Each flag stands in the record if it is set. -/
theorem get?_flaggedRecord_field (a : Attribute) (f : Flag) :
    a.flaggedRecord.get? f.field = if a.has f then some (.bool true) else none := by
  have hbase : Record.get? [("name", .str a.name), ("type", .str a.dataType)] f.field = none := by
    cases f <;> rfl
  rw [flaggedRecord, get?_foldl_set, hbase]
  simp only [List.mem_map, mem_flags, field_injective.eq_iff, exists_eq_right]

/-- What is no flag is the name or the type. -/
theorem get?_flaggedRecord (a : Attribute) {name : String} (h : ∀ f, name ≠ Flag.field f) :
    a.flaggedRecord.get? name
      = Record.get? [("name", .str a.name), ("type", .str a.dataType)] name := by
  rw [flaggedRecord, get?_foldl_set, if_neg]
  intro hmem
  obtain ⟨f, _, rfl⟩ := List.mem_map.1 hmem
  exact h f rfl

/-- The record under the proper names of its fields. -/
theorem get?_rename_flaggedRecord (a : Attribute) (name : String) :
    (a.flaggedRecord.rename fieldNames).get? name
      = if name = "data_type" then some (.str a.dataType)
        else if name = "type" then none else a.flaggedRecord.get? name := by
  refine Record.get?_rename_cons ?_ ?_ (by decide) ?_ name
  · exact get?_flaggedRecord a fun f => by cases f <;> decide
  · exact get?_flaggedRecord a fun f => by cases f <;> decide
  · -- none of the other names is a field of the record
    intro p hp
    have hother : (∀ f ∈ Flag.all, p.1 ≠ f.field) ∧ p.1 ≠ "name" ∧ p.1 ≠ "type"
        ∧ p.1 ≠ "data_type" := by
      revert p
      decide
    obtain ⟨hfield, hname, htype, hnew⟩ := hother
    refine ⟨?_, hnew⟩
    rw [get?_flaggedRecord a fun f => hfield f (by cases f <;> decide), Record.get?_cons,
      if_neg hname, Record.get?_cons, if_neg htype]
    rfl

theorem optional_flag (a : Attribute) (f : Flag) :
    (a.flaggedRecord.rename fieldNames).optional f.field false Record.bool = .ok (a.has f) := by
  have hget : (a.flaggedRecord.rename fieldNames).get? f.field
      = if a.has f then some (.bool true) else none := by
    rw [get?_rename_flaggedRecord, if_neg (by cases f <;> decide),
      if_neg (by cases f <;> decide), get?_flaggedRecord_field]
  rw [Record.optional, hget]
  cases a.has f <;> rfl

/-- **The record of an attribute holds the attribute.** -/
theorem ofRecord_flaggedRecord (a : Attribute) : ofRecord a.flaggedRecord = .ok a := by
  have hname : (a.flaggedRecord.rename fieldNames).required "name" Record.string
      = .ok a.name := by
    rw [Record.required, get?_rename_flaggedRecord, if_neg (by decide), if_neg (by decide),
      get?_flaggedRecord a fun f => by cases f <;> decide]
    rfl
  have htype : (a.flaggedRecord.rename fieldNames).optional "data_type" "string" Record.string
      = .ok a.dataType := by
    rw [Record.optional, get?_rename_flaggedRecord, if_pos rfl]
    rfl
  unfold ofRecord
  dsimp only
  rw [hname, htype]
  show Attribute.mk <$> .ok a.name <*> .ok a.dataType
    <*> Record.optional _ Flag.primaryKey.field false Record.bool
    <*> Record.optional _ Flag.required.field false Record.bool
    <*> Record.optional _ Flag.multivalued.field false Record.bool
    <*> Record.optional _ Flag.derived.field false Record.bool
    <*> Record.optional _ Flag.composite.field false Record.bool = .ok a
  simp only [optional_flag]
  rfl

/-- What one pair of a mapping adds to the record. -/
def addField (r : Record) (p : Node × Node) : Record :=
  match p.1.text?, p.2.text? with
  | some key, some value =>
    r.set key (if p.2.tagged "bool" then .bool (Document.isTrue value) else .str value)
  | _, _ => r

theorem attributeRecord_eq_foldl (name : Option String) (pairs : List (Node × Node)) :
    Document.attributeRecord name pairs = pairs.foldl addField [("name", .ofString? name)] := rfl

theorem addField_of_isText {k v : Node} {key s : String} (hk : k.isText key = true)
    (hv : v.isText s = true) (r : Record) : addField r (k, v) = r.set key (.str s) := by
  unfold addField
  dsimp only
  rw [Node.text?_of_isText hk, Node.text?_of_isText hv, Node.tagged_bool_of_isText hv]
  rfl

theorem addField_of_means_true {k v : Node} {key : String} (hk : k.isText key = true)
    (hv : v.means (.bool true) = true) (r : Record) :
    addField r (k, v) = r.set key (.bool true) := by
  obtain ⟨htext, htag⟩ := Node.text?_of_means_true hv
  unfold addField
  dsimp only
  rw [Node.text?_of_isText hk, htext, htag]
  have htrue : Document.isTrue "true" = true := by decide
  dsimp only
  rw [htrue]
  rfl

theorem foldl_addField_of_flags {fs : List Flag} {pairs : List (Node × Node)}
    (h : Node.meansPairs (fs.map fun f => (f.field, .bool true)) pairs = true) (r : Record) :
    pairs.foldl addField r = fs.foldl (fun r f => r.set f.field (.bool true)) r := by
  induction fs generalizing r pairs with
  | nil =>
    rw [Node.eq_nil_of_meansPairs h]
    rfl
  | cons f fs ih =>
    obtain ⟨k, v, more, rfl, hk, hv, hmore⟩ := Node.exists_of_meansPairs_cons h
    rw [List.foldl_cons, List.foldl_cons, addField_of_means_true hk hv, ih hmore]

/-- The pairs of a mapping for an attribute are read into its record. -/
theorem attributeRecord_of_meansPairs {a : Attribute} {pairs : List (Node × Node)}
    (h : Node.meansPairs (("type", .text a.dataType) :: a.flags.map fun f => (f.field, .bool true))
      pairs = true) :
    Document.attributeRecord (some a.name) pairs = a.flaggedRecord := by
  obtain ⟨k, v, more, rfl, hk, hv, hmore⟩ := Node.exists_of_meansPairs_cons h
  rw [Node.means_text] at hv
  have hset : Record.set [("name", .str a.name)] "type" (.str a.dataType)
      = [("name", .str a.name), ("type", .str a.dataType)] := by
    rw [Record.set, Record.has_eq_isSome, Record.get?_cons,
      if_neg (show "type" ≠ "name" by decide)]
    rfl
  rw [attributeRecord_eq_foldl, List.foldl_cons, addField_of_isText hk hv]
  show more.foldl addField (Record.set [("name", .str a.name)] "type" (.str a.dataType)) = _
  rw [hset]
  exact foldl_addField_of_flags hmore _

/-- **An attribute with a flag is read back as itself**, whatever its name and its type are. It is
written as a mapping, and a mapping has the type as a text of its own, which is not cut into
words. -/
theorem readsAs_of_flags {a : Attribute} (h : a.flags ≠ []) : a.ReadsAs a := by
  intro n hn
  rw [toValue, if_neg (by simpa using h)] at hn
  obtain ⟨tag, pairs, line, rfl, hpairs⟩ := Node.exists_of_means_map hn
  show Document.attributeOfNode.attributeOfPairs _ pairs _ = _
  -- the pairs add up to the record of the attribute, which holds it
  have hrecord := attributeRecord_of_meansPairs (a := a) hpairs
  have hread := ofRecord_flaggedRecord a
  rw [← hrecord] at hread
  unfold Document.attributeOfNode.attributeOfPairs
  rw [hread]

/-! ## Attributes without flags

A bare text is cut into words. What is read of it is an attribute with the first word as its type,
and the other words are taken for flags. -/

/-- No words are no flags. -/
theorem noFlags : Line.flagsOf (([] : List (List Char)).map String.ofList) = .ok [] := rfl

/-- **A bare text is read exactly if its first word is followed by flags only**; the word is the
type. A text without a word is not read at all. -/
theorem attributeOfText_eq_ok_iff {name text : String} {line : Nat} {a : Attribute} :
    Document.attributeOfText name text line = .ok a ↔
      ∃ w ws flags, words text.toList = w :: ws ∧
        Line.flagsOf (ws.map String.ofList) = .ok flags ∧
        a = .ofFlags name (String.ofList w) flags := by
  unfold Document.attributeOfText
  constructor
  · intro h
    split at h
    · cases h
    · next w ws hwords =>
      split at h
      · cases h
      · next flags hflags =>
        cases h
        exact ⟨w, ws, flags, hwords, hflags, rfl⟩
  · rintro ⟨w, ws, flags, hwords, hflags, rfl⟩
    rw [hwords]
    dsimp only
    rw [hflags]

/-- An attribute without flags is read as words: its type and flags. -/
theorem readsAs_of_words {a : Attribute} {w : List Char} {ws : List (List Char)}
    {flags : List Flag} (h : a.flags = [])
    (hwords : words (if a.dataType.isEmpty then "string" else a.dataType).toList = w :: ws)
    (hflags : Line.flagsOf (ws.map String.ofList) = .ok flags) :
    a.ReadsAs (.ofFlags a.name (String.ofList w) flags) := by
  intro n hn
  rw [toValue, h, if_pos List.isEmpty_nil, Node.means_text] at hn
  have htext := Node.text?_of_isText hn
  obtain ⟨style, line, rfl⟩ := Node.isText_iff.1 hn
  show Document.attributeOfText a.name (Document.typeText _) _ = _
  rw [Document.typeText, htext]
  exact attributeOfText_eq_ok_iff.2 ⟨w, ws, flags, hwords, hflags, rfl⟩

/-- An attribute is what its name, its type and its flags make it. -/
theorem eq_of_flags_eq_nil {a : Attribute} (h : a.flags = []) :
    a = { name := a.name, dataType := a.dataType } := by
  have hnone : ∀ f, a.has f = false := fun f => by
    rw [← Bool.not_eq_true, ← mem_flags, h]
    exact List.not_mem_nil
  obtain ⟨name, dataType, _, _, _, _, _⟩ := a
  congr 1
  · exact hnone .primaryKey
  · exact hnone .required
  · exact hnone .multivalued
  · exact hnone .derived
  · exact hnone .composite

/-- **An attribute without flags is read back as itself if its type is one word.** It is written
as a bare text, whose first word is all of it. -/
theorem readsAs_of_isWord {a : Attribute} (h : a.flags = []) (hw : IsWord a.dataType.toList) :
    a.ReadsAs a := by
  have hne : a.dataType.isEmpty = false := by
    rw [Bool.eq_false_iff]
    intro he
    exact hw.1 (by simpa using he)
  have hwords : words (if a.dataType.isEmpty then "string" else a.dataType).toList
      = [a.dataType.toList] := by
    rw [hne]
    exact words_of_isWord hw
  have hreads := readsAs_of_words h hwords noFlags
  rw [String.ofList_toList] at hreads
  exact (eq_of_flags_eq_nil h) ▸ hreads

/-- **Whether an attribute is written so that it can be read**: with a flag, without any type, or
with a type that is a word and flags. The first kind is written as a mapping, in which a type may
be any text. An empty type is read as the default, and so it is read, though as another one. -/
def IsReadable (a : Attribute) : Prop :=
  a.flags = [] → a.dataType = "" ∨
    ∃ w ws flags, words a.dataType.toList = w :: ws ∧
      Line.flagsOf (ws.map String.ofList) = .ok flags

theorem IsReadable.exists_readsAs {a : Attribute} (h : a.IsReadable) : ∃ a', a.ReadsAs a' := by
  by_cases hf : a.flags = []
  · rcases h hf with he | ⟨w, ws, flags, hwords, hflags⟩
    · have hstring : words (if a.dataType.isEmpty then "string" else a.dataType).toList
          = ["string".toList] := by
        rw [he]
        exact words_of_isWord (by decide)
      exact ⟨_, readsAs_of_words hf hstring noFlags⟩
    · have hne : a.dataType.isEmpty = false := by
        rw [Bool.eq_false_iff]
        intro he
        rw [String.isEmpty_iff] at he
        rw [he] at hwords
        cases hwords
      exact ⟨_, readsAs_of_words hf (by rw [hne]; exact hwords) hflags⟩
  · exact ⟨a, readsAs_of_flags hf⟩

/-! ## The attributes that are written -/

/-- The attributes that are written of a list: of those with one name the last, in the place of
the first. A mapping has each name once, so that the others are lost before anything is read. -/
def written (l : List Attribute) : List Attribute :=
  (OrderedMap.ofList (l.map fun a => (a.name, a))).values

/-- Attributes with different names are all written. -/
theorem written_of_nodup {l : List Attribute} (h : (l.map (·.name)).Nodup) : written l = l := by
  unfold written OrderedMap.values
  rw [OrderedMap.entries_ofList (by rw [List.map_map]; exact h), List.map_map]
  exact List.map_id l

/-- The value of a list of attributes has a pair for each of those that are written. -/
theorem attributesValue_eq (l : List Attribute) :
    Outline.attributesValue l = .map ((written l).map fun a => (a.name, a.toValue)) := by
  have hpairs : (l.map fun a => (a.name, a.toValue))
      = (l.map fun a => (a.name, a)).map fun e => (e.1, toValue e.2) := by
    rw [List.map_map]
    rfl
  unfold Outline.attributesValue written OrderedMap.values
  rw [hpairs, OrderedMap.entries_ofList_map, List.map_map]
  refine congrArg Value.map (List.map_congr_left fun e he => ?_)
  obtain ⟨a, _, rfl⟩ := List.mem_map.1 (OrderedMap.mem_of_mem_entries_ofList he)
  rfl

end Attribute

end ErDiagram
