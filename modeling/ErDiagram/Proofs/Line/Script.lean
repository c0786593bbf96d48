import ErDiagram.Document.Reading
import ErDiagram.Proofs.Document.WellFormed
import ErDiagram.Proofs.FirstOccurrences

/-!
# What plain lines say

Plain lines are a sequence of items. An item is a single line, but for an attribute block, which
goes on from the line that opens it to the line that closes it. Where a line stands decides what
it says: the same text gives a key between two items and an attribute inside a block.

What a sequence of items says can be told without reading it in order. The title is the last one
that is given, the entities are all names that are mentioned, each once, an entity has the
attributes of all of its blocks, and every relationship line is a relationship. Reading the lines
one by one accepts exactly the sequences of items, and finds just this diagram.

So there is a grammar (`Script`), whose meaning is a function of the items (`diagramOf`), and a
machine, which has a block open or not between any two lines. The two are compared in three steps.
The lines of an item take the machine from a state without a block to another one, with the item
added (`Script.readAll`). Lines that the machine reads to the end are items, with the rest of a
block in front of them if one was open; this is what has to be carried through the induction
(`State.Continues`). Adding items one by one, at last, gives what `diagramOf` says of all of them
(`foldl_addTo`), by way of diagrams that are tables (`tabled`), in which adding an attribute and
declaring a name have simple equations.
-/

namespace ErDiagram.Line

/-! ## Items -/

/-- **What plain lines are made of.** An attribute block is one item, since none of its lines has
a meaning without the line that opens it. -/
inductive Item where
  /-- A line that is blank or a comment. -/
  | silent
  /-- The header. -/
  | header
  /-- A title, which may be left out behind the colon. -/
  | title (value : Option String)
  /-- The bare name of an entity. -/
  | mention (name : String)
  | relationship (r : Relationship)
  /-- An entity with an attribute block. -/
  | block (entity : String) (attributes : List Attribute)

/-- The lines between the braces of a block, and the attributes they give. Blank lines and
comments may stand among them and give none, so that the two lists need not be equally long. -/
inductive Rows : List NumberedLine → List Attribute → Prop where
  | nil : Rows [] []
  | blank {l ls attributes} : l.classify true = .ok .blank → Rows ls attributes →
      Rows (l :: ls) attributes
  | attribute {l ls attributes name dataType flags} :
      l.classify true = .ok (.attribute name dataType flags) → Rows ls attributes →
      Rows (l :: ls) (.ofFlags name dataType flags :: attributes)

/-- **The lines of an item.** The header is the header also where it opens a brace, and a
relationship carries the number of its line.

What single lines say is taken from the reader; which lines there are, and in what order, is not.
A key is an item only if it is the header or the title, and any other key is an error. -/
inductive Item.Spells : Item → List NumberedLine → Prop where
  | silent {l} : l.classify false = .ok .blank → Spells .silent [l]
  | headerName {l name opensBlock} : l.classify false = .ok (.entity name opensBlock) →
      isHeader name = true → Spells .header [l]
  | headerKey {l name value} : l.classify false = .ok (.key name value) →
      isHeader name = true → Spells .header [l]
  | title {l name value} : l.classify false = .ok (.key name value) →
      isTitleKey name = true → Spells (.title value) [l]
  | mention {l name} : l.classify false = .ok (.entity name false) →
      isHeader name = false → Spells (.mention name) [l]
  | relationship {l source cardinality target label} :
      l.classify false = .ok (.relationship source cardinality target label) →
      Spells (.relationship { source, target, cardinality, label, line := some l.line }) [l]
  | block {opening rows closing name attributes} :
      opening.classify false = .ok (.entity name true) → isHeader name = false →
      Rows rows attributes → closing.classify true = .ok .blockEnd →
      Spells (.block name attributes) (opening :: (rows ++ [closing]))

/-- **A sequence of items**, as lines. Where one item ends and the next one begins need not be
said, since the lines of an item show it; but it is not used that there is only one way to cut
them. -/
inductive Script : List Item → List NumberedLine → Prop where
  | nil : Script [] []
  | cons {item items ls rest} : item.Spells ls → Script items rest →
      Script (item :: items) (ls ++ rest)

/-! ## What items say -/

namespace Item

/-- The title that an item gives, if it gives one, which may be none. -/
def title? : Item → Option (Option String)
  | .title value => some value
  | _ => none

/-- The entities that an item mentions, the source of a relationship before its target. -/
def mentions : Item → List String
  | .mention name => [name]
  | .relationship r => [r.source, r.target]
  | .block name _ => [name]
  | _ => []

/-- The attributes that an item gives to an entity. -/
def attributesOf (name : String) : Item → List Attribute
  | .block owner attributes => if owner = name then attributes else []
  | _ => []

/-- The relationship of an item. -/
def relationship? : Item → Option Relationship
  | .relationship r => some r
  | _ => none

end Item

/-- **The diagram of some items**: the last title, the names in the order in which they are first
mentioned, with all attributes that they are given, and the relationships.

No item is looked at in the light of another one here: each field collects what the items say on
their own. An entity may be given attributes in several blocks, and before or after it occurs in a
relationship. A title line without a title takes back the titles before it. -/
def diagramOf (items : List Item) : Diagram where
  title := (items.filterMap Item.title?).getLast?.join
  entities := (items.flatMap Item.mentions).eraseDups.map fun name =>
    { name, attributes := items.flatMap (Item.attributesOf name) }
  relationships := items.filterMap Item.relationship?

/-! ## Lines are read item by item

From an item to the reader: its lines leave no block open and add what the item says. An induction
on the items gives one half of the result. -/

/-- What an item adds to a diagram. It is what the lines of the item do to the state of the
reader, with the block left out, which is closed before and after it. -/
def Item.addTo (d : Diagram) : Item → Diagram
  | .silent => d
  | .header => d
  | .title value => { d with title := value }
  | .mention name => d.declare name
  | .relationship r => d.addRelationship r
  | .block name attributes => attributes.foldl (·.addAttribute name ·) (d.declare name)

/-- A line that is read without error leads to the lines after it. -/
theorem State.readAll_cons {s s' : State} {l : NumberedLine} {line : Line}
    (hl : l.classify s.block.isSome = .ok line) (hs : s.step l line = .ok s')
    (ls : List NumberedLine) : s.readAll (l :: ls) = s'.readAll ls := by
  have hread : s.read l = .ok s' := by
    rw [State.read, hl]
    exact hs
  rw [State.readAll, hread]

/-- The header names no title. -/
theorem isTitleKey_of_isHeader {name : String} (h : isHeader name = true) :
    isTitleKey name = false := by
  unfold isTitleKey
  rw [eq_of_beq h]
  decide

theorem State.step_header {name : String} (h : isHeader name = true) (s : State)
    (l : NumberedLine) (opensBlock : Bool) : s.step l (.entity name opensBlock) = .ok s :=
  if_pos h

theorem State.step_entity {name : String} (h : isHeader name = false) (s : State)
    (l : NumberedLine) (opensBlock : Bool) :
    s.step l (.entity name opensBlock)
      = .ok ⟨if opensBlock then some ⟨name, l.line⟩ else s.block, s.diagram.declare name⟩ := by
  rw [State.step, h]
  rfl

theorem State.step_headerKey {name : String} (h : isHeader name = true) (s : State)
    (l : NumberedLine) (value : Option String) : s.step l (.key name value) = .ok s := by
  rw [State.step, isTitleKey_of_isHeader h, h]
  rfl

theorem State.step_title {name : String} (h : isTitleKey name = true) (s : State)
    (l : NumberedLine) (value : Option String) :
    s.step l (.key name value) = .ok { s with diagram := { s.diagram with title := value } } :=
  if_pos h

/-- The lines of a block add its attributes and leave the block open. -/
theorem Rows.readAll {rows : List NumberedLine} {attributes : List Attribute}
    (h : Rows rows attributes) (b : Block) (d : Diagram) (rest : List NumberedLine) :
    (State.mk (some b) d).readAll (rows ++ rest)
      = (State.mk (some b) (attributes.foldl (·.addAttribute b.entity ·) d)).readAll rest := by
  induction h generalizing d with
  | nil => rfl
  | blank hl _ ih => exact (State.readAll_cons hl rfl _).trans (ih d)
  | «attribute» hl _ ih => exact (State.readAll_cons hl rfl _).trans (ih _)

/-- **The lines of an item add it to the diagram**, and no block is open after them. What follows
the item is arbitrary, so that items can be put one behind the other. -/
theorem Item.Spells.readAll {item : Item} {ls : List NumberedLine} (h : item.Spells ls)
    (d : Diagram) (rest : List NumberedLine) :
    (State.mk none d).readAll (ls ++ rest) = (State.mk none (item.addTo d)).readAll rest := by
  cases h with
  | silent hl => exact State.readAll_cons hl rfl rest
  | headerName hl hn => exact State.readAll_cons hl (State.step_header hn _ _ _) rest
  | headerKey hl hn => exact State.readAll_cons hl (State.step_headerKey hn _ _ _) rest
  | title hl hn => exact State.readAll_cons hl (State.step_title hn _ _ _) rest
  | mention hl hn => exact State.readAll_cons hl (State.step_entity hn ⟨none, d⟩ _ _) rest
  | relationship hl => exact State.readAll_cons hl rfl rest
  | block hl hn hrows hclose =>
    rw [List.cons_append, List.append_assoc,
      State.readAll_cons hl (State.step_entity hn _ _ _), if_pos rfl, hrows.readAll]
    exact State.readAll_cons hclose rfl rest

/-- **Items are added in order.** The induction is on the items; each of them leaves a state
without a block. -/
theorem Script.readAll {items : List Item} {ls : List NumberedLine} (h : Script items ls)
    (d : Diagram) : (State.mk none d).readAll ls = .ok (items.foldl Item.addTo d) := by
  induction h generalizing d with
  | nil => rfl
  | cons hi _ ih => rw [hi.readAll, ih, List.foldl_cons]

/-! ## Whatever is read is a sequence of items

From the reader to items. In the middle of a block there is no item yet, so that what is carried
along is the rest of a block and then items. -/

/-- **What must follow a state for the lines to be read into a diagram**: items, and before them
the rest of the block that is open. An induction on the lines cannot speak of items alone, as it
stops in the middle of a block too. -/
def State.Continues (s : State) (ls : List NumberedLine) (d : Diagram) : Prop :=
  match s.block with
  | none => ∃ items, Script items ls ∧ d = items.foldl Item.addTo s.diagram
  | some b => ∃ rows attributes closing items rest, ls = rows ++ closing :: rest ∧
      Rows rows attributes ∧ closing.classify true = .ok .blockEnd ∧ Script items rest ∧
      d = items.foldl Item.addTo (attributes.foldl (·.addAttribute b.entity ·) s.diagram)

/-- An item in front of what follows. -/
theorem State.Continues.item {item : Item} {ls rest : List NumberedLine} {d d' : Diagram}
    (hi : item.Spells ls) (h : (State.mk none (item.addTo d)).Continues rest d') :
    (State.mk none d).Continues (ls ++ rest) d' := by
  obtain ⟨items, hs, rfl⟩ := h
  exact ⟨item :: items, .cons hi hs, rfl⟩

/-- **One line inside a block**, and what follows it. It is a row, which is put in front of the
rows that follow, or it closes the block. -/
theorem State.Continues.inside {b : Block} {d d' : Diagram} {s : State} {l : NumberedLine}
    {ls : List NumberedLine} (hr : (State.mk (some b) d).read l = .ok s)
    (h : s.Continues ls d') : (State.mk (some b) d).Continues (l :: ls) d' := by
  unfold State.read at hr
  split at hr
  · cases hr
  next line hl =>
  have houter := (names_of_classify (NumberedLine.classify_eq_ok.1 hl)).2 rfl
  cases line with
  | blank =>
    cases hr
    obtain ⟨rows, attributes, closing, items, rest, rfl, hrows, hc⟩ := h
    exact ⟨l :: rows, attributes, closing, items, rest, rfl, .blank hl hrows, hc⟩
  | relationship => cases hr
  | «attribute» =>
    cases hr
    obtain ⟨rows, attributes, closing, items, rest, rfl, hrows, hc⟩ := h
    exact ⟨l :: rows, _ :: attributes, closing, items, rest, rfl, .attribute hl hrows, hc⟩
  | entity => cases houter
  | blockEnd =>
    cases hr
    obtain ⟨items, hs, rfl⟩ := h
    exact ⟨[], [], l, items, ls, rfl, .nil, hl, hs, rfl⟩
  | key => cases houter

/-- **One line outside of blocks**, and what follows it. It is an item of its own, or it opens a
block, and then the rows behind it belong to the same item. -/
theorem State.Continues.outside {d d' : Diagram} {s : State} {l : NumberedLine}
    {ls : List NumberedLine} (hr : (State.mk none d).read l = .ok s)
    (h : s.Continues ls d') : (State.mk none d).Continues (l :: ls) d' := by
  unfold State.read at hr
  split at hr
  · cases hr
  next line hl =>
  cases line with
  | blank =>
    cases hr
    exact .item (.silent hl) h
  | relationship =>
    cases hr
    exact .item (.relationship hl) h
  | «attribute» => cases hr
  | entity name opensBlock =>
    by_cases hn : isHeader name = true
    · cases (State.step_header hn _ _ _).symm.trans hr
      exact .item (.headerName hl hn) h
    · rw [Bool.not_eq_true] at hn
      cases (State.step_entity hn _ _ _).symm.trans hr
      cases opensBlock with
      | false => exact .item (.mention hl hn) h
      | true =>
        -- the rest of the block makes one item with the line that opens it
        obtain ⟨rows, attributes, closing, items, rest, rfl, hrows, hc, hs, rfl⟩ := h
        have hcat : l :: (rows ++ closing :: rest) = l :: (rows ++ [closing]) ++ rest := by
          rw [List.cons_append, List.append_assoc, List.singleton_append]
        rw [hcat]
        exact .item (.block hl hn hrows hc) ⟨items, hs, rfl⟩
  | blockEnd => cases hr
  | key name value =>
    by_cases ht : isTitleKey name = true
    · cases (State.step_title ht _ _ _).symm.trans hr
      exact .item (.title hl ht) h
    by_cases hn : isHeader name = true
    · cases (State.step_headerKey hn _ _ _).symm.trans hr
      exact .item (.headerKey hl hn) h
    · rw [State.step, if_neg ht, if_neg hn] at hr
      cases hr

/-- **Lines that are read to their end** are the rest of a block and items. The induction is on
the lines, from any state. -/
theorem State.continues_of_readAll {s : State} {ls : List NumberedLine} {d : Diagram}
    (h : s.readAll ls = .ok d) : s.Continues ls d := by
  induction ls generalizing s with
  | nil =>
    unfold State.readAll at h
    split at h
    · next hb =>
      cases h
      unfold State.Continues
      rw [hb]
      exact ⟨[], .nil, rfl⟩
    · -- a block that is still open is an error
      cases h
  | cons l ls ih =>
    unfold State.readAll at h
    split at h
    · cases h
    · next s' hr =>
      obtain ⟨block, d₀⟩ := s
      cases block with
      | none => exact (ih h).outside hr
      | some b => exact (ih h).inside hr

/-! ## What the items add up to

Items are added one by one, and the diagram is described all at once. In between stand tables,
which list names with repetitions and know the attributes of each name. -/

/-- A diagram by what is known of each name; names may be given more than once. Adding to such a
diagram is appending to the list of names or changing the function of attributes, and there is no
search for the entity that an attribute belongs to. -/
def tabled (title : Option String) (names : List String) (attributes : String → List Attribute)
    (relationships : List Relationship) : Diagram where
  title := title
  entities := names.eraseDups.map fun name => { name, attributes := attributes name }
  relationships := relationships

variable {title : Option String} {names : List String} {attributes : String → List Attribute}
  {relationships : List Relationship} {name : String}

theorem entityNames_tabled :
    (tabled title names attributes relationships).entityNames = names.eraseDups := by
  unfold tabled Diagram.entityNames
  rw [List.map_map]
  exact List.map_id _

/-- A name is declared by giving it once more. -/
theorem declare_tabled (h : name ∉ names → attributes name = []) :
    (tabled title names attributes relationships).declare name
      = tabled title (names ++ [name]) attributes relationships := by
  have hmem : name ∈ (tabled title names attributes relationships).entityNames
      ↔ name ∈ names := by
    rw [entityNames_tabled]
    exact List.mem_eraseDups
  unfold tabled
  rw [eraseDups_concat]
  by_cases hn : name ∈ names
  · rw [if_pos hn]
    exact Diagram.declare_of_mem (hmem.2 hn)
  · rw [if_neg hn, List.map_append]
    refine (if_neg (mt hmem.1 hn)).trans ?_
    rw [List.map_singleton, h hn]

/-- An attribute is added to the one entity of its name. -/
theorem addAttribute_tabled (h : name ∈ names) (a : Attribute) :
    (tabled title names attributes relationships).addAttribute name a
      = tabled title names (fun n => attributes n ++ if name = n then [a] else [])
          relationships := by
  have hmem : name ∈ (tabled title names attributes relationships).entityNames := by
    rw [entityNames_tabled]
    exact List.mem_eraseDups.2 h
  have hnodup : (tabled title names attributes relationships).entityNames.Nodup := by
    rw [entityNames_tabled]
    exact nodup_eraseDups names
  rw [Diagram.addAttribute, Diagram.declare_of_mem hmem, Diagram.modifyEntity,
    Diagram.modifyEntity_go_eq_map _ hnodup]
  unfold tabled
  rw [List.map_map]
  congr 1
  refine List.map_congr_left fun n _ => ?_
  rw [Function.comp_apply]
  dsimp only
  by_cases hn : n = name
  · rw [if_pos hn, if_pos hn.symm]
  · rw [if_neg hn, if_neg (Ne.symm hn), List.append_nil]

/-- The attributes of a name that is there grow at their end. -/
theorem foldl_addAttribute_tabled (h : name ∈ names) (added : List Attribute) :
    added.foldl (·.addAttribute name ·) (tabled title names attributes relationships)
      = tabled title names (fun n => attributes n ++ if name = n then added else [])
          relationships := by
  induction added generalizing attributes with
  | nil => simp only [ite_self, List.append_nil, List.foldl_nil]
  | cons a added ih =>
    rw [List.foldl_cons, addAttribute_tabled h, ih]
    congr 1
    funext n
    by_cases hn : name = n
    · rw [if_pos hn, if_pos hn, if_pos hn, List.append_assoc, List.singleton_append]
    · rw [if_neg hn, if_neg hn, if_neg hn, List.append_nil]

/-- A name that no item mentions has no attributes. -/
theorem attributesOf_eq_nil {items : List Item} (h : name ∉ items.flatMap Item.mentions) :
    items.flatMap (Item.attributesOf name) = [] := by
  refine List.flatMap_eq_nil_iff.2 fun item hi => ?_
  cases item with
  | block owner attributes =>
    refine if_neg fun ho => h (List.mem_flatMap.2 ⟨_, hi, ?_⟩)
    rw [← ho]
    exact List.mem_singleton_self owner
  | _ => rfl

/-- **One more item adds what it says.** Each field of the table takes what the item says for it
at its end. -/
theorem addTo_tabled (h : ∀ n, n ∉ names → attributes n = []) (titles : List (Option String))
    (item : Item) :
    item.addTo (tabled titles.getLast?.join names attributes relationships)
      = tabled (titles ++ item.title?.toList).getLast?.join (names ++ item.mentions)
          (fun n => attributes n ++ item.attributesOf n)
          (relationships ++ item.relationship?.toList) := by
  cases item with
  | title value =>
    show tabled value names attributes relationships
      = tabled (titles ++ [value]).getLast?.join (names ++ []) (fun n => attributes n ++ [])
          (relationships ++ [])
    simp only [List.append_nil, List.getLast?_concat, Option.join_some]
  | mention name =>
    show Diagram.declare _ name
      = tabled (titles ++ []).getLast?.join (names ++ [name]) (fun n => attributes n ++ [])
          (relationships ++ [])
    simp only [List.append_nil]
    exact declare_tabled (h name)
  | relationship r =>
    show Diagram.addRelationship _ r
      = tabled (titles ++ []).getLast?.join (names ++ [r.source, r.target])
          (fun n => attributes n ++ []) (relationships ++ [r])
    have htarget : r.target ∉ names ++ [r.source] → attributes r.target = [] := fun hn =>
      h _ fun hmem => hn (List.mem_append_left _ hmem)
    rw [Diagram.addRelationship, declare_tabled (h r.source), declare_tabled htarget,
      List.append_assoc]
    simp only [List.append_nil]
    rfl
  | block name added =>
    show List.foldl _ (Diagram.declare _ name) added
      = tabled (titles ++ []).getLast?.join (names ++ [name])
          (fun n => attributes n ++ if name = n then added else []) (relationships ++ [])
    rw [declare_tabled (h name),
      foldl_addAttribute_tabled (List.mem_append_right _ (List.mem_singleton_self name)),
      List.append_nil, List.append_nil]
  | silent | header =>
    show tabled _ names attributes relationships
      = tabled (titles ++ []).getLast?.join (names ++ []) (fun n => attributes n ++ [])
          (relationships ++ [])
    simp only [List.append_nil]

theorem filterMap_singleton {α β : Type} (f : α → Option β) (a : α) :
    [a].filterMap f = (f a).toList := by
  rw [List.filterMap_cons]
  cases f a <;> rfl

/-- **Adding items in order gives the diagram that they describe.** The induction adds an item at
the end, where the item meets the table of those before it. -/
theorem foldl_addTo (items : List Item) : items.foldl Item.addTo {} = diagramOf items := by
  induction items using List.reverseRecOn with
  | nil => rfl
  | append_singleton items item ih =>
    -- the diagram of the items before is a table of what they say
    have hadd : item.addTo (tabled (items.filterMap Item.title?).getLast?.join
        (items.flatMap Item.mentions) (fun n => items.flatMap (Item.attributesOf n))
        (items.filterMap Item.relationship?)) = _ :=
      addTo_tabled (fun _ => attributesOf_eq_nil) _ item
    rw [List.foldl_append, ih]
    refine hadd.trans ?_
    unfold diagramOf tabled
    simp only [List.filterMap_append, List.flatMap_append, List.flatMap_singleton]
    rw [filterMap_singleton, filterMap_singleton]

/-- **The line syntax accepts exactly the sequences of items**, and finds the diagram that the
items describe: the title of the last title line, the entities in the order in which they are
first mentioned, for each of them the attributes of all its blocks, and one relationship for every
relationship line, with the number of that line.

Both directions matter. A text that is read is nothing but items, so that no line is skipped; and
every sequence of items is read, so that no combination of them is an error. -/
theorem ofLines_eq_ok_iff {source : List (List Char)} {d : Diagram} :
    Document.ofLines source = .ok d ↔
      ∃ items, Script items (NumberedLine.ofLines source) ∧ d = diagramOf items := by
  unfold Document.ofLines ReadingError.ofSyntax
  rw [Except.mapError_eq_ok]
  constructor
  · intro h
    obtain ⟨items, hs, rfl⟩ := State.continues_of_readAll (s := ⟨none, {}⟩) h
    exact ⟨items, hs, foldl_addTo items⟩
  · rintro ⟨items, hs, rfl⟩
    rw [Diagram.readLines, hs.readAll, foldl_addTo]

end ErDiagram.Line
