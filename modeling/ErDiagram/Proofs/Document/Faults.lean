import ErDiagram.Document.Reading
import ErDiagram.Proofs.Except
import ErDiagram.Proofs.Text.Words
import Mathlib.Control.Monad.Basic

/-!
# What stops a reading without a line to blame

Nearly everything that can be wrong with a text is a syntax error on one of its lines, and the
callers of the reader report nothing else. Four shapes of nodes are an exception: the type of an
attribute may be a text of blanks, what marks an entity as weak may be tagged as a truth value
without being a scalar, a list of relationships may contain itself, and lists of relationships may
be nested more deeply than there is room for. Nothing on the way checks for them, so that they end
the reading in another manner.

These *faults* can be seen in the tree of nodes alone. They are collected here position by
position, in the order in which the reader comes to them and without reading anything, and a
reading has one of three ends: with a diagram, if there is no fault; with a syntax error, which
may stand before any fault; or with the first of the faults. Hence a text whose nodes have no
fault is read or refused with a line, and one whose nodes have a fault is never read.

## Why each part has its faults

A position that is not read has no faults, whatever stands there, and which positions are read
depends on what stands beside them: the pairs of an entity are attributes only if no pair is an
option. The faults of a position are therefore a function of the nodes that follows the reader
branch by branch, and for each function of the reader there is one lemma, `Meets`, that compares
the two. No lemma needs to know what the parts of a part do: the relation is closed under doing one
thing after the other (`Meets.bind`).

How deeply lists may be nested is not fixed by the text, so the room for them is a parameter of the
faults as it is one of the reader, and nothing below depends on its value.
`tooDeep_mem_itemFaults_iff` says of a tree in one number when it exceeds the room.
-/

namespace ErDiagram

variable {α β : Type}

/-- **What stops a reading without a line to blame**, as it can be seen in a tree of nodes. -/
inductive Fault where
  /-- The type of an attribute is a text of blanks. -/
  | missingType
  /-- What marks an entity as weak is tagged as a truth value and is no scalar. -/
  | weakNotScalar
  /-- A list of relationships contains itself. -/
  | endless
  /-- Lists of relationships are nested more deeply than there is room for. -/
  | tooDeep
deriving Repr, DecidableEq

/-- The error that a fault ends a reading with. -/
def Fault.error : Fault → ReadingError
  | missingType => .missingType
  | weakNotScalar => .weakNotScalar
  | endless => .endless
  | tooDeep => .tooDeep

namespace ReadingError

/-- **How a reading may end, by the faults of what it reads.** The faults are listed in the order
in which the reader comes to them. It is a relation and not a function of the faults, since a
syntax error may stand in front of any of them and the faults do not say whether one does; what
matters is that a reading which succeeds has met no fault at all, and that no fault but the first
can end one. -/
inductive Meets : List Fault → Except ReadingError α → Prop
  /-- With a value, if there is no fault. -/
  | value (a : α) : Meets [] (.ok a)
  /-- With a syntax error, which may stand before any fault. -/
  | line (faults : List Fault) (e : SyntaxError) : Meets faults (.error (.invalid e))
  /-- With the first of the faults. -/
  | first (f : Fault) (later : List Fault) : Meets (f :: later) (.error f.error)

variable {faults later : List Fault}

theorem meets_onLine (faults : List Fault) (line : Nat) (cause : SyntaxCause) :
    Meets faults (onLine line cause : Except ReadingError α) := .line faults _

theorem meets_ofSyntax (r : Except SyntaxError α) : Meets [] (ofSyntax r) := by
  cases r with
  | error e => exact .line [] e
  | ok a => exact .value a

/-- Where a part fails, what would have come after it does not matter. -/
theorem Meets.append_error {e : ReadingError}
    (h : Meets faults (.error e : Except ReadingError α)) (later : List Fault) :
    Meets (faults ++ later) (.error e : Except ReadingError β) := by
  cases h with
  | line _ e => exact .line _ e
  | first f rest => exact .first f (rest ++ later)

/-- Where a part succeeds, only the faults that come after it are left. -/
theorem Meets.append_ok {a : α} {r : Except ReadingError β}
    (h : Meets faults (.ok a : Except ReadingError α)) (hr : Meets later r) :
    Meets (faults ++ later) r := by
  cases h
  exact hr

/-- Steps in a row meet the faults of the one and then of the other. -/
theorem Meets.bind {r : Except ReadingError α} {f : α → Except ReadingError β}
    (hr : Meets faults r) (hf : ∀ a, Meets later (f a)) : Meets (faults ++ later) (r >>= f) := by
  cases r with
  | error e => exact hr.append_error later
  | ok a => exact hr.append_ok (hf a)

end ReadingError

namespace Document

open ReadingError Text Yaml

/-! ## Attributes -/

/-- Whether the text of a node is not empty and has nothing but blanks. -/
def isBlankText (n : Node) : Bool :=
  n.text?.any fun s => !s.isEmpty && allBlank s.toList

/-- The fault of a node as the type of an attribute. It is listed wherever the reader takes a node
for one, also if a syntax error in front of it stops the reading. -/
def typeFaults (n : Node) : List Fault :=
  if isBlankText n then [.missingType] else []

/-- A type has no word exactly if it is written as a text of blanks; a missing or empty text has
a default in its place. -/
theorem words_typeText_eq_nil_iff {n : Node} :
    words (typeText n).toList = [] ↔ isBlankText n = true := by
  have hdefault : words "string".toList ≠ [] := by decide
  unfold typeText isBlankText
  cases n.text? with
  | none => exact iff_of_false hdefault Bool.false_ne_true
  | some s =>
    rw [Option.any_some]
    dsimp only
    by_cases hs : s.isEmpty = true
    · rw [if_pos hs, hs]
      exact iff_of_false hdefault Bool.false_ne_true
    · rw [if_neg hs, words_eq_nil_iff, eq_false_of_ne_true hs, allBlank, Bool.not_false,
        Bool.true_and, List.all_eq_true]

theorem meets_attributeOfText (name text : String) (line : Nat) (h : words text.toList ≠ []) :
    Meets [] (attributeOfText name text line) := by
  unfold attributeOfText
  split
  · next hw => exact absurd hw h
  · split
    · exact meets_onLine ..
    · exact .value _

theorem meets_attributeOfPairs (name : Option String) (pairs : List (Node × Node)) (line : Nat) :
    Meets [] (attributeOfNode.attributeOfPairs name pairs line) := by
  unfold attributeOfNode.attributeOfPairs
  split
  · exact .value _
  · exact meets_onLine ..

theorem meets_attributeOfNode (name : String) (n : Node) :
    Meets (typeFaults n) (attributeOfNode name n) := by
  unfold attributeOfNode
  split
  · exact meets_attributeOfPairs ..
  · unfold typeFaults
    split
    · next hb =>
      unfold attributeOfText
      rw [words_typeText_eq_nil_iff.2 hb]
      exact .first .missingType []
    · next hb => exact meets_attributeOfText _ _ _ (mt words_typeText_eq_nil_iff.1 hb)

theorem meets_attributeOfItem (entity : String) (item : Node) :
    Meets [] (attributeOfItem entity item) := by
  unfold attributeOfItem
  dsimp only
  split
  · split
    · exact meets_attributeOfPairs ..
    · exact meets_onLine ..
  · split
    · exact meets_onLine ..
    split
    · exact meets_onLine ..
    split
    · exact meets_onLine ..
    · exact .value _
    · exact meets_onLine ..
  · exact meets_onLine ..

theorem meets_addAttributePairs (entity : String) (d : Diagram) (pairs : List (Node × Node)) :
    Meets (pairs.flatMap fun p => typeFaults p.2) (addAttributePairs entity d pairs) := by
  induction pairs generalizing d with
  | nil => exact .value d
  | cons p pairs ih =>
    obtain ⟨k, v⟩ := p
    rw [List.flatMap_cons]
    unfold addAttributePairs
    split
    · exact meets_onLine ..
    · next name _ =>
      have hv := meets_attributeOfNode name v
      split
      · next he => exact (he ▸ hv).append_error _
      · next ha => exact (ha ▸ hv).append_ok (ih _)

theorem meets_addAttributeItems (entity : String) (d : Diagram) (nodes : List Node) :
    Meets [] (addAttributeItems entity d nodes) := by
  induction nodes generalizing d with
  | nil => exact .value d
  | cons item nodes ih =>
    have hitem := meets_attributeOfItem entity item
    unfold addAttributeItems
    split
    · next he => exact (he ▸ hitem).append_error []
    · exact ih _

/-- The faults of a node that lists attributes; only a mapping can have any. -/
def attributesFaults : Node → List Fault
  | .mapping _ pairs _ => pairs.flatMap fun p => typeFaults p.2
  | _ => []

theorem meets_addAttributes (entity : String) (d : Diagram) (n : Node) :
    Meets (attributesFaults n) (addAttributes entity d n) := by
  have hother : Meets [] (if n.text?.isSome then
      onLine n.line (.attributesNotCollection entity) else .ok d) := by
    split
    · exact meets_onLine ..
    · exact .value d
  cases n with
  | mapping => exact meets_addAttributePairs ..
  | sequence => exact meets_addAttributeItems ..
  | scalar => exact hother
  | enclosing => exact hother

/-! ## Entities -/

/-- The fault of what marks an entity as weak: it counts by its tag, whatever its shape, so that a
list or a mapping that is tagged as a truth value is taken for one and has no text. -/
def weakFaults (pairs : List (Node × Node)) : List Fault :=
  if (option? pairs "weak").any fun n => n.tagged "bool" && !n.isScalar then [.weakNotScalar]
  else []

/-- The faults of what a mapping says about an entity. Where it has neither option, its pairs are
attributes, and so is whatever stands under the option for attributes. A value for weakness that
is no truth value is no option: without one for attributes, that pair is an attribute like the
others. -/
def optionFaults (pairs : List (Node × Node)) : List Fault :=
  weakFaults pairs ++
    match option? pairs "attributes" with
    | some n => attributesFaults n
    | none =>
      if (option? pairs "weak").any (·.tagged "bool") then []
      else pairs.flatMap fun p => typeFaults p.2

theorem meets_weakOption? (pairs : List (Node × Node)) :
    Meets (weakFaults pairs) (weakOption? pairs) := by
  unfold weakFaults weakOption?
  cases option? pairs "weak" with
  | none => exact .value none
  | some n =>
    by_cases hb : n.tagged "bool" = true
    · simp only [Option.any_some, hb, Bool.true_and, if_true]
      cases n with
      | scalar => exact .value _
      | _ => exact .first .weakNotScalar []
    · simp only [Option.any_some, eq_false_of_ne_true hb, Bool.false_and, Bool.false_eq_true,
        if_false]
      exact .value none

/-- The options say something about weakness exactly if there is a value that is tagged so. -/
theorem isSome_of_weakOption?_eq_ok {pairs : List (Node × Node)} {w : Option Bool}
    (h : weakOption? pairs = .ok w) :
    w.isSome = (option? pairs "weak").any (·.tagged "bool") := by
  unfold weakOption? at h
  split at h
  · next hn =>
    cases h
    rw [hn]
    rfl
  · next n hn =>
    rw [hn, Option.any_some]
    split at h
    · next hb =>
      rw [hb]
      split at h
      · cases h
        rfl
      · cases h
    · next hb =>
      cases h
      exact (eq_false_of_ne_true hb).symm

theorem meets_addOptions (entity : String) (d : Diagram) (pairs : List (Node × Node)) :
    Meets (optionFaults pairs) (addOptions entity d pairs) := by
  have hw := meets_weakOption? pairs
  unfold addOptions optionFaults
  cases hok : weakOption? pairs with
  | error e => exact (hok ▸ hw).append_error _
  | ok w =>
    refine (hok ▸ hw).append_ok ?_
    rw [← isSome_of_weakOption?_eq_ok hok]
    cases w with
    | none =>
      cases option? pairs "attributes" with
      | none => exact meets_addAttributePairs ..
      | some n => exact meets_addAttributes ..
    | some weak =>
      cases option? pairs "attributes" with
      | none => exact .value _
      | some n => exact meets_addAttributes ..

/-- The faults of what is said of one entity. -/
def entityFaults : Node → List Fault
  | .mapping _ pairs _ => optionFaults pairs
  | _ => []

theorem meets_addEntity (d : Diagram) (key value : Node) :
    Meets (entityFaults value) (addEntity d key value) := by
  unfold addEntity
  cases key.text? with
  | none => exact meets_onLine ..
  | some name =>
    cases value with
    | mapping => exact meets_addOptions ..
    | sequence => exact meets_addAttributeItems ..
    | scalar => exact .value _
    | enclosing => exact .value _

theorem meets_addEntityPairs (d : Diagram) (pairs : List (Node × Node)) :
    Meets (pairs.flatMap fun p => entityFaults p.2) (addEntityPairs d pairs) := by
  induction pairs generalizing d with
  | nil => exact .value d
  | cons p pairs ih =>
    obtain ⟨k, v⟩ := p
    have hv := meets_addEntity d k v
    rw [List.flatMap_cons]
    unfold addEntityPairs
    split
    · next he => exact (he ▸ hv).append_error _
    · next ha => exact (ha ▸ hv).append_ok (ih _)

theorem meets_addEntityNames (d : Diagram) (nodes : List Node) :
    Meets [] (addEntityNames d nodes) := by
  induction nodes generalizing d with
  | nil => exact .value d
  | cons item nodes ih =>
    unfold addEntityNames
    split
    · exact meets_onLine ..
    · exact ih _

/-- The faults of a node that holds entities. -/
def entitiesFaults : Node → List Fault
  | .mapping _ pairs _ => pairs.flatMap fun p => entityFaults p.2
  | _ => []

theorem meets_addEntities (d : Diagram) (n : Node) :
    Meets (entitiesFaults n) (addEntities d n) := by
  cases n with
  | sequence => exact meets_addEntityNames ..
  | mapping => exact meets_addEntityPairs ..
  | scalar => exact meets_onLine ..
  | enclosing => exact meets_onLine ..

/-! ## Relationships

Lists may be nested, through aliases also without limit in a text that is short. The reader has
room for some of them and fails at one more, so that the room is a parameter of all that is said
here. -/

mutual

/-- The faults of a node that holds relationships, if so many lists may still be opened: the
places where one more would have to be, and those where the node is inside itself. -/
def itemFaults : Nat → Node → List Fault
  | _, .scalar .. => []
  | 0, .sequence .. => [.tooDeep]
  | room + 1, .sequence _ nodes _ => itemsFaults room nodes
  | _, .mapping .. => []
  | _, .enclosing _ => [.endless]

/-- The faults of the nodes of a list. -/
def itemsFaults : Nat → List Node → List Fault
  | _, [] => []
  | room, n :: ns => itemFaults room n ++ itemsFaults room ns

end

mutual

/-- **How deeply lists are nested in a node**: a list is one level above the deepest of its nodes.
What stands inside a mapping does not count, for no item of a list is a list in a mapping. -/
def listDepth : Node → Nat
  | .sequence _ nodes _ => listsDepth nodes + 1
  | _ => 0

/-- How deeply lists are nested in some nodes. -/
def listsDepth : List Node → Nat
  | [] => 0
  | n :: ns => max (listDepth n) (listsDepth ns)

end

mutual

/-- **Lists are too deep exactly if they are nested more deeply than there is room for**,
wherever in the node the deepest of them stands. -/
theorem tooDeep_mem_itemFaults_iff (room : Nat) (n : Node) :
    .tooDeep ∈ itemFaults room n ↔ room < listDepth n := by
  cases n with
  | sequence _ nodes _ =>
    cases room with
    | zero => simp [itemFaults, listDepth]
    | succ room =>
      rw [itemFaults, listDepth, Nat.succ_lt_succ_iff]
      exact tooDeep_mem_itemsFaults_iff room nodes
  | scalar => simp [itemFaults, listDepth]
  | mapping => simp [itemFaults, listDepth]
  | enclosing => simp [itemFaults, listDepth]

theorem tooDeep_mem_itemsFaults_iff (room : Nat) (nodes : List Node) :
    .tooDeep ∈ itemsFaults room nodes ↔ room < listsDepth nodes := by
  cases nodes with
  | nil => simp [itemsFaults, listsDepth]
  | cons n ns =>
    rw [itemsFaults, listsDepth, List.mem_append, tooDeep_mem_itemFaults_iff room n,
      tooDeep_mem_itemsFaults_iff room ns]
    omega

end

theorem meets_addItem (d : Diagram) (l : NumberedLine) : Meets [] (addItem d l) := by
  unfold addItem
  split
  · exact .line _ _
  · exact .value d
  · exact .value _
  · split
    · exact .value d
    split
    · exact meets_onLine ..
    · exact .value _
  · exact meets_onLine ..

theorem addItems_append (d : Diagram) (l₁ l₂ : List (Except ReadingError NumberedLine)) :
    addItems d (l₁ ++ l₂) = addItems d l₁ >>= fun d => addItems d l₂ := by
  induction l₁ generalizing d with
  | nil => rfl
  | cons x l₁ ih =>
    cases x with
    | error e => rfl
    | ok line =>
      rw [List.cons_append, addItems, addItems]
      cases addItem d line with
      | error e => rfl
      | ok d => exact ih d

/-- Items that are lines, or wrong on a line, have no fault. -/
theorem meets_addItems (d : Diagram) {l : List (Except ReadingError NumberedLine)}
    (h : ∀ x ∈ l, Meets [] x) : Meets [] (addItems d l) := by
  induction l generalizing d with
  | nil => exact .value d
  | cons x l ih =>
    have hx := h x List.mem_cons_self
    cases x with
    | error e => exact hx.append_error []
    | ok line =>
      have hline := meets_addItem d line
      unfold addItems
      split
      · next he => exact (he ▸ hline).append_error []
      · exact ih _ fun x hx => h x (List.mem_cons_of_mem _ hx)

theorem meets_pairItem (k v : Node) : Meets [] (pairItem k v) := by
  unfold pairItem
  split
  · exact meets_onLine ..
  split
  · exact .value _
  · exact meets_onLine ..

mutual

/-- **The items that a node holds have the faults of the node**, for whatever room there is. Items
come in the order of the text, so that a list which is nested too deeply is met when it is its
turn, behind all items in front of it. -/
theorem meets_addItems_itemsWithin (source : List (List Char)) (room : Nat) (d : Diagram)
    (n : Node) : Meets (itemFaults room n) (addItems d (itemsWithin source room n)) := by
  cases n with
  | scalar =>
    rw [itemsWithin, itemFaults]
    refine meets_addItems d fun x hx => ?_
    obtain ⟨l, _, rfl⟩ := List.mem_map.1 hx
    exact .value l
  | sequence _ nodes _ =>
    cases room with
    | zero => exact .first .tooDeep []
    | succ room =>
      rw [itemsWithin, itemFaults]
      exact meets_addItems_itemsOfList source room d nodes
  | mapping =>
    rw [itemsWithin, itemFaults]
    refine meets_addItems d fun x hx => ?_
    obtain ⟨p, _, rfl⟩ := List.mem_map.1 hx
    exact meets_pairItem p.1 p.2
  | enclosing =>
    rw [itemsWithin, itemFaults]
    exact .first .endless []

theorem meets_addItems_itemsOfList (source : List (List Char)) (room : Nat) (d : Diagram)
    (nodes : List Node) :
    Meets (itemsFaults room nodes) (addItems d (itemsOfList source room nodes)) := by
  cases nodes with
  | nil => exact .value d
  | cons n ns =>
    rw [itemsOfList, itemsFaults, addItems_append]
    exact (meets_addItems_itemsWithin source room d n).bind fun d =>
      meets_addItems_itemsOfList source room d ns

end

/-- The faults of a node that holds relationships: the outermost list is always opened. -/
def relationshipsFaults (nesting : Nat) (n : Node) : List Fault := itemFaults (nesting + 1) n

theorem meets_addRelationships (source : Source) (d : Diagram) (n : Node) :
    Meets (relationshipsFaults source.nesting n) (addRelationships source d n) := by
  unfold addRelationships
  split
  · next hn =>
    cases n with
    | scalar => exact meets_ofSyntax _
    | _ => cases hn
  · exact meets_addItems_itemsWithin ..

/-! ## Documents -/

/-- The faults of a section, if there is the section. -/
def sectionFaults (pairs : List (Node × Node)) (key : String)
    (faults : Node → List Fault) : List Fault :=
  ((sectionValue? (sections pairs) key).map faults).getD []

theorem meets_addSection {pairs : List (Node × Node)} {key : String}
    {add : Diagram → Node → Except ReadingError Diagram} {faults : Node → List Fault}
    (hadd : ∀ d n, Meets (faults n) (add d n)) (d : Diagram) :
    Meets (sectionFaults pairs key faults) (addSection (sections pairs) key add d) := by
  unfold sectionFaults addSection
  cases sectionValue? (sections pairs) key with
  | none => exact .value d
  | some n => exact hadd d n

/-- The faults of a structured diagram: those of its entities, then of its relationships. -/
def structuredFaults (nesting : Nat) (pairs : List (Node × Node)) : List Fault :=
  sectionFaults pairs "entities" entitiesFaults ++
    sectionFaults pairs "relationships" (relationshipsFaults nesting)

theorem meets_addStructured (source : Source) (d : Diagram) (pairs : List (Node × Node)) :
    Meets (structuredFaults source.nesting pairs) (addStructured source d pairs) := by
  unfold addStructured structuredFaults
  refine (meets_addSection meets_addEntities _).bind fun d₁ => ?_
  rw [← List.append_nil (sectionFaults pairs "relationships" (relationshipsFaults _))]
  refine (meets_addSection (meets_addRelationships source) d₁).bind fun d₂ => ?_
  split
  · exact .value d₂
  · exact meets_onLine ..

/-- The faults of a pair at the top of a document, by its key. -/
def pairFaults (nesting : Nat) (p : Node × Node) : List Fault :=
  match Role.ofKey p.1 with
  | .title => []
  | .header =>
    match p.2 with
    | .mapping _ pairs _ => structuredFaults nesting pairs
    | v => relationshipsFaults nesting v
  | .entities => entitiesFaults p.2
  | .relationships => relationshipsFaults nesting p.2
  | .line => []

theorem meets_addPair (source : Source) (d : Diagram) (k v : Node) :
    Meets (pairFaults source.nesting (k, v)) (addPair source d k v) := by
  unfold pairFaults addPair
  cases Role.ofKey k with
  | title => exact .value _
  | header =>
    cases v with
    | mapping => exact meets_addStructured ..
    | _ => exact meets_addRelationships ..
  | entities => exact meets_addEntities ..
  | relationships => exact meets_addRelationships ..
  | line => exact .value d

theorem meets_addPairs (source : Source) (d : Diagram) (pairs : List (Node × Node)) :
    Meets (pairs.flatMap (pairFaults source.nesting)) (addPairs source d pairs) := by
  induction pairs generalizing d with
  | nil => exact .value d
  | cons p pairs ih =>
    obtain ⟨k, v⟩ := p
    have hp := meets_addPair source d k v
    rw [List.flatMap_cons]
    unfold addPairs
    split
    · next he => exact (he ▸ hp).append_error _
    · next ha => exact (ha ▸ hp).append_ok (ih _)

theorem meets_addLine (recognized : Bool) (d : Diagram) (k v : Node) :
    Meets [] (addLine recognized d k v) := by
  unfold addLine
  dsimp only
  split
  · exact meets_onLine ..
  split
  · exact .line _ _
  · exact .value _
  · split <;> exact meets_onLine ..

theorem meets_addLines (recognized : Bool) (d : Diagram) (pairs : List (Node × Node)) :
    Meets [] (addLines recognized d pairs) := by
  induction pairs generalizing d recognized with
  | nil =>
    unfold addLines
    split
    · exact .value d
    · exact meets_onLine ..
  | cons p pairs ih =>
    obtain ⟨k, v⟩ := p
    have hp := meets_addLine recognized d k v
    unfold addLines
    split
    · next he => exact (he ▸ hp).append_error []
    · exact ih _ _

theorem meets_ofLines (source : List (List Char)) : Meets [] (ofLines source) :=
  meets_ofSyntax _

/-- **The faults of a tree of nodes**, in the order in which the reader comes to them. A scalar
has none, for its text is read line by line. -/
def faults (nesting : Nat) : Node → List Fault
  | .mapping _ pairs _ => (entitiesFirst pairs).flatMap (pairFaults nesting)
  | .sequence tag nodes line => relationshipsFaults nesting (.sequence tag nodes line)
  | _ => []

theorem meets_ofNode (source : Source) (n : Node) :
    Meets (faults source.nesting n) (ofNode source n) := by
  cases n with
  | mapping _ pairs _ =>
    rw [faults, ← List.append_nil (List.flatMap (pairFaults _) _)]
    exact (meets_addPairs source {} (entitiesFirst pairs)).bind fun d => meets_addLines ..
  | sequence tag nodes line => exact meets_addRelationships source {} (.sequence tag nodes line)
  | scalar => exact meets_ofLines source.lines
  | enclosing => exact meets_ofLines source.lines

end Document

/-! ## Texts -/

/-- The faults of the nodes that a reader of YAML finds in a text, where there is given room for
nested lists. A blank text has none, for the reader is never asked. -/
def Diagram.faultsWithin (nesting : Nat)
    (compose : String → Except Yaml.Failure (Option Yaml.Node)) (text : String) : List Fault :=
  if Text.allBlank text.toList then []
  else
    match compose text with
    | .ok (some n) => Document.faults nesting n
    | _ => []

namespace Diagram

open ReadingError

variable {nesting : Nat} {compose : String → Except Yaml.Failure (Option Yaml.Node)} {text : String}

theorem meets_parseWithin (nesting : Nat) (h : ∀ f, compose text = .error f → f = .malformed) :
    Meets (faultsWithin nesting compose text) (parseWithin nesting compose text) := by
  unfold faultsWithin parseWithin
  dsimp only
  split
  · exact .value _
  cases hc : compose text with
  | error f =>
    rw [h f hc]
    exact Document.meets_ofLines _
  | ok n =>
    cases n with
    | none => exact Document.meets_ofLines _
    | some n => exact Document.meets_ofNode ⟨Text.lines text.toList, nesting⟩ n

/-- **A text is read or refused with a syntax error, as long as its nodes have no fault.** With a
reader of YAML that finds nodes in the text or none, or calls it malformed, nothing else can end
the reading of such a text. Where there are faults the text is never read: a syntax error stands
before them, or the first of them escapes as an error of its own.

This holds for whatever room there is for nested lists. The room is only a matter of which texts
have a fault: with more of it, fewer of them have lists that are too deep. -/
theorem parseWithin_ends (h : ∀ f, compose text = .error f → f = .malformed) :
    (faultsWithin nesting compose text = [] →
      (∃ d, parseWithin nesting compose text = .ok d) ∨
        ∃ e, parseWithin nesting compose text = .error (.invalid e)) ∧
    (∀ f later, faultsWithin nesting compose text = f :: later →
      parseWithin nesting compose text = .error f.error ∨
        ∃ e, parseWithin nesting compose text = .error (.invalid e)) := by
  have hmeets := meets_parseWithin nesting h
  constructor
  · intro hnil
    rw [hnil] at hmeets
    cases hr : parseWithin nesting compose text with
    | ok d => exact .inl ⟨d, rfl⟩
    | error e =>
      rw [hr] at hmeets
      cases hmeets with
      | line _ e => exact .inr ⟨e, rfl⟩
  · intro f later hcons
    rw [hcons] at hmeets
    cases hr : parseWithin nesting compose text with
    | ok d =>
      rw [hr] at hmeets
      cases hmeets
    | error e =>
      rw [hr] at hmeets
      cases hmeets with
      | line _ e => exact .inr ⟨e, rfl⟩
      | first f later => exact .inl rfl

/-- A document with options of an entity, attributes of both kinds and nested lists, for which
there is just enough room; with less room its lists are a fault. -/
theorem parseWithin_ends_sample :
    let text := "entities:\n  A:\n    weak: true\n    attributes:\n      id: int PK\n" ++
      "  B:\n  - string name\nrelationships:\n- - A ||--o\x7b B\n  - B: x\n"
    (∀ f, Yaml.Node.ofText? text = .error f → f = .malformed) ∧
      faultsWithin 1 Yaml.Node.ofText? text = [] ∧
      ((∃ d, parseWithin 1 Yaml.Node.ofText? text = .ok d) ∨
        ∃ e, parseWithin 1 Yaml.Node.ofText? text = .error (.invalid e)) ∧
      faultsWithin 0 Yaml.Node.ofText? text = [.tooDeep] ∧
      (parseWithin 0 Yaml.Node.ofText? text = .error .tooDeep ∨
        ∃ e, parseWithin 0 Yaml.Node.ofText? text = .error (.invalid e)) := by
  intro text
  obtain ⟨hcomposed, hnone, hdeep⟩ : (Yaml.Node.ofText? text).isOk = true ∧
      faultsWithin 1 Yaml.Node.ofText? text = [] ∧
      faultsWithin 0 Yaml.Node.ofText? text = [.tooDeep] := by decide +kernel
  have hnodes : ∀ f, Yaml.Node.ofText? text = .error f → f = .malformed := fun f hf => by
    rw [hf] at hcomposed
    cases hcomposed
  exact ⟨hnodes, hnone, (parseWithin_ends hnodes).1 hnone, hdeep,
    (parseWithin_ends hnodes).2 _ _ hdeep⟩

/-! ## Texts with a fault

Each fault can be met: there is a text for each of them. For lists that are nested too deeply the
text depends on the room, and it is given for any. -/

/-- A short text for each fault that does not depend on the room. -/
def faulty : List (String × Fault) :=
  [("entities:\n  A:\n    id: ' '\n", .missingType),
    ("entities:\n  A:\n    weak: !!bool \x7b\x7d\n", .weakNotScalar),
    ("relationships: &a\n- *a\n", .endless)]

/-- A text in lists that are nested so many times. -/
def nested : Nat → Yaml.Node
  | 0 => .scalar Yaml.Tag.str .plain "A" 0
  | depth + 1 => .sequence Yaml.Tag.seq [nested depth] 0

/-- Where there is room for some lists, one more of them is too deep. -/
theorem itemsWithin_nested (source : List (List Char)) (room : Nat) :
    Document.itemsWithin source room (nested (room + 1)) = [.error .tooDeep] := by
  induction room with
  | zero => rfl
  | succ room ih =>
    rw [nested, Document.itemsWithin, Document.itemsOfList, Document.itemsOfList, ih]
    rfl

/-- **Not every reading ends with a diagram or a syntax error**, although the reader of YAML does
nothing else than to compose the text. A fault can stand in a text of three lines; and whatever
room there is for nested lists, some finite tree of nodes is too deep for it. -/
theorem not_parse_ends :
    (∀ p ∈ faulty, (Yaml.Node.ofText? p.1).isOk = true ∧
      (parse p.1).map entityNames = .error p.2.error) ∧
    (∀ nesting, parseWithin nesting (fun _ => .ok (some (nested (nesting + 2)))) "A"
      = .error .tooDeep) ∧
    ¬ ∀ text : String, (∀ f, Yaml.Node.ofText? text = .error f → f = .malformed) →
      (∃ d, parse text = .ok d) ∨ ∃ e, parse text = .error (.invalid e) := by
  have hfaulty : ∀ p ∈ faulty, (Yaml.Node.ofText? p.1).isOk = true ∧
      (parse p.1).map entityNames = .error p.2.error := by decide +kernel
  refine ⟨hfaulty, fun nesting => ?_, fun h => ?_⟩
  · show Document.addItems {} (Document.itemsWithin _ (nesting + 1) (nested (nesting + 2))) = _
    rw [itemsWithin_nested]
    rfl
  obtain ⟨hcomposed, hfails⟩ := hfaulty _ List.mem_cons_self
  obtain ⟨d, hd⟩ | ⟨e, he⟩ := h "entities:\n  A:\n    id: ' '\n" fun f hf => by
    rw [hf] at hcomposed
    cases hcomposed
  · rw [hd] at hfails
    cases hfails
  · rw [he] at hfails
    cases hfails

end Diagram

end ErDiagram
