import ErDiagram.Document.Outline
import ErDiagram.Yaml.Node.Basic

/-!
# What the nodes of a document say

A value that is written as YAML comes back as a tree of nodes. How a node is written and on which
line it stands is left open; what it says is not. A text is a scalar that is tagged as text, a
truth value is `true` or `false` with a tag of its own, nothing is a null, and a mapping has the
same keys in the same order.

The readers of documents look at nodes through their texts and tags, so that the lemmas below are
all they need to know of a node that says a value.

A value and a node are compared by a test and not by a relation, which makes it possible to
compute whether a given reader of YAML finds a given document. Statements about texts that are
read again have the reader as a parameter and ask of it just this, for the text at hand
(`Outline.isComposedBack`).
-/

namespace ErDiagram.Yaml

namespace Node

/-- Whether a node is the given text. -/
def isText (s : String) : Node → Bool
  | scalar tag _ text _ => tag == Tag.str && text == s
  | _ => false

/-- Whether nodes are the given texts, one by one. -/
def areTexts : List String → List Node → Bool
  | [], [] => true
  | s :: ss, n :: ns => n.isText s && areTexts ss ns
  | _, _ => false

mutual

/-- **Whether a node means a value.** Tags have to be right, as they are what a reader goes by: a
text such as `true` is a text only if it is tagged as one. Styles, lines and the tags of
collections do not count. -/
def means : Value → Node → Bool
  | .null, .scalar tag .. => tag == Tag.null
  | .bool b, .scalar tag _ text _ => tag == Tag.bool && text == (if b then "true" else "false")
  | .text s, n => n.isText s
  | .texts items, .sequence _ nodes _ => areTexts items nodes
  | .map pairs, .mapping _ nodes _ => meansPairs pairs nodes
  | _, _ => false

/-- Whether the pairs of a mapping mean keys and values. -/
def meansPairs : List (String × Value) → List (Node × Node) → Bool
  | [], [] => true
  | (key, value) :: rest, (k, v) :: more => k.isText key && means value v && meansPairs rest more
  | _, _ => false

end

/-! ## Texts -/

theorem isText_iff {n : Node} {s : String} :
    n.isText s = true ↔ ∃ style line, n = .scalar Tag.str style s line := by
  constructor
  · intro h
    cases n with
    | scalar tag style text line =>
      rw [isText, Bool.and_eq_true] at h
      rw [eq_of_beq h.1, eq_of_beq h.2]
      exact ⟨style, line, rfl⟩
    | _ => cases h
  · rintro ⟨style, line, rfl⟩
    rw [isText, beq_self_eq_true, beq_self_eq_true]
    rfl

/-- A text is no null. -/
theorem text?_of_isText {n : Node} {s : String} (h : n.isText s = true) : n.text? = some s := by
  obtain ⟨style, line, rfl⟩ := isText_iff.1 h
  have hnull : (scalar Tag.str style s line).tagged "null" = false := by
    show (':' :: "null".toList).isSuffixOf Tag.str.toList = false
    decide
  rw [text?, hnull]
  rfl

/-- A text is no truth value, whatever it is. -/
theorem tagged_bool_of_isText {n : Node} {s : String} (h : n.isText s = true) :
    n.tagged "bool" = false := by
  obtain ⟨style, line, rfl⟩ := isText_iff.1 h
  show (':' :: "bool".toList).isSuffixOf Tag.str.toList = false
  decide

/-! ## Other values -/

@[simp] theorem means_text (n : Node) (s : String) : n.means (.text s) = n.isText s := by
  rw [means]

theorem exists_of_means_null {n : Node} (h : n.means .null = true) :
    ∃ style text line, n = .scalar Tag.null style text line := by
  cases n with
  | scalar tag style text line =>
    rw [means] at h
    rw [eq_of_beq h]
    exact ⟨style, text, line, rfl⟩
  | _ => cases h

theorem exists_of_means_true {n : Node} (h : n.means (.bool true) = true) :
    ∃ style line, n = .scalar Tag.bool style "true" line := by
  cases n with
  | scalar tag style text line =>
    rw [means, Bool.and_eq_true] at h
    rw [eq_of_beq h.1, eq_of_beq h.2]
    exact ⟨style, line, rfl⟩
  | _ => cases h

/-- What is true reads so, and is tagged as a truth value. -/
theorem text?_of_means_true {n : Node} (h : n.means (.bool true) = true) :
    n.text? = some "true" ∧ n.tagged "bool" = true := by
  obtain ⟨style, line, rfl⟩ := exists_of_means_true h
  have hnull : (scalar Tag.bool style "true" line).tagged "null" = false := by
    show (':' :: "null".toList).isSuffixOf Tag.bool.toList = false
    decide
  refine ⟨?_, ?_⟩
  · rw [text?, hnull]
    rfl
  · show (':' :: "bool".toList).isSuffixOf Tag.bool.toList = true
    decide

theorem exists_of_means_texts {n : Node} {items : List String} (h : n.means (.texts items) = true) :
    ∃ tag nodes line, n = .sequence tag nodes line ∧ areTexts items nodes = true := by
  cases n with
  | sequence tag nodes line => exact ⟨tag, nodes, line, rfl, h⟩
  | _ => cases h

theorem exists_of_means_map {n : Node} {pairs : List (String × Value)}
    (h : n.means (.map pairs) = true) :
    ∃ tag nodes line, n = .mapping tag nodes line ∧ meansPairs pairs nodes = true := by
  cases n with
  | mapping tag nodes line => exact ⟨tag, nodes, line, rfl, h⟩
  | _ => cases h

theorem exists_of_areTexts_cons {s : String} {ss : List String} {nodes : List Node}
    (h : areTexts (s :: ss) nodes = true) :
    ∃ n ns, nodes = n :: ns ∧ n.isText s = true ∧ areTexts ss ns = true := by
  cases nodes with
  | nil => cases h
  | cons n ns =>
    rw [areTexts, Bool.and_eq_true] at h
    exact ⟨n, ns, rfl, h⟩

theorem eq_nil_of_areTexts {nodes : List Node} (h : areTexts [] nodes = true) : nodes = [] := by
  cases nodes with
  | nil => rfl
  | cons n ns => cases h

theorem exists_of_meansPairs_cons {key : String} {value : Value} {rest : List (String × Value)}
    {nodes : List (Node × Node)} (h : meansPairs ((key, value) :: rest) nodes = true) :
    ∃ k v more, nodes = (k, v) :: more ∧ k.isText key = true ∧ v.means value = true ∧
      meansPairs rest more = true := by
  cases nodes with
  | nil => cases h
  | cons p more =>
    obtain ⟨k, v⟩ := p
    rw [meansPairs, Bool.and_eq_true, Bool.and_eq_true] at h
    exact ⟨k, v, more, rfl, h.1.1, h.1.2, h.2⟩

theorem eq_nil_of_meansPairs {nodes : List (Node × Node)} (h : meansPairs [] nodes = true) :
    nodes = [] := by
  cases nodes with
  | nil => rfl
  | cons n ns => cases h

end Node

end ErDiagram.Yaml

namespace ErDiagram

open Yaml

/-- **The document that a form is the text of.** A block of text is one text, with a line break
behind each of its lines. -/
def Form.value : Form → Value
  | .block title lines =>
    .map [("title", .text title), ("erDiagram", .text (String.join (lines.map (· ++ "\n"))))]
  | .structured sections => .map [("erDiagram", .map sections)]

/-- **Whether a reader of YAML finds in the text of an outline the document that was written.**
This is all that is asked of it. It is asked for one text at a time, so that nothing is assumed
about texts that are never written. -/
def Outline.isComposedBack (o : Outline) (compose : String → Except Failure (Option Node)) :
    Bool :=
  match compose o.text with
  | .ok (some n) => n.means o.form.value
  | _ => false

theorem Outline.exists_of_isComposedBack {o : Outline}
    {compose : String → Except Failure (Option Node)} (h : o.isComposedBack compose = true) :
    ∃ n, compose o.text = .ok (some n) ∧ n.means o.form.value = true := by
  unfold isComposedBack at h
  split at h
  · next n hn => exact ⟨n, hn, h⟩
  · cases h

end ErDiagram
