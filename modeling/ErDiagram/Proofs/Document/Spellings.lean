import ErDiagram.Proofs.Document.Attribute
import ErDiagram.Proofs.Line.Padding
import Mathlib.Data.List.Forall2

/-!
# The spellings of an attribute

An attribute with its type and its flags can be written in three ways: as a line of words inside a
block, as such a line with a colon behind the name, and as a pair of a mapping, whose value has
the type and the flags. A flag is written as its code in any letter case, and codes are names, so
that the first way has nothing but names in it.

The first and the last way are read as the same attribute, with all its flags. Behind a colon,
however, only the first word counts: the line gives the type, and no flag that follows it.

The words that spell a flag are described by their upper case (`Flag.IsSpelling`), as they are
looked up. That such a word is a name needs an argument: few characters have a letter of a code
for their upper case, all of them are among the first 128, and for these it can be computed.
-/

namespace ErDiagram

open Text Yaml

/-! ## The codes of flags -/

namespace Flag

/-- **Whether a word is the code of a flag**, in any letter case. Each letter may have a case of
its own. -/
def IsSpelling (f : Flag) (w : String) : Prop := w.toList.map Char.toUpper = f.code.toList

instance (f : Flag) (w : String) : Decidable (f.IsSpelling w) :=
  inferInstanceAs (Decidable (_ = _))

/-- The letters of the codes. -/
def codeLetters : List Char := ['C', 'D', 'K', 'M', 'N', 'P', 'V']

theorem mem_codeLetters {f : Flag} {c : Char} (h : c ∈ f.code.toList) : c ∈ codeLetters := by
  have hall : f.code.toList.all (codeLetters.contains ·) = true := by
    cases f <;> decide
  exact List.contains_iff_mem.1 (List.all_eq_true.1 hall c h)

theorem toNat_lt_of_toUpper {c : Char} (h : c.toUpper.toNat < 128) : c.toNat < 128 := by
  unfold Char.toUpper at h
  split at h
  · next hc =>
    have hle : c.val.toNat ≤ 122 := UInt32.le_iff_toNat_le.1 hc.2
    exact Nat.lt_of_le_of_lt hle (by decide)
  · exact h

/-- Of the first 128 characters, those that a code has in some letter case are word characters. -/
theorem isWordChar_of_mem_codeLetters :
    ∀ i < 128, (Char.ofNat i).toUpper ∈ codeLetters → isWordChar (Char.ofNat i) = true := by
  decide

variable {f : Flag} {w : String}

theorem IsSpelling.mem (h : f.IsSpelling w) {c : Char} (hc : c ∈ w.toList) :
    c.toNat < 128 ∧ isWordChar c = true := by
  have hcode : c.toUpper ∈ codeLetters := by
    refine mem_codeLetters (f := f) ?_
    rw [← h]
    exact List.mem_map_of_mem hc
  have hascii : codeLetters.all (·.toNat < 128) = true := by decide
  have hlt := toNat_lt_of_toUpper (of_decide_eq_true (List.all_eq_true.1 hascii _ hcode))
  have hword := isWordChar_of_mem_codeLetters c.toNat hlt
  rw [Char.ofNat_toNat] at hword
  exact ⟨hlt, hword hcode⟩

/-- **A flag is found by its code in any letter case.** The word is put in upper case before it is
compared. -/
theorem IsSpelling.ofCode? (h : f.IsSpelling w) : ofCode? (upper w) = some f := by
  have hupper : w.toList.flatMap upperChar = w.toList.map Char.toUpper := by
    rw [List.map_eq_flatMap]
    refine List.flatMap_congr fun c hc => ?_
    exact if_pos (h.mem hc).1
  rw [upper, hupper, h, String.ofList_toList]
  cases f <;> rfl

/-- **A flag is written as an identifier.** -/
theorem IsSpelling.isIdentifier (h : f.IsSpelling w) : isIdentifier w.toList = true := by
  have hlength : w.toList.length = 2 := by
    rw [← List.length_map (f := Char.toUpper), h]
    cases f <;> rfl
  obtain ⟨a, b, hw⟩ := List.length_eq_two.1 hlength
  rw [hw, ErDiagram.isIdentifier, identifierTail, (h.mem (c := a) (by simp [hw])).2,
    (h.mem (c := b) (by simp [hw])).2]
  rfl

end Flag

namespace Attribute

/-- **The flags of an attribute are those that it is given.** Flags that are given twice are set
twice, and no flag is ever taken back. -/
theorem has_ofFlags (name dataType : String) (flags : List Flag) (f : Flag) :
    (ofFlags name dataType flags).has f = true ↔ f ∈ flags := by
  have hfold : ∀ a : Attribute,
      (flags.foldl (fun a f => a.assign f true) a).has f = true ↔ a.has f = true ∨ f ∈ flags := by
    induction flags with
    | nil => exact fun a => (or_iff_left List.not_mem_nil).symm
    | cons g flags ih =>
      intro a
      have hassign : (a.assign g true).has f = true ↔ a.has f = true ∨ f = g := by
        cases f <;> cases g <;> simp [assign, has]
      rw [List.foldl_cons, ih, hassign, List.mem_cons, or_assoc]
  rw [ofFlags, hfold]
  refine or_iff_right ?_
  cases f <;> exact Bool.false_ne_true

/-- Without flags and with some the attributes differ. -/
theorem ofFlags_nil_eq_iff {name dataType : String} {flags : List Flag} :
    ofFlags name dataType [] = ofFlags name dataType flags ↔ flags = [] := by
  constructor
  · intro h
    refine List.eq_nil_iff_forall_not_mem.2 fun f hf => ?_
    rw [← has_ofFlags name dataType, ← h, has_ofFlags] at hf
    cases hf
  · rintro rfl
    rfl

end Attribute

namespace Line

variable {n t : String} {ws : List String} {flags : List Flag}

theorem flagsOf_of_isSpelling (h : List.Forall₂ Flag.IsSpelling flags ws) :
    flagsOf ws = .ok flags := by
  induction h with
  | nil => rfl
  | cons hw _ ih =>
    rw [flagsOf, hw.ofCode?, ih]
    rfl

theorem isIdentifier_of_isSpelling (h : List.Forall₂ Flag.IsSpelling flags ws) :
    ∀ w ∈ ws.map String.toList, isIdentifier w = true := by
  induction h with
  | nil => exact nofun
  | cons hw _ ih => exact List.forall_mem_cons.2 ⟨hw.isIdentifier, ih⟩

/-! ## Lines of names -/

/-- A line of names has no colon. -/
theorem ne_colon_of_mem_joinWith {ws : List (List Char)} (h : ∀ w ∈ ws, isIdentifier w = true) :
    ∀ x ∈ joinWith [' '] ws, x ≠ ':' := by
  intro x hx
  rcases eq_space_or_mem_of_mem_joinWith hx with rfl | ⟨w, hw, hx⟩
  · decide
  · exact ne_colon_of_mem_identifier (h w hw) x hx

/-- **A line of names is read as these names.** -/
theorem map_content_tokenize_joinWith {w : List Char} {ws : List (List Char)}
    (h : ∀ v ∈ w :: ws, isIdentifier v = true) :
    (tokenize (joinWith [' '] (w :: ws))).map Token.content
      = (w :: ws).map fun v => (.ident, v) := by
  have hsilent : isSilent (joinWith [' '] (w :: ws)) = false := by
    rw [joinWith_cons]
    exact isSilent_append (h w List.mem_cons_self) _
  have hcolon := ne_colon_of_mem_joinWith h
  have hchars : (wordsFrom 0 (joinWith [' '] (w :: ws))).map (·.chars)
      = ((w :: ws).map (Word.mk 0)).map (·.chars) := by
    refine (words_joinWith fun v hv => isWord_of_isIdentifier (h v hv)).trans ?_
    rw [List.map_map]
    exact (List.map_id _).symm
  unfold tokenize
  rw [hsilent, if_neg Bool.false_ne_true, beforeColon_eq_self hcolon, afterColon?_eq_none hcolon]
  dsimp only
  rw [List.append_nil, List.map_flatMap]
  refine (contents_eq_of_chars hchars).trans ?_
  unfold contents
  rw [List.flatMap_map, List.map_eq_flatMap]
  refine List.flatMap_congr fun v hv => ?_
  rw [wordTokens_of_isIdentifier (h v hv)]
  rfl

/-- Two names and more are an attribute with its type and its flags. -/
theorem ofTokens_names (inBlock : Bool) (whole : String) (n t : List Char)
    (ws : List (List Char)) :
    ofTokens inBlock whole ((n :: t :: ws).map fun v => ⟨.ident, v, 0⟩)
      = (flagsOf (ws.map String.ofList)).map fun flags =>
          .attribute (String.ofList n) (String.ofList t) flags := by
  generalize hl : (n :: t :: ws).map (fun v => Token.mk .ident v 0) = l
  have hkind : ∀ x ∈ l, x.kind = .ident := by
    intro x hx
    obtain ⟨v, _, rfl⟩ := List.mem_map.1 (hl ▸ hx)
    rfl
  have hbody : l.takeWhile (fun x => decide (x.kind ≠ .colon)) = l :=
    List.takeWhile_eq_self_iff.2 fun x hx => by rw [hkind x hx]; rfl
  have hcolon : l.any (·.kind == .colon) = false :=
    List.any_eq_false.2 fun x hx => by rw [hkind x hx]; decide
  have hsymbol : l.find? (·.kind == .unknownSymbol) = none :=
    List.find?_eq_none.2 fun x hx => by rw [hkind x hx]; decide
  have hcardinality : l.any (·.kind == .cardinality) = false :=
    List.any_eq_false.2 fun x hx => by rw [hkind x hx]; decide
  have hall : l.all (·.kind == .ident) = true :=
    List.all_eq_true.2 fun x hx => by rw [hkind x hx]; rfl
  unfold ofTokens
  dsimp only
  rw [hbody, hcolon, hsymbol]
  dsimp only
  rw [hcardinality, if_neg Bool.false_ne_true]
  subst hl
  rw [List.map_cons, List.map_cons] at hall ⊢
  dsimp only
  rw [if_pos hall, List.map_map]
  rfl

/-- **A line of names is an attribute with its flags.** -/
theorem classify_names (inBlock : Bool) (hn : isIdentifier n.toList = true)
    (ht : isIdentifier t.toList = true) (h : List.Forall₂ Flag.IsSpelling flags ws) :
    classify inBlock (" ".intercalate (n :: t :: ws)) = .ok (.attribute n t flags) := by
  have hnames : ∀ v ∈ n.toList :: t.toList :: ws.map String.toList, isIdentifier v = true :=
    List.forall_mem_cons.2 ⟨hn, List.forall_mem_cons.2 ⟨ht, isIdentifier_of_isSpelling h⟩⟩
  have htokens := map_content_tokenize_joinWith hnames
  unfold classify
  dsimp only
  rw [toList_intercalate_space, List.map_cons, List.map_cons]
  split
  · next hnil =>
    rw [hnil] at htokens
    cases htokens
  · have hsame := htokens.trans (List.map_map (f := fun v : List Char => Token.mk .ident v 0)
      (g := Token.content)).symm
    rw [ofTokens_congr inBlock _ hsame, ofTokens_names, map_ofList_map_toList,
      flagsOf_of_isSpelling h, String.ofList_toList, String.ofList_toList]
    rfl

/-- **Behind a colon the first word is the type, and no other word counts.** This is what makes
the line differ from the other two spellings. -/
theorem classify_colon {text : String} {tail : List Char} (hn : isIdentifier n.toList = true)
    (htext : text.toList = n.toList ++ ':' :: tail) {w : List Char} {more : List (List Char)}
    (hwords : words (strip tail) = w :: more) :
    classify true text = .ok (.attribute n (String.ofList w) []) := by
  have hcolon := ne_colon_of_mem_identifier hn
  have hword := wordsFrom_of_isWord (isWord_of_isIdentifier hn) 0
  have hlabel : (strip tail).isEmpty = false := by
    rw [List.isEmpty_eq_false_iff]
    intro hnil
    rw [hnil] at hwords
    cases hwords
  have htokens : tokenize text.toList
      = ⟨.ident, n.toList, 0⟩ :: labelTokens n.toList.length tail := by
    unfold tokenize
    rw [htext, isSilent_append hn, if_neg Bool.false_ne_true, beforeColon_append hcolon,
      afterColon?_append hcolon]
    dsimp only
    rw [hword, List.flatMap_singleton, wordTokens_of_isIdentifier hn]
    rfl
  unfold classify
  dsimp only
  rw [htokens, labelTokens]
  dsimp only
  rw [hlabel, if_neg Bool.false_ne_true]
  show Except.ok (Line.attribute (String.ofList n.toList) (firstWord (some (strip tail))) []) = _
  rw [String.ofList_toList, firstWord, Option.map_some, hwords]

end Line

namespace Document

variable {n t : String} {ws : List String} {flags : List Flag}

/-- The words of a type and its flags. -/
theorem words_names (ht : isIdentifier t.toList = true)
    (h : List.Forall₂ Flag.IsSpelling flags ws) :
    words (" ".intercalate (t :: ws)).toList = t.toList :: ws.map String.toList := by
  rw [toList_intercalate_space]
  have hnames : ∀ w ∈ t.toList :: ws.map String.toList, isIdentifier w = true :=
    List.forall_mem_cons.2 ⟨ht, Line.isIdentifier_of_isSpelling h⟩
  exact words_joinWith fun w hw => isWord_of_isIdentifier (hnames w hw)

theorem strip_names (ht : isIdentifier t.toList = true)
    (h : List.Forall₂ Flag.IsSpelling flags ws) :
    strip (" ".intercalate (t :: ws)).toList = (" ".intercalate (t :: ws)).toList := by
  have hsqueeze : squeeze (" ".intercalate (t :: ws)).toList
      = (" ".intercalate (t :: ws)).toList := by
    rw [squeeze, words_names ht h, toList_intercalate_space, List.map_cons]
  rw [← hsqueeze, strip_squeeze]

/-- A text that is not empty gives an attribute by its words. -/
theorem attributeOfNode_of_text {value : Node} {s : String} (h : value.text? = some s)
    (hs : s ≠ "") : attributeOfNode n value = attributeOfText n s value.line := by
  have htype : typeText value = s := by
    rw [typeText, h]
    exact if_neg (by simpa using hs)
  cases value with
  | scalar =>
    show attributeOfText n (typeText _) _ = _
    rw [htype]
  | _ => cases h

/-- **The value of a pair is an attribute with its flags.** -/
theorem attributeOfText_names (ht : isIdentifier t.toList = true)
    (h : List.Forall₂ Flag.IsSpelling flags ws) (line : Nat) :
    attributeOfText n (" ".intercalate (t :: ws)) line = .ok (.ofFlags n t flags) := by
  unfold attributeOfText
  rw [words_names ht h]
  dsimp only
  rw [map_ofList_map_toList, Line.flagsOf_of_isSpelling h, String.ofList_toList]

/-- **The spellings of an attribute do not agree once there is a flag.** Inside a block a line of
words gives an attribute with all its flags, whatever the case of their letters, and so does a
pair of a mapping. With a colon behind the name the line is read as well, but to an attribute of
the same name and type without a flag, which is the same one only if there are no flags. Flags may
be repeated and come in any order. -/
theorem attribute_spellings (hn : isIdentifier n.toList = true) (ht : isIdentifier t.toList = true)
    (h : List.Forall₂ Flag.IsSpelling flags ws) :
    let flagged := Attribute.ofFlags n t flags
    let bare := Attribute.ofFlags n t []
    (∀ (b : Line.Block) (d : Diagram) (i : Nat),
      (Line.State.mk (some b) d).read ⟨" ".intercalate (n :: t :: ws), i⟩
        = .ok ⟨some b, d.addAttribute b.entity flagged⟩) ∧
    (∀ (entity : String) (d : Diagram) (tag : String) (i : Nat) (key value : Node),
      key.text? = some n → value.text? = some (" ".intercalate (t :: ws)) →
        addAttributes entity d (.mapping tag [(key, value)] i)
          = .ok (d.addAttribute entity flagged)) ∧
    (∀ (b : Line.Block) (d : Diagram) (i : Nat),
      (Line.State.mk (some b) d).read ⟨n ++ ": " ++ " ".intercalate (t :: ws), i⟩
        = .ok ⟨some b, d.addAttribute b.entity bare⟩) ∧
    (∀ f, flagged.has f = true ↔ f ∈ flags) ∧ (bare = flagged ↔ flags = []) := by
  intro flagged bare
  have hread : ∀ {text : String} {flags : List Flag},
      Line.classify true text = .ok (.attribute n t flags) →
      ∀ (b : Line.Block) (d : Diagram) (i : Nat), (Line.State.mk (some b) d).read ⟨text, i⟩
        = .ok ⟨some b, d.addAttribute b.entity (.ofFlags n t flags)⟩ := by
    intro text flags hline b d i
    have hclassify : NumberedLine.classify ⟨text, i⟩ true = .ok (.attribute n t flags) :=
      NumberedLine.classify_eq_ok.2 hline
    rw [Line.State.read, Option.isSome_some, hclassify]
    rfl
  refine ⟨hread (Line.classify_names true hn ht h), ?_, hread ?_, Attribute.has_ofFlags n t flags,
    Attribute.ofFlags_nil_eq_iff⟩
  · intro entity d tag i key value hkey hvalue
    have hne : " ".intercalate (t :: ws) ≠ "" := by
      intro hempty
      have hwords := words_names ht h
      rw [hempty] at hwords
      cases hwords
    show addAttributePairs entity d [(key, value)] = _
    unfold addAttributePairs
    rw [hkey]
    dsimp only
    rw [attributeOfNode_of_text hvalue hne, attributeOfText_names ht h]
    rfl
  · have htext : (n ++ ": " ++ " ".intercalate (t :: ws)).toList
        = n.toList ++ ':' :: ' ' :: (" ".intercalate (t :: ws)).toList := by
      simp
    have hwords : words (strip (' ' :: (" ".intercalate (t :: ws)).toList))
        = t.toList :: ws.map String.toList := by
      rw [strip_cons_of_isBlank isBlank_space, strip_names ht h, words_names ht h]
    rw [Line.classify_colon hn htext hwords, String.ofList_toList]

/-- A key with a flag in small letters and one in mixed case. -/
theorem attribute_spellings_key :
    let flagged : Attribute :=
      { name := "id", dataType := "int", primaryKey := true, required := true }
    let bare : Attribute := { name := "id", dataType := "int" }
    let key : Node := .scalar Tag.str .plain "id" 2
    let value : Node := .scalar Tag.str .plain "int pk Nn" 2
    isIdentifier "id".toList = true ∧ isIdentifier "int".toList = true ∧
    List.Forall₂ Flag.IsSpelling [.primaryKey, .required] ["pk", "Nn"] ∧
    key.text? = some "id" ∧ value.text? = some "int pk Nn" ∧
    (Line.State.mk (some ⟨"A", 1⟩) {}).read ⟨"id int pk Nn", 2⟩
      = .ok ⟨some ⟨"A", 1⟩, Diagram.addAttribute {} "A" flagged⟩ ∧
    addAttributes "A" {} (.mapping Tag.map [(key, value)] 2)
      = .ok (Diagram.addAttribute {} "A" flagged) ∧
    (Line.State.mk (some ⟨"A", 1⟩) {}).read ⟨"id: int pk Nn", 2⟩
      = .ok ⟨some ⟨"A", 1⟩, Diagram.addAttribute {} "A" bare⟩ ∧
    bare ≠ flagged := by
  intro flagged bare key value
  have hn : isIdentifier "id".toList = true := by decide
  have ht : isIdentifier "int".toList = true := by decide
  have hws : List.Forall₂ Flag.IsSpelling [.primaryKey, .required] ["pk", "Nn"] :=
    .cons (by decide) (.cons (by decide) .nil)
  have hkey : key.text? = some "id" := by decide
  have hvalue : value.text? = some "int pk Nn" := by decide
  obtain ⟨hwords, hpair, hcolon, -, hsame⟩ := attribute_spellings hn ht hws
  exact ⟨hn, ht, hws, hkey, hvalue, hwords ⟨"A", 1⟩ {} 2,
    hpair "A" {} Tag.map 2 key value hkey hvalue, hcolon ⟨"A", 1⟩ {} 2,
    fun h => absurd (hsame.1 h) (by decide)⟩

/-- **A key that is no key**: with a colon behind the name the flag is lost. -/
theorem not_attribute_spellings_key :
    let attributes : Diagram → List Attribute := fun d => d.entities.flatMap (·.attributes)
    (Diagram.parse "A \x7b\n  id int PK\n\x7d").map attributes
      = .ok [{ name := "id", dataType := "int", primaryKey := true }] ∧
    (Diagram.parse "A \x7b\n  id: int PK\n\x7d").map attributes
      = .ok [{ name := "id", dataType := "int" }] ∧
    (Diagram.parse "entities:\n  A:\n    id: int PK\n").map attributes
      = .ok [{ name := "id", dataType := "int", primaryKey := true }] := by
  decide +kernel

end Document

end ErDiagram
