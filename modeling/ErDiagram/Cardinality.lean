import ErDiagram.Text.Case
import ErDiagram.Text.Split

/-!
# Cardinalities

Each end of a relationship has one of four multiplicities, and a crow's-foot symbol such as
`||--o{` writes both: its left half belongs to the source end, its right half to the target end.
All sixteen combinations have a symbol, and different combinations have different ones.

A symbol is computed from its two halves, and what it is the symbol of is found by going through
the sixteen. So the table of symbols cannot disagree with itself, and reading a symbol back is a
lemma (`ofSymbol?_symbol`) and no second table.
-/

namespace ErDiagram

/-- How many instances take part on one end of a relationship. There are four answers and no
numbers, because no more than whether none and whether many are allowed can be written as a half
of a symbol. -/
inductive Multiplicity where
  | one
  | zeroOrOne
  | oneOrMany
  | zeroOrMany
deriving Repr, DecidableEq

namespace Multiplicity

/-- The four multiplicities in the order in which tables list them. -/
def all : List Multiplicity := [one, zeroOrOne, oneOrMany, zeroOrMany]

/-- The name of a multiplicity in answers. -/
def name : Multiplicity → String
  | one => "one"
  | zeroOrOne => "zero-or-one"
  | oneOrMany => "one-or-many"
  | zeroOrMany => "zero-or-many"

/-- The half of a symbol that stands at the source. -/
def sourceHalf : Multiplicity → List Char
  | one => ['|', '|']
  | zeroOrOne => ['|', 'o']
  | oneOrMany => ['}', '|']
  | zeroOrMany => ['}', 'o']

/-- The half of a symbol that stands at the target. -/
def targetHalf : Multiplicity → List Char
  | one => ['|', '|']
  | zeroOrOne => ['o', '|']
  | oneOrMany => ['|', '{']
  | zeroOrMany => ['o', '{']

/-- The other spellings of each multiplicity, in lower case. -/
def synonyms : Multiplicity → List String
  | one => ["1", "1..1", "one", "exactly-one", "exactly one", "only-one", "one-and-only-one",
      "||", "mandatory-one"]
  | zeroOrOne => ["0..1", "0,1", "?", "optional", "zero-or-one", "zero or one", "|o", "o|"]
  | oneOrMany => ["1..n", "1..*", "1..m", "+", "1+", "one-or-many", "one or many",
      "one-or-more", "many-required", "\x7d|", "|\x7b"]
  | zeroOrMany => ["0..n", "0..*", "0..m", "*", "n", "m", "many", "zero-or-many",
      "zero or many", "zero-or-more", "\x7do", "o\x7b"]

/-- **The multiplicity that a free text stands for.** Case and the blanks around the text do not
matter, and a text that is no known spelling stands for `zeroOrMany`, which excludes nothing. -/
def ofText (s : String) : Multiplicity :=
  let key := Text.lower (String.ofList (Text.strip s.toList))
  (all.find? fun m => m.synonyms.contains key).getD zeroOrMany

end Multiplicity

/-- **A cardinality**: the multiplicities at the two ends of a relationship. It is this pair that a
relationship has, and not a symbol: a relationship with an unknown symbol cannot be built, and the
symbol is a function of the pair. -/
structure Cardinality where
  /-- The multiplicity at the source. -/
  source : Multiplicity
  /-- The multiplicity at the target. -/
  target : Multiplicity
deriving Repr, DecidableEq

namespace Cardinality

/-- The sixteen cardinalities, those with the same source side by side. -/
def all : List Cardinality :=
  Multiplicity.all.flatMap fun s => Multiplicity.all.map fun t => ⟨s, t⟩

/-- The characters of the symbol of a cardinality: two halves joined by a solid line. -/
def chars (c : Cardinality) : List Char :=
  c.source.sourceHalf ++ ['-', '-'] ++ c.target.targetHalf

/-- **The symbol of a cardinality.** It is a function, so that the sixteen symbols are nowhere
listed, and that they are different is proved. -/
def symbol (c : Cardinality) : String :=
  String.ofList c.chars

/-- The cardinality that a list of characters is the symbol of. -/
def ofChars? (cs : List Char) : Option Cardinality :=
  all.find? fun c => c.chars == cs

/-- **The cardinality that a text is the symbol of.** No text is cut into halves for this: a text is
a symbol if it is the symbol of one of the sixteen. -/
def ofSymbol? (s : String) : Option Cardinality :=
  ofChars? s.toList

theorem mem_all (c : Cardinality) : c ∈ all := by
  obtain ⟨s, t⟩ := c
  cases s <;> cases t <;> decide

theorem ofChars?_chars (c : Cardinality) : ofChars? c.chars = some c := by
  obtain ⟨s, t⟩ := c
  cases s <;> cases t <;> decide

/-- **Every symbol is read back.** -/
theorem ofSymbol?_symbol (c : Cardinality) : ofSymbol? c.symbol = some c := by
  rw [ofSymbol?, symbol, String.toList_ofList, ofChars?_chars]

end Cardinality

end ErDiagram
