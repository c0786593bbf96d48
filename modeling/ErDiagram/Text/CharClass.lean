import ErDiagram.Text.WordRanges

/-!
# Classes of characters

Names, words and lines are told apart by three classes of characters, each of them a class of
Unicode and not of ASCII alone: word characters (what names are made of), blanks (what separates
words) and line breaks (what separates lines). Every line break is a blank, and no blank is a word
character.

Beyond ASCII the classes are given by tables. Word characters are too many to be listed, so that
their table is one of ranges; a character below 128 is decided without it, which is what makes
short texts quick to compute with.
-/

namespace ErDiagram.Text

/-- **Word characters**: letters, digits and other numbers of every script, and the
underscore. -/
def isWordChar (c : Char) : Bool :=
  if c.toNat < 128 then c.isAlphanum || c == '_'
  else wordRanges.any fun r => r.1 ≤ c.toNat && c.toNat ≤ r.2

/-- **Blanks**: the space characters of every width, the tab, the line breaks and the four
information separators. -/
def isBlank (c : Char) : Bool :=
  let n := c.toNat
  (9 ≤ n && n ≤ 13) || (28 ≤ n && n ≤ 32) || n == 0x85 || n == 0xa0 || n == 0x1680
    || (0x2000 ≤ n && n ≤ 0x200a) || n == 0x2028 || n == 0x2029 || n == 0x202f
    || n == 0x205f || n == 0x3000

/-- **Line breaks**: the characters that end a line. A carriage return followed by a line feed
ends one line and not two; that is the business of `lines`. -/
def isLineBreak (c : Char) : Bool :=
  let n := c.toNat
  (10 ≤ n && n ≤ 13) || (28 ≤ n && n ≤ 30) || n == 0x85 || n == 0x2028 || n == 0x2029

/-- Decimal digits of ASCII. -/
def isAsciiDigit (c : Char) : Bool :=
  '0' ≤ c && c ≤ '9'

theorem isBlank_of_isLineBreak {c : Char} (h : isLineBreak c = true) : isBlank c = true := by
  simp only [isLineBreak, isBlank, Bool.or_eq_true, Bool.and_eq_true, decide_eq_true_eq,
    beq_iff_eq] at h ⊢
  omega

end ErDiagram.Text
