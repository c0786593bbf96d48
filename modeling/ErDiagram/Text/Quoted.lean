import ErDiagram.Text.Surrogate
import ErDiagram.Text.VisibleRanges

/-!
# Quoted texts

A text inside a message stands in single quotes, or in double ones if it has a single quote and no
double one. Whatever could not be told apart by its looks is escaped, so that the quoted text
stays on one line.

What can be seen is a matter of Unicode, hence a table beyond ASCII. An escape is as short as the
code point of its character allows.
-/

namespace ErDiagram.Text

/-- Whether a character has a shape, or is the plain space. -/
def isVisible (c : Char) : Bool :=
  if c.toNat < 128 then 32 ≤ c.toNat && c.toNat < 127
  else visibleRanges.any fun r => r.1 ≤ c.toNat && c.toNat ≤ r.2

/-- A backslash, a letter and a number in hexadecimal digits. -/
private def numberEscape (letter : Char) (width n : Nat) : List Char :=
  let ds := Nat.toDigits 16 n
  '\\' :: letter :: List.replicate (width - ds.length) '0' ++ ds

/-- A character between the given quotes. -/
private def quotedChar (quote c : Char) : List Char :=
  if c = quote ∨ c = '\\' then ['\\', c]
  else if c = '\t' then ['\\', 't']
  else if c = '\n' then ['\\', 'n']
  else if c = '\r' then ['\\', 'r']
  else if isVisible c then [c]
  else
    let n := unitOf c
    if n ≤ 0xff then numberEscape 'x' 2 n
    else if n ≤ 0xffff then numberEscape 'u' 4 n
    else numberEscape 'U' 8 n

/-- **A text in quotes.** Which quotes they are depends on the text, so that single quotes need no
backslash where there are no others. -/
def quoted (s : String) : String :=
  let cs := s.toList
  let quote := if cs.contains '\'' && !cs.contains '"' then '"' else '\''
  String.ofList (quote :: cs.flatMap (quotedChar quote) ++ [quote])

end ErDiagram.Text
