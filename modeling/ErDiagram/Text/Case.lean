import ErDiagram.Text.CasedRanges
import ErDiagram.Text.CaseRanges

/-!
# Upper and lower case

The case of a text is changed character by character, and a character may turn into several: the
upper case of `ß` is `SS`. With one exception it does not matter where a character stands. The
small letter of a Greek capital sigma is `ς` at the end of a word and `σ` elsewhere, so that a
sigma is looked at together with the text on both sides of it.

Texts are compared in lower case in order to find out whether they are the same but for their case.
The exception decides this for two keys of a document that are Greek: a key in capital letters is
the same as the one that is written with a final sigma.
-/

namespace ErDiagram.Text

private def partner (runs : List CaseRun) (c : Char) : Char :=
  match runs.find? (·.contains c.toNat) with
  | some r => Char.ofNat (c.toNat + r.shift).toNat
  | none => c

/-- The lower case of a character that stands alone. -/
def lowerChar (c : Char) : List Char :=
  if c.toNat < 128 then [c.toLower]
  else if c.toNat = 0x130 then ['i', Char.ofNat 0x307]
  else [partner lowerRuns c]

/-- The upper case of a character. -/
def upperChar (c : Char) : List Char :=
  if c.toNat < 128 then [c.toUpper]
  else match longUppers.lookup c.toNat with
    | some cs => cs.map Char.ofNat
    | none => [partner upperRuns c]

/-- Whether case passes over a character. -/
def isCaseIgnorable (c : Char) : Bool :=
  caseIgnorableRanges.any fun r => r.1 ≤ c.toNat && c.toNat ≤ r.2

/-- Whether a text goes on with a letter that has a case: the first of its characters that counts
is one. -/
def continuesWord (cs : List Char) : Bool :=
  (cs.find? fun c => !isCaseIgnorable c).any fun c =>
    casedRanges.any fun r => r.1 ≤ c.toNat && c.toNat ≤ r.2

/-- **The small letter of a capital sigma**, by what stands before it, seen backwards from it, and
by what stands behind it. It is a final one if it ends a word of at least two letters. -/
def lowerSigma (before after : List Char) : Char :=
  if continuesWord before && !continuesWord after then Char.ofNat 0x3c2 else Char.ofNat 0x3c3

/-- The lower case of a text behind another, of which the last character comes first. -/
def lowerBehind (before : List Char) : List Char → List Char
  | [] => []
  | c :: after =>
    (if c.toNat = 0x3a3 then [lowerSigma before after] else lowerChar c)
      ++ lowerBehind (c :: before) after

/-- **The lower case of a text.** It is not the lower case of its characters one by one, as what
becomes of a capital sigma depends on what is around it. -/
def lower (s : String) : String :=
  String.ofList (lowerBehind [] s.toList)

/-- **The upper case of a text.** -/
def upper (s : String) : String :=
  String.ofList (s.toList.flatMap upperChar)

end ErDiagram.Text
