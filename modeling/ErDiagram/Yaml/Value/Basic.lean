/-!
# YAML values

What a document says, without how it is written: texts, truth values, nothing, lists of texts, and
mappings whose keys are texts. These are the values that diagrams are written as, and not all that
a document can say. A list has texts only, as lists are lists of lines here.

Writing goes from a value to a text, and reading from a text to a node, so that the two types meet
only in the statement that a text which was written is read back.
-/

namespace ErDiagram.Yaml

/-- **A value that can be written as YAML.** It has only what diagrams are made of, with keys that
are texts. What is read is a `Node`, which has tags, styles and lines; a value has none of these,
since how it is written follows from what it is. -/
inductive Value where
  | null
  | bool (b : Bool)
  | text (s : String)
  | texts (items : List String)
  | map (pairs : List (String × Value))

namespace Value

instance : Inhabited Value := ⟨null⟩

end Value

end ErDiagram.Yaml
