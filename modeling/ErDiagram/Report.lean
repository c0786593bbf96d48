import ErDiagram.Canvas.Writing
import ErDiagram.Connectivity.Analysis
import ErDiagram.Diagram.Record
import ErDiagram.Generation
import ErDiagram.Validation

/-!
# Reports

What the command line and the service answer with when all goes well. Both give the same fields,
and what they add to these, such as an exit code or a status, is said where they are defined.

There is one function for each kind of report, and both callers agree in their answers because they
call it and add nothing inside.
-/

namespace ErDiagram

namespace Report

/-- A report of success with the given fields. -/
def success (fields : List (String × Json)) : Json := .obj (("success", .bool true) :: fields)

/-- The report on a text that has been read. -/
def diagram (d : Diagram) : Json := success [("diagram", d.toJson)]

/-- The report on the shape of a diagram. -/
def analysis (d : Diagram) : Json := success [("analysis", d.analyze.toJson)]

/-- What validation finds, and its summary. -/
def findings (d : Diagram) : List (String × Json) :=
  let found := d.validate
  [("issues", .arr (found.map Finding.toJson)), ("summary", (Summary.of found).toJson)]

/-- The report on what is odd about a diagram. -/
def validation (d : Diagram) : Json := success (findings d)

/-- A generated diagram as fields. -/
def generatedFields (g : Generated) : List (String × Json) :=
  [("diagram", g.diagram.toJson), ("pattern", .str g.pattern.name),
    ("strategy", .str g.strategy.name)]

/-- The report on a diagram that has been laid out. -/
def generated (g : Generated) : Json := success (generatedFields g)

/-- The report on a text that has been written. -/
def text (s : String) : Json := success [("text", .str s)]

/-- What is said when there is nothing to write. -/
def nothingToWrite : String := "No ER entities found to serialize"

end Report

end ErDiagram
