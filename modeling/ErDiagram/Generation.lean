import ErDiagram.Document.Reading
import ErDiagram.Layout.Placement

/-!
# Generation

From a text to a diagram with places: the text is read, the diagram is laid out, and the layout is
refined and written into the entities.

Each of the steps is defined elsewhere, and what is said here is how they are joined: which
strategy is used, which size entities are given, and which error stands for which step that
failed.
-/

namespace ErDiagram

/-- **A diagram that has been laid out.** The places are in it twice, in the entities and as a
map, as both are answered to those who ask for a diagram. -/
structure Generated where
  /-- The diagram, with the places and the size of its entities. -/
  diagram : Diagram
  /-- Its pattern. -/
  pattern : Pattern
  /-- The strategy of the layout. -/
  strategy : Strategy
  /-- Where its entities are. -/
  positions : PositionMap Float

/-- Gives all entities a size. -/
def Diagram.resize (d : Diagram) (width height : Float) : Diagram :=
  { d with entities := d.entities.map fun e => { e with width, height } }

/-- **Lays out a diagram and refines the layout**, by the strategy of a name or by the
recommended one. -/
def Diagram.generate (d : Diagram) (strategy : Option String) (s : Settings) :
    Except LayoutError Generated := do
  let a := d.analyze
  let t ← Layout.choose a strategy
  let m ← d.layout a t s
  let positions := Refinement.refine s.refinement d.ends m
  let diagram := (d.resize s.entityWidth s.entityHeight).applyPositions positions
  pure { diagram, pattern := a.pattern, strategy := t, positions }

/-- **Why nothing is generated from a text.** The constructors are the steps that may fail, in
their order. -/
inductive GenerationError where
  /-- The text is blank. -/
  | blank
  /-- The text cannot be read. -/
  | reading (e : ReadingError)
  /-- The diagram cannot be laid out. -/
  | layout (e : LayoutError)
deriving Repr, DecidableEq

/-- The wording for a blank text. -/
def GenerationError.blankMessage : String := "Source text is empty"

/-- **Generates a diagram from a text** that is read with a given reader of YAML. A blank text is
refused before it is read, although reading it would give a diagram: there is nothing to lay out. -/
def generateBy (compose : String → Except Yaml.Failure (Option Yaml.Node)) (text : String)
    (strategy : Option String) (s : Settings) : Except GenerationError Generated :=
  if Text.allBlank text.toList then .error .blank
  else match Diagram.parseBy compose text with
    | .error e => .error (.reading e)
    | .ok d => (d.generate strategy s).mapError .layout

/-- **Generates a diagram from a text** with the reader of YAML that is defined here. -/
def generate (text : String) (strategy : Option String) (s : Settings) :
    Except GenerationError Generated :=
  generateBy Yaml.Node.ofText? text strategy s

end ErDiagram
