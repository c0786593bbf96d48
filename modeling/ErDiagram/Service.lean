import ErDiagram.Report

/-!
# The service

The requests of an editor and the replies to them. A request that lacks what it needs is rejected
before anything is done; what a text does wrong is told with its line.

A reply is a value of its own, and its status and its body are functions of it. Where reading or
laying out fails in a way that is no fault of the text, there is a reply without a status: nothing
catches such a failure.
-/

namespace ErDiagram.Service

/-- The version that the service reports. -/
def version : String := "0.1.0"

/-- **What can be asked for.** No request leaves anything behind for the next, so that a reply is a
function of the settings, the endpoint and the body. -/
inductive Endpoint where
  | health
  | parse
  | analyze
  | validate
  | generate
  | serialize
deriving Repr, DecidableEq

/-- The endpoint of a name. -/
def Endpoint.ofName? (s : String) : Option Endpoint :=
  [("health", health), ("parse", parse), ("analyze", analyze), ("validate", validate),
    ("generate", generate), ("serialize", serialize)].lookup s

/-- **A reply.** There is a constructor for each way in which handling a request may end, those
included for which nothing is sent back, so that a statement on replies covers every request. -/
inductive Reply where
  /-- All went well. -/
  | done (body : Json)
  /-- The request does not fit. -/
  | rejected (issues : List Record.Issue)
  /-- The text says something wrong on a line. -/
  | invalid (e : SyntaxError)
  /-- The text is blank where it must not be. -/
  | blank
  /-- There is nothing to write. -/
  | nothingToWrite
  /-- Reading or laying out failed in a way that there is no reply for. -/
  | readingFailed (e : ReadingError)
  | layoutFailed (e : LayoutError)

namespace Reply

/-- The status of a reply, if it has one. -/
def status? : Reply → Option Nat
  | done _ => some 200
  | rejected _ => some 422
  | invalid _ => some 400
  | blank => some 400
  | nothingToWrite => some 422
  | _ => none

/-- What a reply tells about a failure. -/
def detail? : Reply → Option Json
  | invalid e => some (.obj [("message", .str e.message), ("line", .ofNat e.line)])
  | blank => some (.obj [("message", .str GenerationError.blankMessage)])
  | nothingToWrite => some (.obj [("message", .str Report.nothingToWrite)])
  | _ => none

end Reply

/-- A request with a text. -/
structure TextRequest where
  /-- The text. -/
  text : String

/-- Reads a request with a text. -/
def TextRequest.ofRecord (r : Record) : Record.Checked TextRequest :=
  TextRequest.mk <$> r.required "text" Record.string

/-- The name of a strategy. -/
def strategyField : Json → Record.Checked Strategy
  | .str s =>
    match Strategy.ofName? s with
    | some t => .ok t
    | none => Record.faulty .choice
  | _ => Record.faulty .choice

/-- A request to generate a diagram. -/
structure GenerateRequest where
  /-- The text. -/
  text : String
  /-- The strategy, if one is asked for. -/
  strategy : Option Strategy

/-- Reads a request to generate a diagram. -/
def GenerateRequest.ofRecord (r : Record) : Record.Checked GenerateRequest :=
  GenerateRequest.mk <$> r.required "text" Record.string
    <*> r.optional "strategy" none (Record.nullable strategyField)

/-- Reads a request and replies to it. -/
def withRequest {α : Type} (read : Record → Record.Checked α) (body : Json) (reply : α → Reply) :
    Reply :=
  match Record.nested read body with
  | .issues l => .rejected l
  | .ok a => reply a

/-- Reads the text of a request and reports on the diagram. -/
def onDiagram (report : Diagram → Json) (r : TextRequest) : Reply :=
  match Diagram.parse r.text with
  | .ok d => .done (report d)
  | .error (.invalid e) => .invalid e
  | .error e => .readingFailed e

/-- Generates a diagram. -/
def onGenerate (s : Settings) (r : GenerateRequest) : Reply :=
  match ErDiagram.generate r.text (r.strategy.map Strategy.name) s with
  | .ok g => .done (Report.generated g)
  | .error .blank => .blank
  | .error (.reading (.invalid e)) => .invalid e
  | .error (.reading e) => .readingFailed e
  | .error (.layout e) => .layoutFailed e

/-- Writes a graph. -/
def onGraph (g : Canvas.Graph) : Reply :=
  match g.serialize? with
  | some s => .done (Report.text s)
  | none => .nothingToWrite

/-- **Replies to a request.** All that a reply depends on is in the arguments. The endpoints that
only read a text differ in their reports, and they fail alike. -/
def handle (s : Settings) (e : Endpoint) (body : Json) : Reply :=
  match e with
  | .health => .done (.obj [("status", .str "ok"), ("version", .str version)])
  | .parse => withRequest TextRequest.ofRecord body (onDiagram Report.diagram)
  | .analyze => withRequest TextRequest.ofRecord body (onDiagram Report.analysis)
  | .validate => withRequest TextRequest.ofRecord body (onDiagram Report.validation)
  | .generate => withRequest GenerateRequest.ofRecord body (onGenerate s)
  | .serialize => withRequest Canvas.Graph.ofRecord body onGraph

end ErDiagram.Service
