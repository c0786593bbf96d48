import ErDiagram.Record.Field
import ErDiagram.Settings.Basic
import ErDiagram.Settings.Dotenv
import ErDiagram.Text.Case

/-!
# Reading settings

A setting is given by name as an argument, or as a variable whose name has a fixed beginning, or
in a file of variables. Arguments count more than variables, and these more than the file.

The sources are merged into one record first, name by name, and the record is read as any other.
So an issue of a setting says which one it is, and not where it comes from.

An argument may be a JSON value of any kind, whereas a variable is always a text. The readers of
fields take texts for numbers, so that one reader does for both.
-/

namespace ErDiagram.Settings

open Record (Checked)

/-- The path of a text: without empty parts and parts that stay in place. Two slashes in front
are kept, as is one; any other number of them is one. -/
def normalPath (s : String) : String :=
  let cs := s.toList
  let slashes := (cs.takeWhile (· == '/')).length
  let root : List Char := match slashes with
    | 0 => []
    | 2 => ['/', '/']
    | _ => ['/']
  let parts := (Text.splitAt '/' cs).filter fun p => !p.isEmpty && p != ['.']
  let path := root ++ Text.joinWith ['/'] parts
  if path.isEmpty then "." else String.ofList path

/-- A path. -/
def path : Json → Checked String
  | .str s => .ok (normalPath s)
  | _ => Record.faulty .pathType

/-- The names of all settings. -/
def names : List String :=
  ["log_level", "log_file", "layout_seed", "entity_width", "entity_height", "force_iterations",
    "force_repulsion", "force_attraction", "force_spring_length", "force_damping",
    "force_max_step", "force_center_x", "force_center_y", "force_radius", "grid_cell_width",
    "grid_cell_height", "grid_start_x", "grid_start_y", "min_distance", "proximity_threshold",
    "proximity_pull", "line_buffer", "margin", "collision_sweeps"]

/-- **Reads settings**, each of which has a default. -/
def ofRecord (r : Record) : Checked Settings :=
  let d : Settings := {}
  Settings.mk <$> r.optional "log_level" d.logLevel Record.string
    <*> r.optional "log_file" d.logFile (Record.nullable path)
    <*> r.optional "layout_seed" d.layoutSeed Record.int
    <*> r.optional "entity_width" d.entityWidth Record.float
    <*> r.optional "entity_height" d.entityHeight Record.float
    <*> r.optional "force_iterations" d.forceIterations Record.int
    <*> r.optional "force_repulsion" d.forceRepulsion Record.float
    <*> r.optional "force_attraction" d.forceAttraction Record.float
    <*> r.optional "force_spring_length" d.forceSpringLength Record.float
    <*> r.optional "force_damping" d.forceDamping Record.float
    <*> r.optional "force_max_step" d.forceMaxStep Record.float
    <*> r.optional "force_center_x" d.forceCenterX Record.float
    <*> r.optional "force_center_y" d.forceCenterY Record.float
    <*> r.optional "force_radius" d.forceRadius Record.float
    <*> r.optional "grid_cell_width" d.gridCellWidth Record.float
    <*> r.optional "grid_cell_height" d.gridCellHeight Record.float
    <*> r.optional "grid_start_x" d.gridStartX Record.float
    <*> r.optional "grid_start_y" d.gridStartY Record.float
    <*> r.optional "min_distance" d.minDistance Record.float
    <*> r.optional "proximity_threshold" d.proximityThreshold Record.float
    <*> r.optional "proximity_pull" d.proximityPull Record.float
    <*> r.optional "line_buffer" d.lineBuffer Record.float
    <*> r.optional "margin" d.margin Record.float
    <*> r.optional "collision_sweeps" d.collisionSweeps Record.int

/-- What the names of variables for settings start with, in lower case. -/
def variableStart : String := "crowsfoot_"

/-- **Where settings come from.** The sources are given as they are found, a record, a list and a
text, because reading a file of variables is a part of reading settings. -/
structure Sources where
  /-- Arguments by name. -/
  arguments : Record := []
  /-- The variables of the surroundings. -/
  environment : List (String × String) := []
  /-- The text of the file of variables. -/
  file : String := ""

namespace Sources

/-- The value of a variable whatever the case of its name; the last one counts. -/
def lookUp? {α : Type} (vs : List (String × α)) (name : String) : Option α :=
  (vs.reverse.find? fun v => Text.lower v.1 == variableStart ++ name).map (·.2)

/-- The value of a variable of the file, if it gets one there. -/
def fromFile? (s : Sources) (name : String) : Option String :=
  (lookUp? (Dotenv.read s.environment s.file).entries name).join

/-- The value of a setting, from the first source that gives one. -/
def value? (s : Sources) (name : String) : Option Json :=
  match s.arguments.get? name with
  | some v => some v
  | none =>
    match lookUp? s.environment name with
    | some v => some (.str v)
    | none => (s.fromFile? name).map .str

/-- **The settings of all sources.** Only names of settings are looked up, so that what else stands
in the sources is no fault. -/
def settings (s : Sources) : Checked Settings :=
  ofRecord (names.filterMap fun n => (s.value? n).map fun v => (n, v))

end Sources

end ErDiagram.Settings
