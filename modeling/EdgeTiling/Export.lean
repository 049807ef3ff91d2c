import EdgeTiling.Catalog
import EdgeTiling.Csv
import EdgeTiling.Serial
import EdgeTiling.Text.Quoted

/-! Results of a solve as files: the decided grid, and the collapses that led to it. -/

namespace EdgeTiling

inductive GridFormat
  | text
  | json
  deriving DecidableEq, Repr

namespace GridFormat

def all : List GridFormat := [.text, .json]

def name : GridFormat → String
  | .text => "text"
  | .json => "json"

def title : GridFormat → String
  | .text => "Text"
  | .json => "Json"

end GridFormat

inductive SaveError
  | creation (path : Path)
  | undecided (position : Position)
  | unwritten (cause : FileError)
  | unserialized
  | unflushed
  deriving DecidableEq, Repr

def SaveError.message : SaveError → String
  | .creation path => "Failed to create output file: " ++ Text.quotePath path
  | .undecided p => s!"Grid cell {p.text} is not resolved, cannot save."
  | .unwritten cause => cause.message
  | .unserialized => "Failed to serialize grid as JSON"
  | .unflushed => "Failed to flush writer for output file"

def gridDocument (s : Snapshot) (c : Catalog) (seed : UInt64) : Json.Tree :=
  .object [("seed", .number seed.toNat),
    ("tile_names", .list (c.tiles.tiles.toList.map fun t => .text t.name)),
    ("grid", Snapshot.form.tree s)]

def gridText (s : Snapshot) (c : Catalog) (seed : UInt64) :
    GridFormat → Except SaveError String
  | .text =>
    match s.text with
    | .ok t => .ok t
    | .error p => .error (.undecided p)
  | .json => .ok (String.ofList ((gridDocument s c seed).pretty 0) ++ "\n")

def traceHeader : List String := ["step", "x", "y", "tile", "name"]

/-- The row of the collapse that was made as number `step`. -/
def traceRow (c : Catalog) (step : Nat) (made : Collapse) : List String :=
  [toString step, toString made.position.x, toString made.position.y, toString made.tile,
    (c.name? made.tile).getD "?"]

def traceRows (c : Catalog) (step : Nat) : List Collapse → List (List String)
  | [] => []
  | made :: rest => traceRow c step made :: traceRows c (step + 1) rest

def traceText (c : Catalog) (history : List Collapse) : String :=
  Csv.table traceHeader (traceRows c 1 history)

/-- Why a text did not get into its file. A short text is written only at the end. -/
def SaveError.ofLoss (format : GridFormat) (text : String) (cause : FileError) : SaveError :=
  if text.utf8ByteSize < bufferSize then .unflushed
  else match format with
    | .text => .unwritten cause
    | .json => .unserialized

variable {m : Type → Type} [Monad m] [Host m]

/-- Saves a grid. The file is made before the grid is looked at. -/
def saveGrid (s : Snapshot) (c : Catalog) (seed : UInt64) (format : GridFormat) (path : Path) :
    m (Except SaveError Unit) := do
  let target := "edgewave_app::output"
  Host.note ⟨.info, target, s!"Attempting to save grid to {Text.quotePath path}..."⟩
  match ← Host.save path "" with
  | .error _ => return .error (.creation path)
  | .ok _ =>
    match gridText s c seed format with
    | .error e => return .error e
    | .ok text =>
      match ← Host.save path text with
      | .error e => return .error (.ofLoss format text e)
      | .ok _ => do
        Host.note ⟨.info, target, s!"Successfully saved grid to {Text.quotePath path}"⟩
        return .ok ()

def saveTrace (c : Catalog) (history : List Collapse) (path : Path) :
    m (Except Csv.Loss Unit) := do
  match ← Csv.save path (traceText c history) with
  | .error e => return .error e
  | .ok _ => do
    Host.note ⟨.info, "edgewave_app::trace",
      s!"Wrote {history.length} collapses to {Text.quotePath path}"⟩
    return .ok ()

end EdgeTiling
