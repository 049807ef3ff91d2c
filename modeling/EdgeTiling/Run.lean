import EdgeTiling.Catalog
import EdgeTiling.Catalog.Load
import EdgeTiling.Display
import EdgeTiling.Reporter
import EdgeTiling.Retry
import EdgeTiling.Settings
import EdgeTiling.Survey

/-! Runs: a catalog is loaded and a grid solved, or many grids surveyed. -/

namespace EdgeTiling

inductive Failure
  | settings (cause : SettingsError)
  | io (cause : FileError)
  | catalog (cause : Catalog.LoadError)
  | solver (cause : SolverError)
  | csv (cause : FileError)
  | display (reason : String)
  | unresolved (attempts : Nat) (status : Status)
  | save (cause : SaveError)
  /-- The grid is larger than any memory. -/
  | memory

namespace Failure

def message : Failure → String
  | .settings cause => cause.message
  | .io cause => "IO Error: " ++ cause.message
  | .catalog cause => "Catalog Error: " ++ cause.message
  | .solver cause => "Solver Error: " ++ cause.message
  | .csv cause => "CSV Error: " ++ cause.message
  | .display reason => "Visualization Error: " ++ reason
  | .unresolved attempts status => s!"No solution after {attempts} attempt(s): {status.text}"
  | .save cause => cause.message
  | .memory => "The grid does not fit into memory"

/-- Whether the program does not survive the failure. -/
def isFatal : Failure → Bool
  | .settings .fatal | .solver (.weights .infiniteTotal) | .memory => true
  | _ => false

def ofTrace : Csv.Loss → Failure
  | .rows cause => .csv cause
  | .creation cause | .flush cause => .io cause

def ofSurvey : Csv.Loss → Failure
  | .flush cause => .io cause
  | .creation cause | .rows cause => .csv cause

def ofDisplay : Display.Fault → Failure
  | .write cause => .io cause
  | .flush cause => .display ("Failed to flush terminal: " ++ cause.message)

end Failure

namespace Run

def target : String := "edgewave_app::setup::execution"

variable {m : Type → Type} [Monad m] [Host m]

/-- A built-in catalog or, if there is none of that name, one from a file. -/
def loadCatalog (name : String) : m (Except Catalog.LoadError Catalog) := do
  match Catalog.builtin? name with
  | none => Catalog.load name
  | some entries =>
    let made := Catalog.ofEntries entries
    match made with
    | .ok c => Host.note c.parsedRecord
    | .error _ => pure ()
    Host.note ⟨.info, target, s!"Using built-in catalog '{name}'"⟩
    match made with
    | .ok c => return .ok c
    | .error e => return .error (.invalid e)

def displayFor (s : Settings) (c : Catalog) : Display :=
  { catalog := c, clear := s.mode = .animate }

def showGrid (d : Display) (g : Grid) (status : Status) : m (Except Failure Unit) := do
  match ← d.draw g status with
  | .ok _ => return .ok ()
  | .error e => return .error (.ofDisplay e)

def reportStep (progress : Progress) (status : Status) (r : Reporter) : m Reporter := do
  let (record, r) := r.report (← Host.now) progress
  match record with
  | some record => Host.note record
  | none => pure ()
  if status.isTerminal then do
    let (record, r) := r.finish (← Host.now) progress status
    Host.note record
    return r
  else return r

abbrev Watched (m : Type → Type) := StateT (Option Reporter) m

def observe (s : Settings) (c : Catalog) (solve : Solve Unit Unit) :
    Retry.Event → Watched m (Except Failure Unit)
  | .started attempt seed => do
    StateT.lift (Host.note ⟨.debug, target, s!"Attempt {attempt} starts with seed {seed}"⟩)
    if s.mode = .animate then StateT.lift (showGrid (displayFor s c) solve.grid solve.status)
    else return .ok ()
  | .stepped report => do
    match ← get with
    | none => pure ()
    | some r => set (some (← StateT.lift (reportStep solve.progress report.status r)))
    if s.mode = .animate then
      match ← StateT.lift (showGrid (displayFor s c) solve.grid report.status) with
      | .error e => return .error e
      | .ok _ => do
        StateT.lift (Host.pause s.frameDelay)
        return .ok ()
    else return .ok ()

def watch (s : Settings) (c : Catalog) : Retry.Watch (Watched m) Failure Unit Unit where
  make seed := do
    let e := Engine.standard c.tiles s.selection
    let made := e.start s.width s.height seed []
    made.notes.forM fun n => StateT.lift (Host.note n.record)
    match made.result with
    | .ok solve => return .ok (e, solve)
    | .error cause => return .error (.solver cause)
  observe := observe s c
  note r := StateT.lift (Host.note r)
  fault := .solver

def search (s : Settings) (c : Catalog) (seed : UInt64) :
    m (Except Failure (Retry.Outcome Unit Unit)) := do
  let reporter ← match s.progressInterval with
    | none => pure none
    | some interval => do pure (some (Reporter.new interval (← Host.now)))
  let (result, _) ← (Retry.untilResolved (watch s c) s.attempts seed).run reporter
  return result

def showEnd (s : Settings) (c : Catalog) (solve : Solve Unit Unit) : m (Except Failure Unit) :=
  if s.mode = .terminal then showGrid (displayFor s c) solve.grid solve.status else return .ok ()

def writeTrace (s : Settings) (c : Catalog) (history : List Collapse) :
    m (Except Failure Unit) := do
  match s.traceCsv with
  | none => return .ok ()
  | some path =>
    match ← saveTrace c history path with
    | .ok _ => return .ok ()
    | .error e => return .error (.ofTrace e)

def writeGrid (s : Settings) (c : Catalog) (solve : Solve Unit Unit) :
    m (Except Failure Unit) := do
  match s.outputPath with
  | none => return .ok ()
  | some path =>
    match ← saveGrid solve.snapshot c solve.seed s.outputFormat path with
    | .ok _ => return .ok ()
    | .error e => return .error (.save e)

def standardRecord : Record := ⟨.info, target, "Running standard mode..."⟩

/-- Solves a grid. The collapses of the last attempt are written in any case, the grid only if it
is resolved. -/
def standard (s : Settings) (c : Catalog) (seed : UInt64) :
    m (Except Failure (Retry.Outcome Unit Unit)) := do
  Host.note standardRecord
  match ← search s c seed with
  | .error e => return .error e
  | .ok outcome =>
    match ← showEnd s c outcome.solve with
    | .error e => return .error e
    | .ok _ =>
      match ← writeTrace s c outcome.solve.history with
      | .error e => return .error e
      | .ok _ =>
        match outcome.solve.status with
        | .resolved =>
          match ← writeGrid s c outcome.solve with
          | .error e => return .error e
          | .ok _ => return .ok outcome
        | status => return .error (.unresolved outcome.attempts status)

def survey (s : Settings) (c : Catalog) (seed : UInt64) (runs : Nat) :
    m (Except Failure Unit) := do
  match ← Survey.run c.tiles s.width s.height s.selection seed runs with
  | .error e => return .error (.solver e)
  | .ok trials => do
    Host.print (Survey.summarize trials).text
    match s.surveyCsv with
    | none => return .ok ()
    | some path =>
      match ← Survey.saveTable trials path with
      | .ok _ => return .ok ()
      | .error e => return .error (.ofSurvey e)

def outcomeText (s : Settings) (o : Retry.Outcome Unit Unit) : String :=
  let result := if o.resolved then "Resolved" else "Failed to resolve"
  s!"{result} {s.width}x{s.height} grid with seed {o.solve.seed} in {o.solve.steps} steps ({o.attempts} attempt(s))\n"

def startRecord (s : Settings) (seed : UInt64) : Record :=
  match s.survey with
  | some runs => Survey.startRecord s.width s.height seed runs
  | none => standardRecord

def execute (s : Settings) (seed : UInt64) : m (Except Failure Unit) := do
  match ← loadCatalog s.catalog with
  | .error e => return .error (.catalog e)
  | .ok c => do
    Host.note ⟨.info, target, s!"Catalog loaded: {c.size} tiles, grid {s.width}x{s.height}"⟩
    if Grid.exceedsMemory s.width s.height c.size then do
      Host.note (startRecord s seed)
      return .error .memory
    else match s.survey with
    | some runs => survey s c seed runs
    | none =>
      match ← standard s c seed with
      | .error e => return .error e
      | .ok o => do
        Host.print (outcomeText s o)
        return .ok ()

end Run

end EdgeTiling
