import EdgeTiling.Csv
import EdgeTiling.Number
import EdgeTiling.Solver
import EdgeTiling.Text.Quoted

/-! Solves of consecutive seeds and what they have in common. -/

namespace EdgeTiling.Survey

structure Trial where
  seed : UInt64
  resolved : Bool
  steps : Nat
  resolvedCells : Nat
  /-- The cell of the contradiction, if there was one. -/
  contradictionAt : String
  milliseconds : Float := 0

def cellText : Status → String
  | .contradiction p => s!"{p.x},{p.y}"
  | _ => ""

/-- One solve with the standard rules, and the notes taken. -/
def trial (tiles : TileSet) (width height : Nat) (how : Selection) (seed : UInt64) :
    Except SolverError Trial × List Note :=
  let e := Engine.standard tiles how
  let made := e.start width height seed []
  match made.result with
  | .error cause => (.error cause, made.notes)
  | .ok s =>
    let r := e.run s
    let notes := made.notes ++ r.notes
    match r.result with
    | .error cause => (.error cause, notes)
    | .ok status => (.ok ⟨seed, status == .resolved, r.solve.steps, r.solve.grid.resolvedCount,
        cellText status, 0⟩, notes)

def target : String := "edgewave_app::survey"

def startRecord (width height : Nat) (base : UInt64) (runs : Nat) : Record :=
  ⟨.info, target, s!"Surveying {runs} seeds from {base} on a {width}x{height} grid"⟩

section

variable {m : Type → Type} [Monad m] [Host m]

def timedTrial (tiles : TileSet) (width height : Nat) (how : Selection) (seed : UInt64) :
    m (Except SolverError Trial) := do
  let before ← Host.now
  let (result, notes) := trial tiles width height how seed
  notes.forM fun n => Host.note n.record
  let after ← Host.now
  return result.map fun t => { t with milliseconds := (after.since before).toSeconds * 1000 }

def trials (tiles : TileSet) (width height : Nat) (how : Selection) (seed : UInt64) :
    Nat → m (Except SolverError (List Trial))
  | 0 => return .ok []
  | n + 1 => do
    match ← timedTrial tiles width height how seed with
    | .error e => return .error e
    | .ok t => return (← trials tiles width height how (seed + 1) n).map (t :: ·)

def run (tiles : TileSet) (width height : Nat) (how : Selection) (base : UInt64) (runs : Nat) :
    m (Except SolverError (List Trial)) := do
  Host.note (startRecord width height base runs)
  trials tiles width height how base runs

end

/-- The sum from the front; it starts at the zero that changes no summand. -/
def sum (xs : List Float) : Float := xs.foldl (· + ·) (-0.0)

def mean (xs : List Float) : Option Float :=
  if xs.isEmpty then none else some (sum xs / Float.ofNat xs.length)

/-- The middle of the numbers in order, or the mean of the two in the middle. -/
def median (xs : List Float) : Option Float := do
  let sorted := xs.mergeSort fun a b => a ≤ b
  let mid := sorted.length / 2
  if sorted.length % 2 = 1 then sorted[mid]?
  else
    let low ← sorted[mid - 1]?
    let high ← sorted[mid]?
    return (low + high) / 2

def deviation (xs : List Float) (mean : Float) : Option Float :=
  if xs.length < 2 then none
  else some (sum (xs.map fun x => (mean - x) * (mean - x)) / Float.ofNat (xs.length - 1)).sqrt

structure Summary where
  runs : Nat
  resolved : Nat
  contradictions : Nat
  meanSteps : Option Float
  medianSteps : Option Float
  deviationSteps : Option Float
  meanMilliseconds : Option Float

def Summary.successRate (s : Summary) : Float :=
  if s.runs = 0 then 0 else Float.ofNat s.resolved / Float.ofNat s.runs * 100

def summarize (ts : List Trial) : Summary :=
  let resolved := ts.countP (·.resolved)
  let steps := ts.map fun t => Float.ofNat t.steps
  let average := mean steps
  { runs := ts.length
    resolved := resolved
    contradictions := ts.length - resolved
    meanSteps := average
    medianSteps := median steps
    deviationSteps := average.bind (deviation steps)
    meanMilliseconds := mean (ts.map (·.milliseconds)) }

def Summary.text (s : Summary) : String :=
  let number (x : Option Float) := (x.map (fixedText 2)).getD "N/A"
  String.join (["", "--- Survey Summary ---", s!"Runs          | {s.runs}",
    s!"Resolved      | {s.resolved} ({fixedText 1 s.successRate}%)",
    s!"Contradictions| {s.contradictions}", s!"Mean steps    | {number s.meanSteps}",
    s!"Median steps  | {number s.medianSteps}", s!"Std dev steps | {number s.deviationSteps}",
    s!"Mean time (ms)| {number s.meanMilliseconds}", "----------------------"].map (· ++ "\n"))

def header : List String :=
  ["seed", "resolved", "steps", "resolved_cells", "contradiction_at", "elapsed_ms"]

def Trial.row (t : Trial) : List String :=
  [toString t.seed, Csv.boolText t.resolved, toString t.steps, toString t.resolvedCells,
    t.contradictionAt, Csv.floatText t.milliseconds]

def tableText (ts : List Trial) : String := Csv.table header (ts.map Trial.row)

def saveTable {m : Type → Type} [Monad m] [Host m] (ts : List Trial) (path : Path) :
    m (Except Csv.Loss Unit) := do
  match ← Csv.save path (tableText ts) with
  | .error e => return .error e
  | .ok _ => do
    Host.note ⟨.info, target, s!"Survey results successfully written to {Text.quotePath path}"⟩
    return .ok ()

end EdgeTiling.Survey
