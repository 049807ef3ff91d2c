import EdgeTiling.Journal
import EdgeTiling.Propagation
import EdgeTiling.Random.Weighted
import EdgeTiling.Scheduler

/-! Filling a grid step by step: choose a cell, decide its tile by weight, spread the
consequences. -/

namespace EdgeTiling

open EdgeTiling.Random (Stream Weighted WeightError)

inductive Status
  | inProgress
  /-- Every cell is decided. -/
  | resolved
  /-- No tile fits at the position. -/
  | contradiction (position : Position)
  deriving DecidableEq, Repr

namespace Status

def isTerminal : Status → Bool
  | .inProgress => false
  | _ => true

@[simp] theorem isTerminal_inProgress : inProgress.isTerminal = false := rfl

@[simp] theorem isTerminal_resolved : resolved.isTerminal = true := rfl

@[simp] theorem isTerminal_contradiction (p : Position) : (contradiction p).isTerminal = true := rfl

def text : Status → String
  | .inProgress => "in progress"
  | .resolved => "resolved"
  | .contradiction p => "contradiction at " ++ p.text

/-- The status as a record with named fields. -/
def outline : Status → String
  | .inProgress => "InProgress"
  | .resolved => "Resolved"
  | .contradiction p => s!"Contradiction \x7b at: Position \x7b x: {p.x}, y: {p.y} \x7d \x7d"

end Status

inductive SolverError
  | finished (status : Status)
  | grid (cause : GridError)
  | propagation (cause : PropagationError)
  | weights (cause : WeightError)
  | tileSet (cause : TileSetError)
  | missingWeight (tile : TileId) (position : Position)
  | choiceOutOfRange (index : Nat) (position : Position)
  | configuration (reason : String)
  deriving DecidableEq

def SolverError.message : SolverError → String
  | .finished status => s!"Solver already finished ({status.text}); no further steps are valid"
  | .grid cause => "Grid error: " ++ cause.message
  | .propagation cause => "Propagation error: " ++ cause.message
  | .weights cause => "Weighted selection error: " ++ cause.message
  | .tileSet cause => "TileSet configuration error: " ++ cause.message
  | .missingWeight tile position =>
    s!"Configuration error: Weight missing for tile {tile.text} at {position.text}"
  | .choiceOutOfRange index position =>
    s!"Configuration error: Weighted choice {index} out of range at {position.text}"
  | .configuration reason => "Configuration error: " ++ reason

structure Collapse where
  position : Position
  tile : TileId
  deriving DecidableEq, Repr

structure Report where
  /-- The cell decided; none when nothing was left to decide. -/
  collapsed : Option Collapse
  narrowed : List Position
  status : Status
  deriving DecidableEq, Repr

inductive Note
  | created (width height tiles : Nat) (seed : UInt64)
  | emptyStart (position : Position)
  | spread (cells : Nat)
  | blockedStart (position : Position)
  | narrowed (what : Narrowing)
  | nothingLeft (steps : Nat)
  | collapsing (step : Nat) (what : Collapse) (candidates : Nat)
  | contradiction (step : Nat) (position cause : Position)
  | resolved (step : Nat)
  deriving DecidableEq

namespace Note

def level : Note → Level
  | .narrowed _ => .trace
  | .spread _ | .collapsing .. => .debug
  | .created .. | .nothingLeft _ | .resolved _ => .info
  | .emptyStart _ | .blockedStart _ | .contradiction .. => .warn

def target : Note → String
  | .narrowed _ => "edgewave_core::propagator::queue"
  | _ => "edgewave_core::solver"

def message : Note → String
  | .created width height tiles seed =>
    s!"Creating {width}x{height} solver over {tiles} tiles with seed {seed}"
  | .emptyStart p => s!"Initial domain of {p.text} is empty"
  | .spread cells => s!"Initial propagation narrowed {cells} cells"
  | .blockedStart p => s!"Initial propagation found a contradiction at {p.text}"
  | .narrowed n => s!"{n.source.text} narrowed {n.target.text} to {n.after} tiles"
  | .nothingLeft steps => s!"After {steps} steps: nothing left to collapse, solve resolved"
  | .collapsing step c candidates =>
    s!"Step {step}: collapsing {c.position.text} to tile {c.tile.text} ({candidates} candidates)"
  | .contradiction step p cause =>
    s!"Step {step}: contradiction at {p.text} after collapsing {cause.text}"
  | .resolved step => s!"Step {step}: every cell resolved"

def record (n : Note) : Record := ⟨n.level, n.target, n.message⟩

end Note

structure Engine (σ π : Type) where
  tiles : TileSet
  scheduler : Scheduler σ
  agenda : σ
  propagator : Propagator π
  memory : π

/-- The engine that chooses among the cells with the fewest candidates and floods. -/
def Engine.standard (tiles : TileSet) (how : Selection) : Engine Unit Unit :=
  ⟨tiles, .fewest how, (), .flooding, ()⟩

structure Solve (σ π : Type) where
  grid : Grid
  stream : Stream
  seed : UInt64
  status : Status
  history : List Collapse
  steps : Nat
  agenda : σ
  memory : π

/-- The solve as a record with named fields, its cells and its decisions left out. -/
def Solve.outline {σ π : Type} (s : Solve σ π) : String :=
  s!"Solver \x7b width: {s.grid.width}, height: {s.grid.height}, seed: {s.seed}, " ++
    s!"status: {s.status.outline}, steps: {s.steps}, .. \x7d"

abbrev Given := Position × List TileId

namespace Engine

variable {σ π : Type}

/-- Applies the given restrictions in order, up to the first that would leave a cell without
candidates; that cell comes with the result. -/
def applyGiven (ts : TileSet) (g : Grid) : List Given → Except SolverError (Grid × Option Position)
  | [] => .ok (g, none)
  | (p, tiles) :: rest =>
    match ts.mask tiles with
    | .error e => .error (.tileSet e)
    | .ok mask =>
      match g.restrict p mask with
      | .ok (g', _) => applyGiven ts g' rest
      | .error (.emptyDomain q) => .ok (g, some q)
      | .error e => .error (.grid e)

structure Start (σ π : Type) where
  result : Except SolverError (Solve σ π)
  notes : List Note

/-- Sets up a solve: the grid, the given restrictions, and one pass over all cells. A cell without
candidates does not fail the set-up; the solve is then finished before its first step. -/
def start (e : Engine σ π) (width height : Nat) (seed : UInt64) (given : List Given) :
    Start σ π :=
  match Grid.new width height e.tiles.size with
  | .error cause => ⟨.error (.grid cause), []⟩
  | .ok full =>
    let created := Note.created width height e.tiles.size seed
    let solve (g : Grid) (status : Status) (memory : π) : Solve σ π :=
      ⟨g, .ofSeed seed, seed, status, [], 0, e.agenda, memory⟩
    match applyGiven e.tiles full given with
    | .error cause => ⟨.error cause, [created]⟩
    | .ok (g, some p) => ⟨.ok (solve g (.contradiction p) e.memory), [created, .emptyStart p]⟩
    | .ok (g, none) =>
      let (pass, memory) := e.propagator.pass e.memory e.tiles g g.positions
      let notes := created :: pass.trail.map .narrowed
      match pass.failure with
      | none =>
        ⟨.ok (solve pass.grid .inProgress memory), notes ++ [.spread pass.narrowed.length]⟩
      | some (.contradiction p) =>
        ⟨.ok (solve pass.grid (.contradiction p) memory), notes ++ [.blockedStart p]⟩
      | some cause => ⟨.error (.propagation cause), notes⟩

def weightsOf (ts : TileSet) (p : Position) : List TileId → Except SolverError (List Float32)
  | [] => .ok []
  | t :: rest =>
    match ts.weight? t with
    | none => .error (.missingWeight t p)
    | some w =>
      match weightsOf ts p rest with
      | .error e => .error e
      | .ok ws => .ok (w :: ws)

/-- Draws one of the candidates of `p` by weight. Without a draw the stream stays as it is. -/
def chooseTile (ts : TileSet) (g : Grid) (p : Position) (s : Stream) :
    Except SolverError TileId × Stream :=
  let candidates := ((g.domain? p).map (·.tiles)).getD []
  match weightsOf ts p candidates with
  | .error e => (.error e, s)
  | .ok weights =>
    match Weighted.ofWeights weights with
    | .error e => (.error (.weights e), s)
    | .ok w =>
      let (i, s) := w.sample s
      match candidates[i]? with
      | some t => (.ok t, s)
      | none => (.error (.choiceOutOfRange i p), s)

structure Step (σ π : Type) where
  result : Except SolverError Report
  solve : Solve σ π
  notes : List Note

/-- Spreads the consequences of a decision that the grid of `s` already shows. -/
def settle (e : Engine σ π) (s : Solve σ π) (made : Collapse) (notes : List Note) : Step σ π :=
  let (pass, memory) := e.propagator.pass s.memory e.tiles s.grid [made.position]
  let s := { s with grid := pass.grid, memory := memory }
  let notes := notes ++ pass.trail.map .narrowed
  match pass.failure with
  | some (.contradiction p) =>
    ⟨.ok ⟨some made, pass.narrowed, .contradiction p⟩, { s with status := .contradiction p },
      notes ++ [.contradiction s.steps p made.position]⟩
  | some cause => ⟨.error (.propagation cause), s, notes⟩
  | none =>
    if pass.grid.allResolved then
      ⟨.ok ⟨some made, pass.narrowed, .resolved⟩, { s with status := .resolved },
        notes ++ [.resolved s.steps]⟩
    else ⟨.ok ⟨some made, pass.narrowed, s.status⟩, s, notes⟩

def decideAt (e : Engine σ π) (s : Solve σ π) (p : Position) : Step σ π :=
  let (choice, stream) := chooseTile e.tiles s.grid p s.stream
  let s := { s with stream := stream }
  match choice with
  | .error cause => ⟨.error cause, s, []⟩
  | .ok tile =>
    let made : Collapse := ⟨p, tile⟩
    let notes := [Note.collapsing s.steps made (s.grid.domainSize p)]
    match s.grid.collapse p tile with
    | .error cause => ⟨.error (.grid cause), s, notes⟩
    | .ok g => e.settle { s with grid := g, history := s.history ++ [made] } made notes

/-- Chooses a cell, decides it and spreads the consequences. A step is counted as soon as a cell
is chosen. -/
def step (e : Engine σ π) (s : Solve σ π) : Step σ π :=
  if s.status.isTerminal then ⟨.error (.finished s.status), s, []⟩
  else
    let (cell, agenda, stream) := e.scheduler.select s.agenda s.grid s.stream
    let s := { s with agenda := agenda, stream := stream }
    match cell with
    | none =>
      ⟨.ok ⟨none, [], .resolved⟩, { s with status := .resolved }, [.nothingLeft s.steps]⟩
    | some p => e.decideAt { s with steps := s.steps + 1 } p

end Engine

namespace Solve

variable {σ π : Type}

/-- A bound on the steps a solve can still take without an error. -/
def stepsLeft (s : Solve σ π) : Nat :=
  if s.status.isTerminal then 0 else s.grid.openCount + 1

end Solve

namespace Engine

variable {σ π : Type}

theorem openCount_settle (e : Engine σ π) (s : Solve σ π) (made : Collapse) (notes : List Note) :
    (e.settle s made notes).solve.grid.openCount = s.grid.openCount := by
  have h := (e.propagator.narrows s.memory e.tiles s.grid [made.position]).openCount_eq
  unfold settle
  dsimp only
  split
  · exact h
  · exact h
  · split <;> exact h

theorem openCount_decideAt {e : Engine σ π} {s : Solve σ π} {p : Position} {r : Report}
    (h : (e.decideAt s p).result = .ok r) :
    (e.decideAt s p).solve.grid.openCount + 1 = s.grid.openCount := by
  unfold decideAt at h ⊢
  rcases hc : chooseTile e.tiles s.grid p s.stream with ⟨choice, stream⟩
  simp only [hc] at h ⊢
  cases choice with
  | error cause => simp at h
  | ok tile =>
    dsimp only at h ⊢
    cases hg : s.grid.collapse p tile with
    | error cause => simp [hg] at h
    | ok g =>
      rw [openCount_settle]
      exact Grid.openCount_collapse hg

/-- A step without an error brings the end nearer. -/
theorem stepsLeft_step {e : Engine σ π} {s : Solve σ π} {r : Report}
    (h : (e.step s).result = .ok r) : (e.step s).solve.stepsLeft < s.stepsLeft := by
  unfold step at h ⊢
  cases hs : s.status.isTerminal with
  | true => simp [hs] at h
  | false =>
    rcases hc : e.scheduler.select s.agenda s.grid s.stream with ⟨cell, agenda, stream⟩
    simp only [hs, hc, Bool.false_eq_true, if_false] at h ⊢
    cases cell with
    | none => simp [Solve.stepsLeft, hs]
    | some p =>
      have hd := openCount_decideAt h
      simp only [Solve.stepsLeft, hs, Bool.false_eq_true, if_false] at hd ⊢
      split <;> omega

structure Run (σ π : Type) where
  result : Except SolverError Status
  solve : Solve σ π
  notes : List Note

def run (e : Engine σ π) (s : Solve σ π) : Run σ π :=
  if s.status.isTerminal then ⟨.ok s.status, s, []⟩
  else
    let now := e.step s
    match _h : now.result with
    | .error cause => ⟨.error cause, now.solve, now.notes⟩
    | .ok _ =>
      let later := e.run now.solve
      { later with notes := now.notes ++ later.notes }
termination_by s.stepsLeft
decreasing_by exact stepsLeft_step _h

end Engine

end EdgeTiling
