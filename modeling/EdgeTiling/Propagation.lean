import EdgeTiling.Grid.Counts

/-! Spreading the consequences of a change: a cell drops every candidate that no candidate of a
neighbour supports, and a cell that dropped something is a reason to look at its own neighbours. -/

namespace EdgeTiling

inductive PropagationError
  /-- No candidate of the cell fits its neighbours. -/
  | contradiction (position : Position)
  | grid (cause : GridError)
  deriving DecidableEq, Repr

namespace PropagationError

def ofGridError : GridError → PropagationError
  | .emptyDomain position => .contradiction position
  | other => .grid other

def message : PropagationError → String
  | .contradiction position =>
    "Contradiction detected during propagation: " ++ (GridError.emptyDomain position).message
  | .grid cause => "Grid error during propagation: " ++ cause.message

end PropagationError

structure Narrowing where
  source : Position
  target : Position
  before : Nat
  after : Nat
  deriving DecidableEq, Repr

structure Spread where
  grid : Grid
  trail : List Narrowing
  failure : Option PropagationError
  deriving DecidableEq, Repr

/-- Narrows the open cells among the given neighbours of `p`, whose candidates are `source`. -/
def spreadTo (ts : TileSet) (p : Position) (source : Domain) (g : Grid) :
    List (Position × Direction) → Spread
  | [] => ⟨g, [], none⟩
  | (q, d) :: rest =>
    if g.isResolved q then spreadTo ts p source g rest
    else match g.restrict q (ts.supported source d) with
      | .error e => ⟨g, [], some (.ofGridError e)⟩
      | .ok (g', shrank) =>
        let later := spreadTo ts p source g' rest
        if shrank then
          { later with trail := ⟨p, q, g.domainSize q, g'.domainSize q⟩ :: later.trail }
        else later

/-- Narrows the neighbours of `p`. A position outside the grid has none. -/
def spreadFrom (ts : TileSet) (g : Grid) (p : Position) : Spread :=
  match g.domain? p with
  | none => ⟨g, [], none⟩
  | some source => spreadTo ts p source g (g.neighbors p)

theorem candidates_spreadTo (ts : TileSet) (p : Position) (source : Domain) :
    ∀ (near : List (Position × Direction)) (g : Grid),
      (spreadTo ts p source g near).grid.candidates +
        (spreadTo ts p source g near).trail.length ≤ g.candidates
  | [], g => by simp [spreadTo]
  | (q, d) :: rest, g => by
    unfold spreadTo
    split
    · exact candidates_spreadTo ts p source rest g
    · split
      · simp
      · rename_i g' shrank h
        have ih := candidates_spreadTo ts p source rest g'
        cases shrank with
        | false =>
          rw [Grid.eq_of_restrict_eq_ok_false h] at ih ⊢
          simpa using ih
        | true =>
          have hlt := Grid.candidates_restrict h
          simp only [if_true, List.length_cons]
          omega

theorem candidates_spreadFrom (ts : TileSet) (g : Grid) (p : Position) :
    (spreadFrom ts g p).grid.candidates + (spreadFrom ts g p).trail.length ≤ g.candidates := by
  unfold spreadFrom
  split
  · simp
  · exact candidates_spreadTo ts p _ _ g

/-- Works through a queue of cells; a cell that was narrowed goes to its end. Each new entry costs
a candidate, so the queue runs dry. -/
def flood (ts : TileSet) (g : Grid) : List Position → Spread
  | [] => ⟨g, [], none⟩
  | p :: queue =>
    let near := spreadFrom ts g p
    if near.failure.isSome then near
    else
      let later := flood ts near.grid (queue ++ near.trail.map (·.target))
      { later with trail := near.trail ++ later.trail }
termination_by queue => g.candidates + queue.length
decreasing_by
  have := candidates_spreadFrom ts g p
  simp only [List.length_append, List.length_map, List.length_cons]
  omega

theorem narrows_spreadTo (ts : TileSet) (p : Position) (source : Domain) :
    ∀ (near : List (Position × Direction)) (g : Grid),
      g.Narrows (spreadTo ts p source g near).grid
  | [], g => by simpa [spreadTo] using Grid.Narrows.refl g
  | (q, d) :: rest, g => by
    unfold spreadTo
    split
    · exact narrows_spreadTo ts p source rest g
    · split
      · exact .refl g
      · rename_i g' shrank h
        have ih := narrows_spreadTo ts p source rest g'
        cases shrank <;> exact .restrict h ih

theorem narrows_spreadFrom (ts : TileSet) (g : Grid) (p : Position) :
    g.Narrows (spreadFrom ts g p).grid := by
  unfold spreadFrom
  split
  · exact .refl g
  · exact narrows_spreadTo ts p _ _ g

/-- A flood changes the grid by restrictions alone. -/
theorem narrows_flood (ts : TileSet) (g : Grid) (queue : List Position) :
    g.Narrows (flood ts g queue).grid := by
  fun_induction flood ts g queue with
  | case1 g => exact .refl g
  | case2 g p queue near h => exact narrows_spreadFrom ts g p
  | case3 g p queue near h later ih => exact (narrows_spreadFrom ts g p).trans ih

/-- What a propagation pass did: the cells it narrowed, in the order of their first change. -/
structure Pass where
  grid : Grid
  narrowed : List Position
  trail : List Narrowing
  failure : Option PropagationError
  deriving DecidableEq, Repr

namespace Pass

def result (pass : Pass) : Except PropagationError (List Position) :=
  match pass.failure with
  | some e => .error e
  | none => .ok pass.narrowed

end Pass

/-- The targets that a narrowing of the trail finds with as many candidates as at the start. -/
def Grid.firstChanges (start : Grid) (trail : List Narrowing) : List Position :=
  (trail.filter fun n => n.before == start.domainSize n.target).map (·.target)

def propagate (ts : TileSet) (g : Grid) (seeds : List Position) : Pass :=
  let s := flood ts g seeds
  ⟨s.grid, g.firstChanges s.trail, s.trail, s.failure⟩

/-- The list `already` with the cells narrowed by a pass from `seeds` at its end. -/
def propagateInto (ts : TileSet) (g : Grid) (seeds already : List Position) : Pass :=
  let pass := propagate ts g seeds
  { pass with narrowed := already ++ pass.narrowed }

/-- A way to restore consistency after a change, with a memory of type `π`. It changes a grid by
restrictions alone, and may give up at any time. -/
structure Propagator (π : Type) where
  pass : π → TileSet → Grid → List Position → Pass × π
  narrows : ∀ (memory : π) (ts : TileSet) (g : Grid) (seeds : List Position),
    g.Narrows (pass memory ts g seeds).1.grid

def Propagator.flooding : Propagator Unit where
  pass _ ts g seeds := (propagate ts g seeds, ())
  narrows _ ts g seeds := narrows_flood ts g seeds

end EdgeTiling
