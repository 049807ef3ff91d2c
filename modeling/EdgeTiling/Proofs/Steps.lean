import EdgeTiling.Solver

/-! The course of a solve: the ways in which a set-up can end and the moves that a step can make,
each said once, and sequences of calls. What holds at the start and is kept by every step holds
after every sequence of calls, whatever the calls return. -/

namespace EdgeTiling

open EdgeTiling.Random (Stream)

theorem exists_of_toOption_map {ε α β : Type} {x : Except ε α} {f : α → β} {b : β}
    (h : x.toOption.map f = some b) : ∃ a, x = .ok a ∧ f a = b := by
  cases x with
  | error e => simp [Except.toOption] at h
  | ok a => exact ⟨a, rfl, by simpa [Except.toOption] using h⟩

namespace Engine

variable {σ π : Type}

inductive Opening (e : Engine σ π) (width height : Nat) (given : List Given) (s : Solve σ π) : Prop
  /-- A given restriction leaves its cell without candidates. -/
  | emptied {full : Grid} {p : Position} :
    Grid.new width height e.tiles.size = .ok full →
      applyGiven e.tiles full given = .ok (s.grid, some p) → s.status = .contradiction p →
      s.history = [] → s.steps = 0 → Opening e width height given s
  /-- The first pass finds a cell that no candidate fits. -/
  | blocked {full g : Grid} {pass : Pass} {memory : π} {p : Position} :
    Grid.new width height e.tiles.size = .ok full → applyGiven e.tiles full given = .ok (g, none) →
      e.propagator.pass e.memory e.tiles g g.positions = (pass, memory) →
      pass.failure = some (.contradiction p) → s.grid = pass.grid → s.status = .contradiction p →
      s.history = [] → s.steps = 0 → Opening e width height given s
  | ready {full g : Grid} {pass : Pass} {memory : π} :
    Grid.new width height e.tiles.size = .ok full → applyGiven e.tiles full given = .ok (g, none) →
      e.propagator.pass e.memory e.tiles g g.positions = (pass, memory) →
      pass.failure = none → s.grid = pass.grid → s.status = .inProgress →
      s.history = [] → s.steps = 0 → Opening e width height given s

theorem opening_of_start {e : Engine σ π} {width height : Nat} {seed : UInt64}
    {given : List Given} {s : Solve σ π} (h : (e.start width height seed given).result = .ok s) :
    Opening e width height given s := by
  unfold start at h
  cases hfull : Grid.new width height e.tiles.size with
  | error cause => simp [hfull] at h
  | ok full =>
    simp only [hfull] at h
    rcases happ : applyGiven e.tiles full given with cause | ⟨g, _ | p⟩
    · simp [happ] at h
    · rcases hpass : e.propagator.pass e.memory e.tiles g g.positions with ⟨pass, memory⟩
      simp only [happ, hpass] at h
      split at h
      · next hf =>
        cases h
        exact .ready hfull happ hpass hf rfl rfl rfl rfl
      · next p hf =>
        cases h
        exact .blocked hfull happ hpass hf rfl rfl rfl rfl
      · contradiction
    · simp only [happ] at h
      cases h
      exact .emptied hfull happ rfl rfl rfl

theorem Opening.history_eq {e : Engine σ π} {width height : Nat} {given : List Given}
    {s : Solve σ π} (h : Opening e width height given s) : s.history = [] := by
  cases h <;> assumption

theorem Opening.steps_eq {e : Engine σ π} {width height : Nat} {given : List Given}
    {s : Solve σ π} (h : Opening e width height given s) : s.steps = 0 := by
  cases h <;> assumption

inductive Refusal (e : Engine σ π) (width height : Nat) (given : List Given) : SolverError → Prop
  | noGrid {cause : GridError} :
    Grid.new width height e.tiles.size = .error cause → Refusal e width height given (.grid cause)
  | badGiven {full : Grid} {cause : SolverError} :
    Grid.new width height e.tiles.size = .ok full → applyGiven e.tiles full given = .error cause →
      Refusal e width height given cause
  /-- The first pass gives up without having found a contradiction. -/
  | broken {full g : Grid} {pass : Pass} {memory : π} {cause : GridError} :
    Grid.new width height e.tiles.size = .ok full → applyGiven e.tiles full given = .ok (g, none) →
      e.propagator.pass e.memory e.tiles g g.positions = (pass, memory) →
      pass.failure = some (.grid cause) →
      Refusal e width height given (.propagation (.grid cause))

theorem refusal_of_start {e : Engine σ π} {width height : Nat} {seed : UInt64}
    {given : List Given} {cause : SolverError}
    (h : (e.start width height seed given).result = .error cause) :
    Refusal e width height given cause := by
  unfold start at h
  cases hfull : Grid.new width height e.tiles.size with
  | error cause =>
    simp only [hfull] at h
    cases h
    exact .noGrid hfull
  | ok full =>
    simp only [hfull] at h
    rcases happ : applyGiven e.tiles full given with cause | ⟨g, _ | p⟩
    · simp only [happ] at h
      cases h
      exact .badGiven hfull happ
    · rcases hpass : e.propagator.pass e.memory e.tiles g g.positions with ⟨pass, memory⟩
      rcases hf : pass.failure with _ | (p | cause)
      · simp [happ, hpass, hf] at h
      · simp [happ, hpass, hf] at h
      · simp only [happ, hpass, hf] at h
        cases h
        exact .broken hfull happ hpass hf
    · simp [happ] at h

/-- The solve after a decision at `p` for `tile` and the pass that follows it. -/
def decided (s : Solve σ π) (made : Collapse) (agenda : σ) (stream : Stream) (grid : Grid)
    (memory : π) (status : Status) : Solve σ π :=
  { s with
    grid := grid, stream := stream, status := status, history := s.history ++ [made],
    steps := s.steps + 1, agenda := agenda, memory := memory }

/-- The moves a step can make, with what it returns and the solve it leaves. -/
inductive Move (e : Engine σ π) (s : Solve σ π) : Except SolverError Report → Solve σ π → Prop
  | finished : s.status.isTerminal = true → Move e s (.error (.finished s.status)) s
  /-- The scheduler names no cell. -/
  | exhausted {agenda : σ} {stream : Stream} :
    s.status = .inProgress → e.scheduler.select s.agenda s.grid s.stream = (none, agenda, stream) →
      Move e s (.ok ⟨none, [], .resolved⟩)
        { s with agenda := agenda, stream := stream, status := .resolved }
  /-- No tile can be drawn. -/
  | undrawn {p : Position} {agenda : σ} {stream stream' : Stream} {cause : SolverError} :
    s.status = .inProgress →
      e.scheduler.select s.agenda s.grid s.stream = (some p, agenda, stream) →
      chooseTile e.tiles s.grid p stream = (.error cause, stream') →
      Move e s (.error cause)
        { s with agenda := agenda, stream := stream', steps := s.steps + 1 }
  /-- The drawn tile cannot be placed. -/
  | refused {p : Position} {tile : TileId} {agenda : σ} {stream stream' : Stream}
      {cause : GridError} :
    s.status = .inProgress →
      e.scheduler.select s.agenda s.grid s.stream = (some p, agenda, stream) →
      chooseTile e.tiles s.grid p stream = (.ok tile, stream') →
      s.grid.collapse p tile = .error cause →
      Move e s (.error (.grid cause))
        { s with agenda := agenda, stream := stream', steps := s.steps + 1 }
  /-- The pass after the decision finds a cell that no candidate fits. -/
  | blocked {p q : Position} {tile : TileId} {agenda : σ} {stream stream' : Stream} {g : Grid}
      {pass : Pass} {memory : π} :
    s.status = .inProgress →
      e.scheduler.select s.agenda s.grid s.stream = (some p, agenda, stream) →
      chooseTile e.tiles s.grid p stream = (.ok tile, stream') → s.grid.collapse p tile = .ok g →
      e.propagator.pass s.memory e.tiles g [p] = (pass, memory) →
      pass.failure = some (.contradiction q) →
      Move e s (.ok ⟨some ⟨p, tile⟩, pass.narrowed, .contradiction q⟩)
        (decided s ⟨p, tile⟩ agenda stream' pass.grid memory (.contradiction q))
  /-- The pass after the decision gives up for another reason. -/
  | broken {p : Position} {tile : TileId} {agenda : σ} {stream stream' : Stream} {g : Grid}
      {pass : Pass} {memory : π} {cause : GridError} :
    s.status = .inProgress →
      e.scheduler.select s.agenda s.grid s.stream = (some p, agenda, stream) →
      chooseTile e.tiles s.grid p stream = (.ok tile, stream') → s.grid.collapse p tile = .ok g →
      e.propagator.pass s.memory e.tiles g [p] = (pass, memory) →
      pass.failure = some (.grid cause) →
      Move e s (.error (.propagation (.grid cause)))
        (decided s ⟨p, tile⟩ agenda stream' pass.grid memory .inProgress)
  | advanced {p : Position} {tile : TileId} {agenda : σ} {stream stream' : Stream} {g : Grid}
      {pass : Pass} {memory : π} {status : Status} :
    s.status = .inProgress →
      e.scheduler.select s.agenda s.grid s.stream = (some p, agenda, stream) →
      chooseTile e.tiles s.grid p stream = (.ok tile, stream') → s.grid.collapse p tile = .ok g →
      e.propagator.pass s.memory e.tiles g [p] = (pass, memory) → pass.failure = none →
      status = (if pass.grid.allResolved then .resolved else .inProgress) →
      Move e s (.ok ⟨some ⟨p, tile⟩, pass.narrowed, status⟩)
        (decided s ⟨p, tile⟩ agenda stream' pass.grid memory status)

theorem step_move (e : Engine σ π) (s : Solve σ π) :
    Move e s (e.step s).result (e.step s).solve := by
  cases hs : s.status with
  | resolved => simpa [step, hs] using Move.finished (e := e) (s := s) (by simp [hs])
  | contradiction p => simpa [step, hs] using Move.finished (e := e) (s := s) (by simp [hs])
  | inProgress =>
    rcases hsel : e.scheduler.select s.agenda s.grid s.stream with ⟨_ | p, agenda, stream⟩
    · simpa [step, hs, hsel] using Move.exhausted hs hsel
    · rcases hdraw : chooseTile e.tiles s.grid p stream with ⟨cause | tile, stream'⟩
      · simpa [step, hs, hsel, decideAt, hdraw] using Move.undrawn hs hsel hdraw
      · cases hplace : s.grid.collapse p tile with
        | error cause =>
          simpa [step, hs, hsel, decideAt, hdraw, hplace] using Move.refused hs hsel hdraw hplace
        | ok g =>
          rcases hpass : e.propagator.pass s.memory e.tiles g [p] with ⟨pass, memory⟩
          cases hf : pass.failure with
          | none =>
            have hm := Move.advanced hs hsel hdraw hplace hpass hf rfl
            cases hall : pass.grid.allResolved <;>
              simpa [step, hs, hsel, decideAt, hdraw, hplace, settle, hpass, hf, hall, decided]
                using hm
          | some cause =>
            cases cause with
            | contradiction q =>
              simpa [step, hs, hsel, decideAt, hdraw, hplace, settle, hpass, hf, decided]
                using Move.blocked hs hsel hdraw hplace hpass hf
            | grid cause =>
              simpa [step, hs, hsel, decideAt, hdraw, hplace, settle, hpass, hf, decided]
                using Move.broken hs hsel hdraw hplace hpass hf

theorem status_step {e : Engine σ π} {s : Solve σ π} {r : Report}
    (h : (e.step s).result = .ok r) : (e.step s).solve.status = r.status := by
  have hm := step_move e s
  rw [h] at hm
  generalize (e.step s).solve = s' at hm ⊢
  cases hm <;> rfl

end Engine

inductive Call
  | step
  | run
  deriving DecidableEq, Repr

namespace Engine

variable {σ π : Type}

def answer (e : Engine σ π) (s : Solve σ π) : Call → Solve σ π
  | .step => (e.step s).solve
  | .run => (e.run s).solve

/-- The solve after a sequence of calls, each made whatever the ones before it returned. -/
def after (e : Engine σ π) (s : Solve σ π) (calls : List Call) : Solve σ π :=
  calls.foldl e.answer s

/-- The solve can come about after a set-up of the given size, with any seed, by some calls. -/
def Reaches (e : Engine σ π) (width height : Nat) (given : List Given) (now : Solve σ π) : Prop :=
  ∃ seed s calls, (e.start width height seed given).result = .ok s ∧ e.after s calls = now

variable {e : Engine σ π} {P : Solve σ π → Prop}

theorem run_invariant (hstep : ∀ s, P s → P (e.step s).solve) {s : Solve σ π} (hs : P s) :
    P (e.run s).solve := by
  fun_induction Engine.run e s with
  | case1 s _ => exact hs
  | case2 s _ now cause _ => exact hstep s hs
  | case3 s _ now report _ later ih => exact ih (hstep s hs)

/-- What every step keeps holds after every sequence of calls. -/
theorem after_invariant (hstep : ∀ s, P s → P (e.step s).solve) {s : Solve σ π} (hs : P s)
    (calls : List Call) : P (e.after s calls) := by
  induction calls generalizing s with
  | nil => exact hs
  | cons call rest ih =>
    cases call with
    | step => exact ih (hstep s hs)
    | run => exact ih (run_invariant hstep hs)

theorem after_concat (s : Solve σ π) (calls : List Call) (call : Call) :
    e.after s (calls ++ [call]) = e.answer (e.after s calls) call := by
  simp [after]

theorem reaches_of_start {width height : Nat} {seed : UInt64} {given : List Given} {s : Solve σ π}
    (h : (e.start width height seed given).result = .ok s) : e.Reaches width height given s :=
  ⟨seed, s, [], h, rfl⟩

theorem Reaches.answer {width height : Nat} {given : List Given} {s : Solve σ π}
    (h : e.Reaches width height given s) (call : Call) :
    e.Reaches width height given (e.answer s call) := by
  obtain ⟨seed, s₀, calls, hs, rfl⟩ := h
  exact ⟨seed, s₀, calls ++ [call], hs, after_concat s₀ calls call⟩

/-- What holds of every opening and is kept by every step of a reached solve holds throughout. -/
theorem Reaches.invariant {width height : Nat} {given : List Given} {now : Solve σ π}
    (h : e.Reaches width height given now) (hopen : ∀ s, Opening e width height given s → P s)
    (hstep : ∀ s, e.Reaches width height given s → P s → P (e.step s).solve) : P now := by
  obtain ⟨seed, s, calls, hs, rfl⟩ := h
  have hinv := after_invariant (e := e) (P := fun s => e.Reaches width height given s ∧ P s)
    (fun s ⟨hr, hp⟩ => ⟨hr.answer .step, hstep s hr hp⟩)
    ⟨reaches_of_start hs, hopen s (opening_of_start hs)⟩ calls
  exact hinv.2

theorem exists_start {α : Type} {width height : Nat} {seed : UInt64} {given : List Given}
    {f : Solve σ π → α} {a : α}
    (h : (e.start width height seed given).result.toOption.map f = some a) :
    ∃ s, (e.start width height seed given).result = .ok s ∧ f s = a :=
  exists_of_toOption_map h

theorem exists_reaches {α : Type} {width height : Nat} {given : List Given} (seed : UInt64)
    (calls : List Call) {f : Solve σ π → α} {a : α}
    (h : (e.start width height seed given).result.toOption.map (fun s => f (e.after s calls)) =
      some a) : ∃ now, e.Reaches width height given now ∧ f now = a := by
  obtain ⟨s, hs, ha⟩ := exists_start h
  exact ⟨e.after s calls, ⟨seed, s, calls, hs, rfl⟩, ha⟩

end Engine

end EdgeTiling
