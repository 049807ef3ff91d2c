import EdgeTiling.Solver

/-! Solving with one seed after another until a solve succeeds. -/

namespace EdgeTiling

namespace Retry

inductive Event
  | started (attempt : Nat) (seed : UInt64)
  | stepped (report : Report)
  deriving DecidableEq

/-- The surroundings of a retry loop: where solves come from, who watches, who takes notes. Errors
have type `ε`. -/
structure Watch (m : Type → Type) (ε σ π : Type) where
  make : UInt64 → m (Except ε (Engine σ π × Solve σ π))
  observe : Solve σ π → Event → m (Except ε Unit)
  note : Record → m Unit
  fault : SolverError → ε

structure Outcome (σ π : Type) where
  solve : Solve σ π
  attempts : Nat

def Outcome.resolved {σ π : Type} (o : Outcome σ π) : Bool := o.solve.status == .resolved

def target : String := "edgewave_core::retry"

variable {m : Type → Type} [Monad m] {ε σ π : Type}

def finish (w : Watch m ε σ π) (e : Engine σ π) (s : Solve σ π) : m (Except ε (Solve σ π)) :=
  if s.status.isTerminal then pure (.ok s)
  else do
    let now := e.step s
    now.notes.forM fun n => w.note n.record
    match _h : now.result with
    | .error cause => pure (.error (w.fault cause))
    | .ok report =>
      match ← w.observe now.solve (.stepped report) with
      | .error err => pure (.error err)
      | .ok _ => finish w e now.solve
termination_by s.stepsLeft
decreasing_by exact Engine.stepsLeft_step _h

def attempt (w : Watch m ε σ π) (number : Nat) (seed : UInt64) : m (Except ε (Solve σ π)) := do
  match ← w.make seed with
  | .error err => pure (.error err)
  | .ok (e, s) =>
    match ← w.observe s (.started number seed) with
    | .error err => pure (.error err)
    | .ok _ => finish w e s

/-- Ends the loop with the solve of the given attempt. -/
def conclude (w : Watch m ε σ π) (limit number : Nat) (seed : UInt64) (s : Solve σ π) :
    m (Except ε (Outcome σ π)) := do
  match s.status with
  | .resolved =>
    w.note ⟨.info, target, s!"Resolved with seed {seed} on attempt {number}/{limit}"⟩
  | status => w.note ⟨.warn, target, s!"Giving up after {number} attempt(s): {status.text}"⟩
  pure (.ok ⟨s, number⟩)

/-- Tries up to `left + 1` solves after the `tried` ones before. -/
def attempts (w : Watch m ε σ π) (limit : Nat) (base : UInt64) (tried : Nat) :
    Nat → m (Except ε (Outcome σ π))
  | 0 => do
    let seed := base + UInt64.ofNat tried
    match ← attempt w (tried + 1) seed with
    | .error err => pure (.error err)
    | .ok s => conclude w limit (tried + 1) seed s
  | left + 1 => do
    let seed := base + UInt64.ofNat tried
    let number := tried + 1
    match ← attempt w number seed with
    | .error err => pure (.error err)
    | .ok s =>
      match s.status with
      | .contradiction p =>
        w.note ⟨.warn, target,
          s!"Attempt {number}/{limit} (seed {seed}) hit a contradiction at {p.text}, retrying"⟩
        attempts w limit base number left
      | _ => conclude w limit number seed s

/-- Solves with the seeds `base`, `base + 1`, … until a solve succeeds or `limit` are tried, and
at least once. -/
def untilResolved (w : Watch m ε σ π) (limit : UInt32) (base : UInt64) :
    m (Except ε (Outcome σ π)) :=
  let limit := max 1 limit.toNat
  attempts w limit base 0 (limit - 1)

end Retry

end EdgeTiling
