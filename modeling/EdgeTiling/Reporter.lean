import EdgeTiling.Number
import EdgeTiling.Duration
import EdgeTiling.Snapshot

/-! Reports on the progress of a solve, at most one in an interval. -/

namespace EdgeTiling

structure Reporter where
  started : Duration
  last : Duration
  interval : Duration
  deriving DecidableEq, Repr

namespace Reporter

def new (interval now : Duration) : Reporter := ⟨now, now, interval⟩

def target : String := "edgewave_app::progress"

def due (r : Reporter) (now : Duration) : Bool × Reporter :=
  if r.interval.nanoseconds ≤ (now.since r.last).nanoseconds then (true, { r with last := now })
  else (false, r)

/-- Elapsed time in whole milliseconds, of which 64 bits are kept. -/
def elapsedText (d : Duration) : String :=
  (Duration.ofMilliseconds (d.milliseconds % wordLimit)).text

/-- Cells for each second. -/
def rate (cells : Nat) (elapsed : Duration) : Float :=
  if elapsed.toSeconds > 0 then Float.ofNat cells / elapsed.toSeconds else 0

def line (p : Progress) (elapsed : Duration) : String :=
  s!"Progress: Step {p.steps} | Resolved: {p.resolvedCells}/{p.totalCells} ({fixedText 1 p.percentage}%) | Elapsed: {elapsedText elapsed} | Rate: {fixedText 1 (rate p.resolvedCells elapsed)} cells/s"

def report (r : Reporter) (now : Duration) (p : Progress) : Option Record × Reporter :=
  match r.due now with
  | (true, r) => (some ⟨.info, target, line p (now.since r.started)⟩, r)
  | (false, r) => (none, r)

/-- The report on the end of a solve; a new solve may follow. -/
def finish (r : Reporter) (now : Duration) (p : Progress) (status : Status) : Record × Reporter :=
  let elapsed := elapsedText (now.since r.started)
  let ending := s!"{status.text} after {p.steps} steps ({elapsed})"
  let record : Record := match status with
    | .contradiction _ => ⟨.warn, target, "Solve stopped: " ++ ending⟩
    | _ => ⟨.info, target, "Solve finished: " ++ ending⟩
  (record, { r with started := now, last := now })

end Reporter

end EdgeTiling
