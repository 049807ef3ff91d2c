import EdgeTiling.Proofs.Drawing
import EdgeTiling.Proofs.Resolution

/-! Progress. As long as a solve is in progress there is an open cell, a faithful scheduler finds one,
and the step decides it unless the weights of its candidates have no finite total. So a run comes to
an end after at most as many steps as the grid has cells. Under any scheduler the counter of steps
has the decisions and the steps that missed, which chose a cell and failed before its decision. -/

namespace EdgeTiling

def cause? {α : Type} : Except SolverError α → Option SolverError
  | .error cause => some cause
  | .ok _ => none

/-- The errors of a step that chose a cell and did not decide it. -/
def SolverError.isMiss : SolverError → Bool
  | .grid _ | .weights _ | .missingWeight .. | .choiceOutOfRange .. => true
  | _ => false

theorem ne_error_of_cause? {α : Type} {x : Except SolverError α} (h : cause? x = none)
    (cause : SolverError) : x ≠ .error cause := by
  rintro rfl
  contradiction

theorem Status.eq_inProgress {status : Status} (h : ¬ status.isTerminal = true) :
    status = .inProgress := by
  cases status with
  | inProgress => rfl
  | resolved => simp at h
  | contradiction p => simp at h

namespace Engine

section Calls

variable {σ π : Type}

def fault? (e : Engine σ π) (s : Solve σ π) : Call → Option SolverError
  | .step => cause? (e.step s).result
  | .run => cause? (e.run s).result

/-- The errors that a sequence of calls returns, each call made whatever came before it. -/
def faults (e : Engine σ π) (s : Solve σ π) : List Call → List SolverError
  | [] => []
  | call :: rest => (e.fault? s call).toList ++ e.faults (e.answer s call) rest

structure Decides (s : Solve σ π) (r : Report) (s' : Solve σ π) (c : Collapse) : Prop where
  collapsed : r.collapsed = some c
  inside : s.grid.Inside c.position
  isOpen : s.grid.isResolved c.position = false
  candidate : s.grid.Admits c.position c.tile
  history : s'.history = s.history ++ [c]
  steps : s'.steps = s.steps + 1

end Calls

section Counts

open EdgeTiling.Random (Stream)

theorem isMiss_of_weightsOf {ts : TileSet} {p : Position} {candidates : List TileId}
    {cause : SolverError} (h : weightsOf ts p candidates = .error cause) : cause.isMiss = true := by
  fun_induction weightsOf ts p candidates with
  | case1 => contradiction
  | case2 t rest hw =>
    cases h
    rfl
  | case3 t rest w hw e hrest ih =>
    cases h
    exact ih hrest
  | case4 => contradiction

theorem isMiss_of_chooseTile {ts : TileSet} {g : Grid} {p : Position} {s s' : Stream}
    {cause : SolverError} (h : chooseTile ts g p s = (.error cause, s')) :
    cause.isMiss = true := by
  unfold chooseTile at h
  dsimp only at h
  split at h
  · next e hws =>
    cases h
    exact isMiss_of_weightsOf hws
  · split at h
    · cases h
      rfl
    · split at h
      · cases h
      · cases h
        rfl

variable {σ π : Type}

def misses (causes : List SolverError) : Nat := causes.countP SolverError.isMiss

theorem misses_eq_zero_iff {causes : List SolverError} :
    misses causes = 0 ↔ ∀ cause ∈ causes, cause.isMiss = false := by
  simp [misses, List.countP_eq_zero]

theorem steps_step (e : Engine σ π) (s : Solve σ π) :
    (e.step s).solve.steps + s.history.length =
      s.steps + (e.step s).solve.history.length + misses (cause? (e.step s).result).toList := by
  have hm := step_move e s
  generalize (e.step s).result = r at hm ⊢
  generalize (e.step s).solve = s' at hm ⊢
  cases hm with
  | finished => rfl
  | exhausted => rfl
  | undrawn _ _ hdraw =>
    simp only [cause?, Option.toList, misses, List.countP_singleton, isMiss_of_chooseTile hdraw,
      if_true]
    omega
  | refused =>
    simp only [cause?, Option.toList, misses, List.countP_singleton, SolverError.isMiss, if_true]
    omega
  | blocked =>
    simp only [decided, cause?, Option.toList, misses, List.countP_nil, List.length_append,
      List.length_singleton]
    omega
  | broken =>
    simp only [decided, cause?, Option.toList, misses, List.countP_singleton, SolverError.isMiss,
      List.length_append, List.length_singleton]
    simp only [Bool.false_eq_true, if_false]
    omega
  | advanced =>
    simp only [decided, cause?, Option.toList, misses, List.countP_nil, List.length_append,
      List.length_singleton]
    omega

theorem steps_run (e : Engine σ π) (s : Solve σ π) :
    (e.run s).solve.steps + s.history.length =
      s.steps + (e.run s).solve.history.length + misses (cause? (e.run s).result).toList := by
  fun_induction Engine.run e s with
  | case1 s _ => rfl
  | case2 s _ now cause hr =>
    have hstep := steps_step e s
    rw [show (e.step s).result = .error cause from hr] at hstep
    exact hstep
  | case3 s _ now report hr later ih =>
    have hstep := steps_step e s
    rw [show (e.step s).result = .ok report from hr] at hstep
    have hnone : misses (cause? (Except.ok report : Except SolverError Report)).toList = 0 := rfl
    change later.solve.steps + s.history.length =
      s.steps + later.solve.history.length + misses (cause? later.result).toList
    change later.solve.steps + (e.step s).solve.history.length =
      (e.step s).solve.steps + later.solve.history.length + misses (cause? later.result).toList at ih
    omega

theorem steps_answer (e : Engine σ π) (s : Solve σ π) (call : Call) :
    (e.answer s call).steps + s.history.length =
      s.steps + (e.answer s call).history.length + misses (e.fault? s call).toList := by
  cases call with
  | step => exact steps_step e s
  | run => exact steps_run e s

theorem steps_after (e : Engine σ π) (s : Solve σ π) (calls : List Call) :
    (e.after s calls).steps + s.history.length =
      s.steps + (e.after s calls).history.length + misses (e.faults s calls) := by
  induction calls generalizing s with
  | nil => rfl
  | cons call rest ih =>
    have hfirst := steps_answer e s call
    have hrest := ih (e.answer s call)
    have hsplit : misses (e.faults s (call :: rest)) =
        misses (e.fault? s call).toList + misses (e.faults (e.answer s call) rest) :=
      List.countP_append
    change (e.after (e.answer s call) rest).steps + s.history.length =
      s.steps + (e.after (e.answer s call) rest).history.length + _
    omega

end Counts

section Floods

variable {σ : Type} {ts : TileSet} {scheduler : Scheduler σ} {agenda : σ} {width height : Nat}
  {given : List Given} {s : Solve σ Unit}

theorem openCount_pos_of_inProgress
    (h : (flooding ts scheduler agenda).Reaches width height given s)
    (hs : s.status = .inProgress) : 0 < s.grid.openCount := by
  refine h.invariant (P := fun s => s.status = .inProgress → 0 < s.grid.openCount) ?_ ?_ hs
  · intro s hs _
    obtain ⟨full, hfull, hnar⟩ := hs.narrows
    obtain ⟨hw, hh, -⟩ := Grid.new_eq_ok hfull
    rw [hnar.openCount_eq, Grid.openCount_new hfull]
    exact Nat.mul_pos hw hh
  · intro s hreach hpos hs
    have hc := coherent_of_reaches hreach
    have hm := step_move (flooding ts scheduler agenda) s
    generalize ((flooding ts scheduler agenda).step s).result = r at hm
    generalize ((flooding ts scheduler agenda).step s).solve = s' at hm hs ⊢
    cases hm with
    | finished => exact hpos hs
    | exhausted => contradiction
    | undrawn hs => exact hpos hs
    | refused hs => exact hpos hs
    | blocked => contradiction
    | broken _ _ _ hplace hpass hf => exact absurd hf (failure_ne_grid hc hplace hpass)
    | advanced _ _ _ _ _ _ hstatus =>
      simp only [decided, hstatus] at hs ⊢
      split at hs
      · contradiction
      · next hall => exact Nat.pos_of_ne_zero (mt Grid.allResolved_iff_openCount.mpr hall)

theorem exists_open_of_inProgress
    (h : (flooding ts scheduler agenda).Reaches width height given s)
    (hs : s.status = .inProgress) : ∃ p, s.grid.Inside p ∧ s.grid.isResolved p = false := by
  by_contra hnone
  have hall : s.grid.allResolved = true := by
    rw [(coherent_of_reaches h).valid.allResolved_iff]
    intro p hp
    by_contra ho
    exact hnone ⟨p, hp, by simpa using ho⟩
  have hpos := openCount_pos_of_inProgress h hs
  rw [Grid.allResolved_iff_openCount.mp hall] at hpos
  contradiction

theorem exists_select_of_inProgress (hsch : scheduler.Faithful)
    (h : (flooding ts scheduler agenda).Reaches width height given s)
    (hs : s.status = .inProgress) : ∃ p agenda' stream,
      scheduler.select s.agenda s.grid s.stream = (some p, agenda', stream) ∧
        s.grid.Inside p ∧ s.grid.isResolved p = false := by
  have hv := (coherent_of_reaches h).valid
  rcases hsel : scheduler.select s.agenda s.grid s.stream with ⟨_ | p, agenda', stream⟩
  · have hall := hsch.allResolved _ _ _ hv (congrArg Prod.fst hsel)
    obtain ⟨p, hp, ho⟩ := exists_open_of_inProgress h hs
    simp [hv.allResolved_iff.mp hall p hp] at ho
  · exact ⟨p, agenda', stream, rfl, hsch.isOpen _ _ _ _ hv (congrArg Prod.fst hsel)⟩

theorem resolvedCount_eq (h : (flooding ts scheduler agenda).Reaches width height given s) :
    s.grid.resolvedCount = s.history.length := by
  have hcells := Grid.resolvedCount_add_openCount (coherent_of_reaches h).valid
  have hw : s.grid.width = width := congrArg (·.1) h.shape_eq
  have hh : s.grid.height = height := congrArg (·.2.1) h.shape_eq
  have hlen := h.length_history
  rw [hw, hh] at hcells
  omega

/-- A step of a solve in progress decides a cell, or the weights have no finite total. -/
theorem step_decides (hsch : scheduler.Faithful)
    (h : (flooding ts scheduler agenda).Reaches width height given s)
    (hs : s.status = .inProgress) :
    (∃ r c, ((flooding ts scheduler agenda).step s).result = .ok r ∧
      Decides s r ((flooding ts scheduler agenda).step s).solve c) ∨
    ((flooding ts scheduler agenda).step s).result = .error (.weights .infiniteTotal) := by
  have hc := coherent_of_reaches h
  have hopen : ∀ {p agenda' stream},
      (flooding ts scheduler agenda).scheduler.select s.agenda s.grid s.stream =
        (some p, agenda', stream) → s.grid.Inside p ∧ s.grid.isResolved p = false :=
    fun hsel => hsch.isOpen _ _ _ _ hc.valid (congrArg Prod.fst hsel)
  have hm := step_move (flooding ts scheduler agenda) s
  generalize ((flooding ts scheduler agenda).step s).result = r at hm ⊢
  generalize ((flooding ts scheduler agenda).step s).solve = s' at hm ⊢
  cases hm with
  | finished hterm => simp [hs] at hterm
  | exhausted _ hsel =>
    have hall := hsch.allResolved _ _ _ hc.valid (congrArg Prod.fst hsel)
    have hpos := openCount_pos_of_inProgress h hs
    rw [Grid.allResolved_iff_openCount.mp hall] at hpos
    contradiction
  | undrawn _ hsel hdraw =>
    rw [(infiniteTotal_of_chooseTile hc.valid hc.tileCount (hopen hsel).1 hdraw).1]
    exact .inr rfl
  | refused _ hsel hdraw hplace =>
    obtain ⟨hin, ho⟩ := hopen hsel
    obtain ⟨g, hg⟩ :=
      Grid.exists_collapse ho (admits_of_chooseTile hc.valid hc.tileCount hin hdraw)
    cases hg.symm.trans hplace
  | blocked _ hsel hdraw =>
    obtain ⟨hin, ho⟩ := hopen hsel
    have hadm := admits_of_chooseTile hc.valid hc.tileCount hin hdraw
    exact .inl ⟨_, _, rfl, rfl, hin, ho, hadm, rfl, rfl⟩
  | broken _ _ _ hplace hpass hf => exact absurd hf (failure_ne_grid hc hplace hpass)
  | advanced _ hsel hdraw =>
    obtain ⟨hin, ho⟩ := hopen hsel
    have hadm := admits_of_chooseTile hc.valid hc.tileCount hin hdraw
    exact .inl ⟨_, _, rfl, rfl, hin, ho, hadm, rfl, rfl⟩

/-- A run ends, with one step for each cell that it decides, or the weights have no finite total. -/
theorem run_ends (hsch : scheduler.Faithful)
    (h : (flooding ts scheduler agenda).Reaches width height given s) :
    (∃ status, ((flooding ts scheduler agenda).run s).result = .ok status ∧
      status.isTerminal = true ∧ ((flooding ts scheduler agenda).run s).solve.status = status ∧
      ((flooding ts scheduler agenda).run s).solve.steps + s.history.length =
        s.steps + ((flooding ts scheduler agenda).run s).solve.history.length) ∨
    ((flooding ts scheduler agenda).run s).result = .error (.weights .infiniteTotal) := by
  fun_induction Engine.run (flooding ts scheduler agenda) s with
  | case1 s hterm => exact .inl ⟨s.status, rfl, hterm, rfl, rfl⟩
  | case2 s hterm now cause hres =>
    rcases step_decides hsch h (Status.eq_inProgress hterm) with ⟨r, c, hok, -⟩ | hinf
    · cases hok.symm.trans hres
    · cases hres.symm.trans hinf
      exact .inr rfl
  | case3 s hterm now report hres later ih =>
    rcases step_decides hsch h (Status.eq_inProgress hterm) with ⟨r, c, hok, hdec⟩ | hinf
    · rcases ih (h.answer .step) with ⟨status, hrun, hend, hstatus, hcount⟩ | hinf
      · refine .inl ⟨status, hrun, hend, hstatus, ?_⟩
        have hlen : now.solve.history.length = s.history.length + 1 := by simp [now, hdec.history]
        have hsteps : now.solve.steps = s.steps + 1 := hdec.steps
        change later.solve.steps + s.history.length = s.steps + later.solve.history.length
        change later.solve.steps + now.solve.history.length =
          now.solve.steps + later.solve.history.length at hcount
        omega
      · exact .inr hinf
    · cases hinf.symm.trans hres

/-- Apart from steps of a finished solve, calls fail only where a draw does. -/
theorem fault?_of_reaches (hsch : scheduler.Faithful)
    (h : (flooding ts scheduler agenda).Reaches width height given s) {call : Call}
    {cause : SolverError} (hf : (flooding ts scheduler agenda).fault? s call = some cause) :
    (∃ status, cause = .finished status) ∨ cause = .weights .infiniteTotal := by
  cases call with
  | step =>
    by_cases hterm : s.status.isTerminal = true
    · have hcause : SolverError.finished s.status = cause := by
        simpa [fault?, step, hterm, cause?] using hf
      exact .inl ⟨_, hcause.symm⟩
    · rcases step_decides hsch h (Status.eq_inProgress hterm) with ⟨r, c, hok, -⟩ | hinf
      · simp [fault?, hok, cause?] at hf
      · exact .inr (by simpa [fault?, hinf, cause?] using hf.symm)
  | run =>
    rcases run_ends hsch h with ⟨status, hok, -⟩ | hinf
    · simp [fault?, hok, cause?] at hf
    · exact .inr (by simpa [fault?, hinf, cause?] using hf.symm)

theorem faults_of_reaches (hsch : scheduler.Faithful)
    (h : (flooding ts scheduler agenda).Reaches width height given s) (calls : List Call) :
    ∀ cause ∈ (flooding ts scheduler agenda).faults s calls,
      (∃ status, cause = .finished status) ∨ cause = .weights .infiniteTotal := by
  induction calls generalizing s with
  | nil => simp [faults]
  | cons call rest ih =>
    intro cause hmem
    rcases List.mem_append.mp hmem with hnow | hlater
    · exact fault?_of_reaches hsch h (by simpa using hnow)
    · exact ih (h.answer call) cause hlater

theorem steps_of_start (hsch : scheduler.Faithful) {seed : UInt64}
    (h : ((flooding ts scheduler agenda).start width height seed given).result = .ok s)
    {calls : List Call}
    (hf : .weights .infiniteTotal ∉ (flooding ts scheduler agenda).faults s calls) :
    ((flooding ts scheduler agenda).after s calls).steps =
      ((flooding ts scheduler agenda).after s calls).history.length := by
  have hcount := steps_after (flooding ts scheduler agenda) s calls
  have hopening := opening_of_start h
  rw [hopening.history_eq, hopening.steps_eq, List.length_nil] at hcount
  have hnone : misses ((flooding ts scheduler agenda).faults s calls) = 0 := by
    rw [misses_eq_zero_iff]
    intro cause hmem
    rcases faults_of_reaches hsch (reaches_of_start h) calls cause hmem with ⟨status, rfl⟩ | rfl
    · rfl
    · exact absurd hmem hf
  omega

theorem resolvedCount_step (h : (flooding ts scheduler agenda).Reaches width height given s)
    {r : Report} {c : Collapse} (hdec : Decides s r ((flooding ts scheduler agenda).step s).solve c) :
    ((flooding ts scheduler agenda).step s).solve.grid.resolvedCount =
      s.grid.resolvedCount + 1 := by
  have hafter : ((flooding ts scheduler agenda).step s).solve.grid.resolvedCount =
      ((flooding ts scheduler agenda).step s).solve.history.length :=
    resolvedCount_eq (h.answer .step)
  rw [hafter, resolvedCount_eq h, hdec.history, List.length_append, List.length_singleton]

theorem resolved_iff_of_isTerminal (hsch : scheduler.Faithful)
    (h : (flooding ts scheduler agenda).Reaches width height given s)
    (hterm : s.status.isTerminal = true) : s.status = .resolved ↔
      s.history.length = width * height ∧ ∀ p, s.status ≠ .contradiction p := by
  constructor
  · intro hr
    have hopen := Grid.allResolved_iff_openCount.mp (allResolved_of_reaches hsch h hr)
    have hlen := h.length_history
    exact ⟨by omega, by simp [hr]⟩
  · rintro ⟨-, hno⟩
    cases hs : s.status with
    | inProgress => simp [hs] at hterm
    | resolved => rfl
    | contradiction p => exact absurd hs (hno p)

end Floods

/-- The standard engine makes progress. Its calls fail only after the end or where a draw has no
finite total; a step of a solve in progress decides an open cell; and a run ends, within as many
steps as there are cells, resolved exactly if it took them all and met no contradiction. -/
theorem standard_progress {ts : TileSet} {how : Selection} {width height : Nat} {seed : UInt64}
    {given : List Given} {s now : Solve Unit Unit} {calls : List Call}
    (h : ((standard ts how).start width height seed given).result = .ok s)
    (hnow : (standard ts how).after s calls = now) :
    (∀ cause ∈ (standard ts how).faults s calls,
      (∃ status, cause = .finished status) ∨ cause = .weights .infiniteTotal) ∧
    now.history.length = now.grid.resolvedCount ∧
    (.weights .infiniteTotal ∉ (standard ts how).faults s calls →
      now.steps = now.history.length) ∧
    (now.status = .inProgress →
      (∃ p, now.grid.Inside p ∧ now.grid.isResolved p = false) ∧
      (((standard ts how).step now).result ≠ .error (.weights .infiniteTotal) →
        ∃ r c, ((standard ts how).step now).result = .ok r ∧
          Decides now r ((standard ts how).step now).solve c ∧
          ((standard ts how).step now).solve.grid.resolvedCount = now.grid.resolvedCount + 1)) ∧
    (((standard ts how).run now).result ≠ .error (.weights .infiniteTotal) →
      ∃ status, ((standard ts how).run now).result = .ok status ∧ status.isTerminal = true ∧
        ((standard ts how).run now).solve.status = status ∧
        ((standard ts how).run now).solve.steps ≤ now.steps + width * height ∧
        (.weights .infiniteTotal ∉ (standard ts how).faults s calls →
          ((standard ts how).run now).solve.steps ≤ width * height ∧
          (status = .resolved ↔ ((standard ts how).run now).solve.steps = width * height ∧
            ∀ p, status ≠ .contradiction p))) := by
  have hsch := Scheduler.faithful_fewest how
  have hreach : (standard ts how).Reaches width height given now := ⟨seed, s, calls, h, hnow⟩
  have hsteps : .weights .infiniteTotal ∉ (standard ts how).faults s calls →
      now.steps = now.history.length := hnow ▸ steps_of_start hsch h
  refine ⟨faults_of_reaches hsch (reaches_of_start h) calls, (resolvedCount_eq hreach).symm,
    hsteps, fun hs => ⟨exists_open_of_inProgress hreach hs, fun hne => ?_⟩, fun hne => ?_⟩
  · rcases step_decides hsch hreach hs with ⟨r, c, hok, hdec⟩ | hinf
    · exact ⟨r, c, hok, hdec, resolvedCount_step hreach hdec⟩
    · exact absurd hinf hne
  · rcases run_ends hsch hreach with ⟨status, hok, hterm, rfl, hcount⟩ | hinf
    · have hend := hreach.answer .run
      have hlen : ((standard ts how).run now).solve.history.length + _ = width * height :=
        hend.length_history
      have hcount : ((standard ts how).run now).solve.steps + now.history.length =
        now.steps + ((standard ts how).run now).solve.history.length := hcount
      refine ⟨_, hok, hterm, rfl, by omega, fun hf => ?_⟩
      have hiff := resolved_iff_of_isTerminal hsch hend hterm
      have heq : ((standard ts how).run now).solve.steps =
          ((standard ts how).run now).solve.history.length := by
        have := hsteps hf
        omega
      rw [heq]
      exact ⟨by omega, hiff⟩
    · exact absurd hinf hne

/-- Half-way through a row of two, the next step decides and the run comes to its end. -/
theorem standard_progress_couple : ∃ s now r c status,
    ((standard .couple .firstMinimum).start 2 1 5 []).result = .ok s ∧
      (standard .couple .firstMinimum).after s [.step] = now ∧ now.status = .inProgress ∧
      now.steps = now.history.length ∧
      ((standard .couple .firstMinimum).step now).result = .ok r ∧
      Decides now r ((standard .couple .firstMinimum).step now).solve c ∧
      ((standard .couple .firstMinimum).run now).result = .ok status ∧
      (status = .resolved ↔ ((standard .couple .firstMinimum).run now).solve.steps = 2 * 1 ∧
        ∀ p, status ≠ .contradiction p) := by
  obtain ⟨s, h, heval⟩ : ∃ s, ((standard .couple .firstMinimum).start 2 1 5 []).result = .ok s ∧
      (((standard .couple .firstMinimum).after s [.step]).status,
        (standard .couple .firstMinimum).faults s [.step, .step],
        (standard .couple .firstMinimum).faults s [.step, .run]) = (.inProgress, [], []) :=
    exists_start (by decide +kernel)
  simp only [Prod.mk.injEq, faults, List.append_eq_nil_iff, Option.toList_eq_nil_iff] at heval
  obtain ⟨hs, ⟨hfirst, hstep, -⟩, -, hrun, -⟩ := heval
  have hquiet : .weights .infiniteTotal ∉ (standard .couple .firstMinimum).faults s [.step] := by
    simp [faults, hfirst]
  obtain ⟨-, -, hcount, hprogress, hends⟩ :=
    standard_progress h (show (standard .couple .firstMinimum).after s [.step] = _ from rfl)
  obtain ⟨r, c, hok, hdec, -⟩ := (hprogress hs).2 (ne_error_of_cause? hstep _)
  obtain ⟨status, hres, -, -, -, hiff⟩ := hends (ne_error_of_cause? hrun _)
  exact ⟨s, _, r, c, status, h, rfl, hs, hcount hquiet, hok, hdec, hres, (hiff hquiet).2⟩

end Engine

end EdgeTiling
