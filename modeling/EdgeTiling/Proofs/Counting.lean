import EdgeTiling.Proofs.History
import EdgeTiling.Proofs.Totals

/-! What the counter of steps counts. A step is counted as soon as its cell is chosen, so beside the
decisions the counter has every miss. A step misses exactly if the cell is outside the grid, decided
already, or has candidates without a finite total. -/

namespace EdgeTiling

open EdgeTiling.Random (Stream Weighted)

namespace Engine

section Misses

variable {ts : TileSet} {g : Grid} {p : Position}

theorem chooseTile_outside (hp : ¬ g.Inside p) (s : Stream) :
    chooseTile ts g p s = (.error (.weights .noItem), s) := by
  have hnone : g.domain? p = none := by
    cases hc : g.cell? p with
    | none => simp [Grid.domain?, hc]
    | some c => exact absurd (Grid.inside_of_cell? hc) hp
  simp [chooseTile, hnone, weightsOf, Weighted.ofWeights]

end Misses

section Counts

variable {σ π : Type} {e : Engine σ π} {s : Solve σ π} {p : Position} {agenda : σ} {stream : Stream}

theorem step_misses_iff (hv : s.grid.Valid) (hn : s.grid.tileCount = e.tiles.size)
    (hs : s.status = .inProgress)
    (hsel : e.scheduler.select s.agenda s.grid s.stream = (some p, agenda, stream)) :
    (∃ cause, (e.step s).result = .error cause ∧ cause.isMiss = true) ↔
      ¬ s.grid.Inside p ∨ s.grid.isResolved p = true ∨
        (Weighted.total (weightsAt e.tiles s.grid p)).isFinite = false := by
  by_cases hp : s.grid.Inside p
  · simp only [hp, not_true_eq_false, false_or]
    constructor
    · rintro ⟨cause, hr, hmiss⟩
      have hm := step_move e s
      rw [hr] at hm
      generalize (e.step s).solve = s' at hm
      cases hm with
      | finished => contradiction
      | undrawn _ hsel' hdraw =>
        cases hsel.symm.trans hsel'
        exact .inr (infiniteTotal_of_chooseTile hv hn hp hdraw).2
      | refused _ hsel' hdraw hplace =>
        cases hsel.symm.trans hsel'
        by_contra hno
        obtain ⟨g, hg⟩ := Grid.exists_collapse (p := p) (by simp_all)
          (admits_of_chooseTile hv hn hp hdraw)
        cases hg.symm.trans hplace
      | broken => contradiction
    · intro hbad
      rcases chooseTile_inside hv hn hp stream with ⟨t, stream', hdraw, -, hfin⟩ | ⟨hdraw, -⟩
      · rcases hbad with hres | hinf
        · cases hplace : s.grid.collapse p t with
          | error cause =>
            exact ⟨.grid cause, by simp [step, hs, hsel, decideAt, hdraw, hplace], rfl⟩
          | ok g => simp [(Grid.of_collapse hplace).1] at hres
        · rw [hfin] at hinf
          contradiction
      · exact ⟨.weights .infiniteTotal, by simp [step, hs, hsel, decideAt, hdraw], rfl⟩
  · simp only [hp, not_false_eq_true, true_or, iff_true]
    exact ⟨.weights .noItem, by simp [step, hs, hsel, decideAt, chooseTile_outside hp], rfl⟩

/-- A step that misses was given a cell, and changes neither the grid nor the history. -/
theorem kept_of_miss {cause : SolverError} (hr : (e.step s).result = .error cause)
    (hmiss : cause.isMiss = true) :
    (s.status = .inProgress ∧ ∃ p agenda stream,
      e.scheduler.select s.agenda s.grid s.stream = (some p, agenda, stream)) ∧
    (e.step s).solve.grid = s.grid ∧ (e.step s).solve.history = s.history ∧
      (e.step s).solve.steps = s.steps + 1 := by
  have hm := step_move e s
  rw [hr] at hm
  generalize (e.step s).solve = s' at hm ⊢
  cases hm with
  | finished => contradiction
  | undrawn hs hsel => exact ⟨⟨hs, _, _, _, hsel⟩, rfl, rfl, rfl⟩
  | refused hs hsel => exact ⟨⟨hs, _, _, _, hsel⟩, rfl, rfl, rfl⟩
  | broken => contradiction

theorem steps_eq_length_history {width height : Nat} {given : List Given}
    (hopen : ∀ memory g stream p, g.Valid → (e.scheduler.select memory g stream).1 = some p →
      g.Inside p ∧ g.isResolved p = false)
    (hfin : (Weighted.total e.tiles.weights).isFinite = true)
    (h : e.Reaches width height given s) : s.steps = s.history.length := by
  refine h.invariant (P := fun s => s.steps = s.history.length) ?_ ?_
  · intro s hs
    rw [hs.history_eq, hs.steps_eq]
    rfl
  · intro s hreach hsteps
    have hhit : ∀ cause, (e.step s).result = .error cause → ¬ cause.isMiss = true := by
      intro cause hr hmiss
      obtain ⟨⟨hs, p, agenda, stream, hsel⟩, -⟩ := kept_of_miss hr hmiss
      obtain ⟨hp, ho⟩ := hopen _ _ _ p hreach.valid (congrArg Prod.fst hsel)
      obtain ⟨hsub, hne⟩ := weightsAt_sublist hreach.valid hreach.tileCount hp
      have hpart := Weighted.isFinite_total_of_sublist hsub hne e.tiles.weights_pos hfin
      have hbad := (step_misses_iff hreach.valid hreach.tileCount hs hsel).mp ⟨cause, hr, hmiss⟩
      simp [hp, ho, hpart] at hbad
    have hnone : misses (cause? (e.step s).result).toList = 0 := by
      rw [misses_eq_zero_iff]
      intro cause hmem
      cases hr : (e.step s).result with
      | ok r => simp [hr, cause?] at hmem
      | error cause' =>
        obtain rfl : cause = cause' := by simpa [hr, cause?] using hmem
        simpa using hhit cause hr
    have hstep := steps_step e s
    omega

end Counts

/-- After every sequence of calls, whatever they returned, the counter stands at the number of
decisions and misses. -/
theorem steps_count_decisions_and_misses {σ π : Type} {e : Engine σ π} {width height : Nat}
    {seed : UInt64} {given : List Given} {s now : Solve σ π} {calls : List Call}
    (h : (e.start width height seed given).result = .ok s) (hnow : e.after s calls = now) :
    now.steps = now.history.length + misses (e.faults s calls) ∧
    (now.steps = now.history.length ↔ ∀ cause ∈ e.faults s calls, cause.isMiss = false) ∧
    (∀ p agenda stream, now.status = .inProgress →
      e.scheduler.select now.agenda now.grid now.stream = (some p, agenda, stream) →
      ((∃ cause, (e.step now).result = .error cause ∧ cause.isMiss = true) ↔
        ¬ now.grid.Inside p ∨ now.grid.isResolved p = true ∨
          (Weighted.total (weightsAt e.tiles now.grid p)).isFinite = false)) ∧
    (∀ cause, (e.step now).result = .error cause → cause.isMiss = true →
      (e.step now).solve.grid = now.grid ∧ (e.step now).solve.history = now.history ∧
        (e.step now).solve.steps = now.steps + 1) ∧
    ((∀ memory g stream p, g.Valid → (e.scheduler.select memory g stream).1 = some p →
        g.Inside p ∧ g.isResolved p = false) →
      (Weighted.total e.tiles.weights).isFinite = true → now.steps = now.history.length) := by
  subst hnow
  have hreach : e.Reaches width height given (e.after s calls) := ⟨seed, s, calls, h, rfl⟩
  have hopening := opening_of_start h
  have hcount := steps_after e s calls
  rw [hopening.history_eq, hopening.steps_eq, List.length_nil] at hcount
  refine ⟨by omega, ?_, ?_, ?_, ?_⟩
  · rw [← misses_eq_zero_iff]
    omega
  · intro p agenda stream hs hsel
    exact step_misses_iff hreach.valid hreach.tileCount hs hsel
  · intro cause hr hmiss
    exact (kept_of_miss hr hmiss).2
  · intro hopen hfin
    exact steps_eq_length_history hopen hfin hreach

/-- Two decisions and two misses are four steps. -/
theorem steps_count_decisions_and_misses_mishaps : ∃ s now,
    (mishaps.start 2 1 5 []).result = .ok s ∧
    mishaps.after s [.step, .run, .step, .step] = now ∧ now.history.length = 2 ∧
    misses (mishaps.faults s [.step, .run, .step, .step]) = 2 ∧ now.steps = 2 + 2 ∧
    ¬ ∀ cause ∈ mishaps.faults s [.step, .run, .step, .step], cause.isMiss = false := by
  obtain ⟨s, hs, hcourse⟩ : ∃ s, (mishaps.start 2 1 5 []).result = .ok s ∧
      ((mishaps.after s [.step, .run, .step, .step]).history.length,
        misses (mishaps.faults s [.step, .run, .step, .step])) = (2, 2) :=
    exists_start (by decide +kernel)
  obtain ⟨hlen, hmiss⟩ := Prod.mk.inj hcourse
  obtain ⟨hcount, hiff, -⟩ := steps_count_decisions_and_misses hs
    (rfl : mishaps.after s [.step, .run, .step, .step] = _)
  rw [hlen, hmiss] at hcount
  refine ⟨s, _, hs, rfl, hlen, hmiss, hcount, ?_⟩
  rw [← hiff, hcount, hlen]
  decide

/-- A row of two whose scheduler names a cell far outside. -/
def astray : Engine (List Position) Unit :=
  ⟨.couple, .script, [⟨9, 9⟩], .flooding, ()⟩

/-- The only step fails without a decision, and is counted. -/
theorem miss_counted_astray : ∃ s, (astray.start 2 1 5 []).result = .ok s ∧
    cause? (astray.step s).result = some (.weights .noItem) ∧
    (astray.step s).solve.history = [] ∧ (astray.step s).solve.steps = 1 := by
  obtain ⟨s, hs, hstep⟩ : ∃ s, (astray.start 2 1 5 []).result = .ok s ∧
      (cause? (astray.step s).result, (astray.step s).solve.history,
        (astray.step s).solve.steps) = (some (.weights .noItem), [], 1) :=
    exists_start (by decide +kernel)
  simp only [Prod.mk.injEq] at hstep
  exact ⟨s, hs, hstep⟩

end Engine

end EdgeTiling
