import EdgeTiling.Proofs.Consistency

/-! The history of a solve and its grid, under any scheduler and any propagator. A step writes a
decision into the grid and into the history, or into neither, wherever it fails; so the history
lists the decided cells, each once. A finished solve answers every further call and is not changed
by it. -/

namespace EdgeTiling

namespace Engine

section Histories

variable {σ π : Type} {e : Engine σ π} {width height : Nat} {given : List Given} {s now : Solve σ π}

structure Mirrors (s : Solve σ π) : Prop where
  nodup : (s.history.map (·.position)).Nodup
  chosen_iff : ∀ p t, s.grid.chosen? p = some t ↔ ⟨p, t⟩ ∈ s.history

theorem Mirrors.mem_positions_iff (h : Mirrors s) (p : Position) :
    p ∈ s.history.map (·.position) ↔ s.grid.isResolved p = true := by
  rw [Grid.isResolved, Option.isSome_iff_exists, List.mem_map]
  constructor
  · rintro ⟨⟨q, t⟩, hmem, rfl⟩
    exact ⟨t, (h.chosen_iff q t).mpr hmem⟩
  · rintro ⟨t, ht⟩
    exact ⟨⟨p, t⟩, (h.chosen_iff p t).mp ht, rfl⟩

theorem Opening.chosen?_eq (h : Opening e width height given s) (p : Position) :
    s.grid.chosen? p = none := by
  obtain ⟨full, hfull, hnar⟩ := h.narrows
  rw [hnar.chosen?_eq, Grid.chosen?_new hfull]

theorem mirrors_of_opening (h : Opening e width height given s) : Mirrors s := by
  constructor
  · simp [h.history_eq]
  · simp [h.history_eq, h.chosen?_eq]

theorem Mirrors.step (h : Mirrors s) : Mirrors (e.step s).solve := by
  rcases kept_or_collapsed e s with ⟨hgrid, hhist⟩ | ⟨p, tile, g, hc, hnar, hhist⟩
  · exact ⟨hhist ▸ h.nodup, hgrid ▸ hhist ▸ h.chosen_iff⟩
  · have hopen : s.grid.chosen? p = none := by
      simpa [Grid.isResolved] using (Grid.of_collapse hc).1
    -- the cell was open, so the history had nothing to say about it
    have hnew : ∀ t, ⟨p, t⟩ ∉ s.history := by
      intro t ht
      rw [← h.chosen_iff, hopen] at ht
      contradiction
    constructor
    · rw [hhist, List.map_append, List.map_singleton, List.nodup_append]
      refine ⟨h.nodup, by simp, fun q hq r hr => ?_⟩
      obtain ⟨c, hmem, rfl⟩ := List.mem_map.mp hq
      obtain rfl := List.mem_singleton.mp hr
      rintro rfl
      exact hnew c.tile hmem
    · intro q t
      rw [hnar.chosen?_eq, Grid.chosen?_collapse hc, hhist, List.mem_append, ← h.chosen_iff,
        List.mem_singleton, Collapse.mk.injEq]
      split
      · next hq =>
        subst hq
        simp [hopen, eq_comm]
      · next hq => simp [hq]

theorem mirrors_of_reaches (h : e.Reaches width height given now) : Mirrors now :=
  h.invariant (fun _ => mirrors_of_opening) fun _ _ => Mirrors.step

theorem prefix_history_step (e : Engine σ π) (s : Solve σ π) :
    s.history <+: (e.step s).solve.history := by
  rcases kept_or_collapsed e s with ⟨-, hhist⟩ | ⟨p, tile, g, -, -, hhist⟩
  · exact hhist ▸ List.prefix_rfl
  · exact hhist ▸ List.prefix_append _ _

theorem prefix_history_after (e : Engine σ π) (s : Solve σ π) (calls : List Call) :
    s.history <+: (e.after s calls).history :=
  after_invariant (P := fun now => s.history <+: now.history)
    (fun now h => h.trans (prefix_history_step e now)) List.prefix_rfl calls

theorem run_of_isTerminal (h : s.status.isTerminal = true) : e.run s = ⟨.ok s.status, s, []⟩ := by
  rw [run, if_pos h]

theorem after_of_isTerminal (h : s.status.isTerminal = true) (calls : List Call) :
    e.after s calls = s := by
  refine after_invariant (P := fun now => now = s) ?_ rfl calls
  rintro now rfl
  exact step_of_isTerminal h

/-- In the course of every solve, errors included, the history has each decided cell once, with its
tile, and only ever grows at its end. Once the solve is finished no call changes anything about it:
every step is refused with its status, and every run returns that status. -/
theorem history_mirrors_grid (h : e.Reaches width height given now) :
    (now.history.map (·.position)).Nodup ∧
    (∀ p t, now.grid.chosen? p = some t ↔ ⟨p, t⟩ ∈ now.history) ∧
    (∀ calls, now.history <+: (e.after now calls).history) ∧
    (now.status.isTerminal = true → ∀ calls, e.after now calls = now ∧
      (e.step (e.after now calls)).result = .error (.finished now.status) ∧
      (e.run (e.after now calls)).result = .ok now.status) := by
  have hm := mirrors_of_reaches h
  refine ⟨hm.nodup, hm.chosen_iff, prefix_history_after e now, fun hterm calls => ?_⟩
  have hstay := after_of_isTerminal (e := e) hterm calls
  refine ⟨hstay, ?_, ?_⟩
  · simp [hstay, Engine.step, hterm]
  · rw [hstay, run_of_isTerminal hterm]

end Histories

end Engine

def Propagator.script : Propagator (List (Option PropagationError)) where
  pass memory _ g _ := (⟨g, [], [], memory.head?.join⟩, memory.tail)
  narrows _ _ g _ := .refl g

namespace Engine

/-- A row of two under a propagator that fails twice, with a cell named twice and one outside. -/
def mishaps : Engine (List Position) (List (Option PropagationError)) :=
  ⟨.couple, .script, [⟨0, 0⟩, ⟨0, 0⟩, ⟨7, 7⟩, ⟨1, 0⟩], .script,
    [none, some (.grid .noTiles), some (.contradiction ⟨0, 0⟩)]⟩

/-- Three of the four steps fail, the first of them after its decision, and the last meets a
contradiction. -/
theorem history_mirrors_grid_mishaps : ∃ now, mishaps.Reaches 2 1 [] now ∧
    (now.status, now.history, now.steps) =
      (.contradiction ⟨0, 0⟩, [⟨⟨0, 0⟩, 0⟩, ⟨⟨1, 0⟩, 0⟩], 4) ∧
    (∀ p t, now.grid.chosen? p = some t ↔ ⟨p, t⟩ ∈ now.history) ∧
    (mishaps.step (mishaps.after now [.step, .run])).result =
      .error (.finished (.contradiction ⟨0, 0⟩)) := by
  obtain ⟨now, h, hnow⟩ : ∃ now, mishaps.Reaches 2 1 [] now ∧
      (now.status, now.history, now.steps) =
        (.contradiction ⟨0, 0⟩, [⟨⟨0, 0⟩, 0⟩, ⟨⟨1, 0⟩, 0⟩], 4) :=
    exists_reaches 5 [.step, .run, .step, .step] (by decide +kernel)
  have hs : now.status = .contradiction ⟨0, 0⟩ := congrArg Prod.fst hnow
  obtain ⟨-, hiff, -, hstays⟩ := history_mirrors_grid h
  obtain ⟨-, hstep, -⟩ := hstays (by simp [hs]) [.step, .run]
  exact ⟨now, h, hnow, hiff, hs ▸ hstep⟩

end Engine

end EdgeTiling
