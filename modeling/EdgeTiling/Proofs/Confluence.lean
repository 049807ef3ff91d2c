import EdgeTiling.Proofs.Consistency

/-! One outcome, wherever the work begins. Grids are ordered by what they have lost and decided. A pass
over a grid that can still shrink to a closed one does not fail and goes no further than that, so two
passes whose seeds cover all that may lack support both go through and leave the same grid, or both
find a contradiction. After a decision the decided cell alone is such a cover: a pass from it does as
much as a pass from everywhere. -/

namespace EdgeTiling

namespace Grid

variable {g g' : Grid}

theorem Shrinks.antisymm (h : g.Shrinks g') (h' : g'.Shrinks g) (hv : g.Valid) (hv' : g'.Valid) :
    g = g' := by
  have hch : ∀ p, g.chosen? p = g'.chosen? p :=
    fun p => Option.ext fun t => ⟨h.chosen p t, h'.chosen p t⟩
  obtain ⟨hw, hh, hn⟩ := shape_eq_iff.mp h'.shape
  have hsize : g.cells.size = g'.cells.size := by rw [hv.size, hv'.size, hw, hh]
  refine Grid.ext hw hh hn (Array.ext hsize fun i hi hi' => ?_)
  have hc := hv.cell?_position (Array.getElem?_eq_getElem hi)
  have hc' := hv'.cell?_position (Array.getElem?_eq_getElem hi')
  have hpos : g.position i = g'.position i := by simp [position, hw]
  rw [hpos] at hc
  refine (hv.cell hc).eq (hn ▸ hv'.cell hc') (fun t => ?_) ?_
  · rw [← admits_of_cell? hc, ← admits_of_cell? hc']
    exact ⟨h'.admits _ t, h.admits _ t⟩
  · rw [← chosen?_of_cell? hc, ← chosen?_of_cell? hc']
    exact hch _

end Grid

namespace Pass

variable {a b : Pass}

/-- Both passes go through and leave the same grid, or both find a contradiction, though perhaps at
different cells. -/
def SameOutcome (a b : Pass) : Prop :=
  (∃ narrowed narrowed', a.result = .ok narrowed ∧ b.result = .ok narrowed' ∧ a.grid = b.grid) ∨
    ∃ p q, a.result = .error (.contradiction p) ∧ b.result = .error (.contradiction q)

theorem result_of_none (h : a.failure = none) : a.result = .ok a.narrowed := by
  simp [result, h]

theorem result_of_some {e : PropagationError} (h : a.failure = some e) : a.result = .error e := by
  simp [result, h]

theorem failure_of_result_ok {narrowed : List Position} (h : a.result = .ok narrowed) :
    a.failure = none := by
  cases hf : a.failure with
  | none => rfl
  | some e => simp [result_of_some hf] at h

theorem failure_of_result_error {e : PropagationError} (h : a.result = .error e) :
    a.failure = some e := by
  cases hf : a.failure with
  | none => simp [result_of_none hf] at h
  | some e' => simpa [result_of_some hf] using h

end Pass

section Passes

variable {ts : TileSet} {g goal : Grid} {seeds seeds' : List Position}

/-- The seeds need only cover what may lack support. -/
theorem TileSet.ClosedOff.mono (h : ts.ClosedOff g seeds) (hsub : ∀ p ∈ seeds, p ∈ seeds') :
    ts.ClosedOff g seeds' :=
  fun p q d hp hne => h p q d hp (mt (hsub p) hne)

/-- A pass over a grid that can still shrink to a closed one goes through, and the grid it leaves can
still do so. -/
theorem shrinks_propagate (hv : g.Valid) (hn : g.tileCount = ts.size) (hgoal : goal.Valid)
    (hs : g.Shrinks goal) (hclosed : ts.Closed g goal.Admits) (seeds : List Position) :
    (propagate ts g seeds).grid.Shrinks goal ∧ (propagate ts g seeds).failure = none := by
  have hnar := narrows_propagate ts g seeds
  have hinside := Grid.inside_of_shape hs.shape
  obtain ⟨hholds, hf⟩ := holds_propagate hv hn hclosed (fun p t _ ht => hs.admits p t ht)
    (fun p hp => hgoal.exists_admits ((hinside p).mpr hp)) seeds
  refine ⟨⟨hs.shape.trans hnar.shape_eq.symm, fun p t ht => ?_, fun p t ht => ?_⟩, hf⟩
  · have hp := (hinside p).mp (Grid.inside_of_admits ht)
    exact hholds p t ((Grid.inside_of_shape hnar.shape_eq p).mpr hp) ht
  · rw [hnar.chosen?_eq] at ht
    exact hs.chosen p t ht

theorem closed_propagate (hv : g.Valid) (h : ts.ClosedOff g seeds)
    (hf : (propagate ts g seeds).failure = none) :
    ts.Closed g (propagate ts g seeds).grid.Admits := by
  have hnar := narrows_propagate ts g seeds
  intro p q d hp hq ho
  -- to be closed means the same before and after the pass
  rw [← Grid.inside_of_shape hnar.shape_eq] at hp
  rw [← Grid.neighbors_of_shape hnar.shape_eq] at hq
  rw [← hnar.isResolved_eq] at ho
  exact closed_flood hv h hf p q d hp hq ho

/-- Where one pass goes through, every other pass does, and does not go further. -/
theorem propagate_shrinks_propagate (hv : g.Valid) (hn : g.tileCount = ts.size)
    (h : ts.ClosedOff g seeds) (hf : (propagate ts g seeds).failure = none)
    (seeds' : List Position) :
    (propagate ts g seeds').grid.Shrinks (propagate ts g seeds).grid ∧
      (propagate ts g seeds').failure = none := by
  have hnar := narrows_propagate ts g seeds
  exact shrinks_propagate hv hn (hnar.valid hv) hnar.shrinks (closed_propagate hv h hf) seeds'

theorem sameOutcome_propagate (hv : g.Valid) (hn : g.tileCount = ts.size)
    (h : ts.ClosedOff g seeds) (h' : ts.ClosedOff g seeds') :
    (propagate ts g seeds).SameOutcome (propagate ts g seeds') := by
  cases hf : (propagate ts g seeds).failure with
  | none =>
    obtain ⟨hs', hf'⟩ := propagate_shrinks_propagate hv hn h hf seeds'
    have hs := (propagate_shrinks_propagate hv hn h' hf' seeds).1
    have hgrid := hs.antisymm hs' ((narrows_propagate ts g seeds).valid hv)
      ((narrows_propagate ts g seeds').valid hv)
    exact .inl ⟨_, _, Pass.result_of_none hf, Pass.result_of_none hf', hgrid⟩
  | some e =>
    obtain ⟨q, rfl⟩ := contradiction_of_propagate hv hn hf
    cases hf' : (propagate ts g seeds').failure with
    | none => simp [(propagate_shrinks_propagate hv hn h' hf' seeds).2] at hf
    | some e' =>
      obtain ⟨r, rfl⟩ := contradiction_of_propagate hv hn hf'
      exact .inr ⟨q, r, Pass.result_of_some hf, Pass.result_of_some hf'⟩

end Passes

namespace Engine

variable {σ : Type} {ts : TileSet} {scheduler : Scheduler σ} {agenda : σ} {width height : Nat}
  {given : List Given}

/-- In the course of a solve, take any candidate of any open cell and decide the cell for it. A pass
from that cell and a pass from all cells, in any order and with repetitions, have the same outcome;
if they go through, the grid is arc consistent again. -/
theorem decided_cell_suffices {now : Solve σ Unit}
    (h : (flooding ts scheduler agenda).Reaches width height given now)
    (hs : now.status = .inProgress) {p : Position} {tile : TileId}
    (ho : now.grid.isResolved p = false) (ha : now.grid.Admits p tile) {seeds : List Position}
    (hall : ∀ q, now.grid.Inside q → q ∈ seeds) :
    ∃ g, now.grid.collapse p tile = .ok g ∧
      (propagate ts g [p]).SameOutcome (propagate ts g seeds) ∧
      ((propagate ts g [p]).failure = none → ts.ArcConsistent (propagate ts g [p]).grid) := by
  have hc := coherent_of_reaches h
  have harcs := hc.arcs (by simp [hs])
  obtain ⟨g, hg⟩ := Grid.exists_collapse ho ha
  have hv := Grid.valid_collapse hc.valid hg
  have hn : g.tileCount = ts.size := (congrArg (·.2.2) (Grid.shape_collapse hg)).trans hc.tileCount
  have hone : ts.ClosedOff g [p] := TileSet.closedOff_collapse harcs hg
  have hseeds : ts.ClosedOff g seeds := hone.mono (by simpa using hall p (Grid.inside_of_admits ha))
  refine ⟨g, hg, sameOutcome_propagate hv hn hone hseeds, fun hf => ?_⟩
  exact arcConsistent_propagate hv (TileSet.agrees_collapse hc.valid harcs hc.agrees hg) hone hf

/-- One dark cell makes the whole square dark, from whichever cell the pass begins. -/
theorem decided_cell_suffices_plains : ∃ now,
    (standard .plains .randomLowest).Reaches 2 2 [] now ∧
      (now.status, now.grid.isResolved ⟨1, 0⟩, now.grid.domainSize ⟨1, 0⟩) =
        (.inProgress, false, 2) ∧
      ∃ g, now.grid.collapse ⟨1, 0⟩ 1 = .ok g ∧
        (propagate .plains g [⟨1, 0⟩]).SameOutcome
          (propagate .plains g [⟨0, 1⟩, ⟨1, 1⟩, ⟨0, 1⟩, ⟨0, 0⟩, ⟨1, 0⟩]) := by
  obtain ⟨now, h, hnow⟩ : ∃ now, (standard .plains .randomLowest).Reaches 2 2 [] now ∧
      ((now.status, now.grid.isResolved ⟨1, 0⟩, now.grid.domainSize ⟨1, 0⟩),
        decide (now.grid.Admits ⟨1, 0⟩ 1)) = ((.inProgress, false, 2), true) :=
    exists_reaches 5 [] (by decide +kernel)
  obtain ⟨hstate, hadm⟩ := Prod.mk.inj hnow
  have hall : ∀ q, now.grid.Inside q → q ∈ ([⟨0, 1⟩, ⟨1, 1⟩, ⟨0, 1⟩, ⟨0, 0⟩, ⟨1, 0⟩] : List _) := by
    rintro ⟨x, y⟩ hq
    obtain ⟨hx, hy⟩ : x < 2 ∧ y < 2 := (Grid.inside_iff_of_shape h.shape_eq).mp hq
    simp only [List.mem_cons, Position.mk.injEq, List.not_mem_nil, or_false]
    omega
  obtain ⟨g, hg, hsame, -⟩ := decided_cell_suffices h (congrArg Prod.fst hstate)
    (congrArg (·.2.1) hstate) (of_decide_eq_true hadm) hall
  exact ⟨now, h, hstate, g, hg, hsame⟩

end Engine

end EdgeTiling
