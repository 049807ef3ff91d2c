import EdgeTiling.Proofs.Worklist

/-! Passes over a tile set that does not belong to the grid. What a cell supports then has the length
of that tile set, so the first attempt to narrow a cell is refused, and nothing has changed by then.
A pass that never attempts to narrow a cell does not notice. -/

namespace EdgeTiling

namespace Grid

def FacesOpen (g : Grid) (p : Position) : Prop :=
  g.Inside p ∧ ∃ near ∈ g.neighbors p, g.isResolved near.1 = false

instance (g : Grid) (p : Position) : Decidable (g.FacesOpen p) :=
  inferInstanceAs (Decidable (_ ∧ _))

theorem lt_wordLimit_of_new {width height n : Nat} {full : Grid}
    (h : Grid.new width height n = .ok full) : width * height < wordLimit := by
  obtain ⟨hw, hh, -, hn⟩ := new_eq_ok h
  by_contra hlimit
  simp [Grid.new, Nat.ne_of_gt hw, Nat.ne_of_gt hh, Nat.ne_of_gt hn, Nat.not_lt.mp hlimit] at h

theorem restrict_of_width_ne {g : Grid} {p : Position} {allowed : Domain} (hv : g.Valid)
    (hp : g.Inside p) (hw : allowed.width ≠ g.tileCount) :
    g.restrict p allowed = .error (.maskLength g.tileCount allowed.width) := by
  obtain ⟨c, hc⟩ := hv.exists_cell hp
  obtain ⟨i, hl⟩ := exists_locate hc
  simp [restrict, hl, hw]

end Grid

section Foreign

variable {g : Grid} {ts : TileSet}

theorem spreadTo_of_foreign (hv : g.Valid) (hn : g.tileCount ≠ ts.size) (p : Position)
    (source : Domain) {near : List (Position × Direction)} (hin : ∀ x ∈ near, g.Inside x.1) :
    spreadTo ts p source g near = ⟨g, [], if ∃ x ∈ near, g.isResolved x.1 = false then
      some (.grid (.maskLength g.tileCount ts.size)) else none⟩ := by
  induction near with
  | nil => simp [spreadTo]
  | cons x rest ih =>
    obtain ⟨q, d⟩ := x
    obtain ⟨hq, hrest⟩ := List.forall_mem_cons.mp hin
    cases hres : g.isResolved q with
    | true =>
      have hopen : (∃ x ∈ (q, d) :: rest, g.isResolved x.1 = false) ↔
          ∃ x ∈ rest, g.isResolved x.1 = false := by simp [hres]
      simp only [spreadTo, hres, if_true, ih hrest, hopen]
    | false =>
      have hw : (ts.supported source d).width ≠ g.tileCount := by simpa using hn.symm
      have hrefused := Grid.restrict_of_width_ne hv hq hw
      simp [spreadTo, hres, hrefused, PropagationError.ofGridError]

theorem spreadFrom_of_foreign (hv : g.Valid) (hn : g.tileCount ≠ ts.size) (p : Position) :
    spreadFrom ts g p = ⟨g, [], if g.FacesOpen p then
      some (.grid (.maskLength g.tileCount ts.size)) else none⟩ := by
  by_cases hp : g.Inside p
  · obtain ⟨c, hc⟩ := hv.exists_cell hp
    have hs : g.domain? p = some c.domain := by simp [Grid.domain?, hc]
    rw [spreadFrom_of_domain? hs,
      spreadTo_of_foreign hv hn p c.domain fun x hx => Grid.inside_of_mem_neighbors hx]
    simp only [Grid.FacesOpen, hp, true_and]
  · have hs : g.domain? p = none := by simp [Grid.domain?, Grid.cell?, Grid.index?, hp]
    simp [spreadFrom, hs, Grid.FacesOpen, hp]

theorem flood_of_foreign (hv : g.Valid) (hn : g.tileCount ≠ ts.size) (queue : List Position) :
    flood ts g queue = ⟨g, [], if ∃ p ∈ queue, g.FacesOpen p then
      some (.grid (.maskLength g.tileCount ts.size)) else none⟩ := by
  induction queue with
  | nil => simp [flood]
  | cons p rest ih =>
    rw [flood, spreadFrom_of_foreign hv hn p]
    by_cases hp : g.FacesOpen p <;> simp [hp, ih]

/-- A grid that came about by any calls, and a tile set of another size. The pass from any seeds is
refused if a seed in the grid has a neighbour still to be decided, and goes through otherwise; either
way the grid and the list stay as they are. Worked out in place it comes to that end without an index
out of range, and the places of the cells are below the limit. -/
theorem foreign_tiles_change_nothing {width height n : Nat} {full : Grid}
    {ops : List Grid.Operation} (hfull : Grid.new width height n = .ok full)
    (hg : full.performAll ops = g) (hn : g.tileCount ≠ ts.size) (seeds already : List Position) :
    propagateInto ts g seeds already = ⟨g, already, [], if ∃ p ∈ seeds, g.FacesOpen p then
      some (.grid (.maskLength g.tileCount ts.size)) else none⟩ ∧
    (Worklist.start g seeds already).Performs ts (propagateInto ts g seeds already) ∧
    ∀ p i, g.index? p = some i → i < wordLimit := by
  have hv : g.Valid := hg ▸ Grid.valid_performAll (Grid.valid_new hfull) ops
  refine ⟨?_, Worklist.performs hv ts seeds already, fun p i hi => ?_⟩
  · simp [propagateInto, propagate, flood_of_foreign hv hn]
  · have hshape := (Grid.shrinks_performAll full ops).shape.trans (Grid.shape_new hfull)
    obtain ⟨rfl, rfl, -⟩ : g.width = width ∧ g.height = height ∧ g.tileCount = n := by
      simpa [Grid.shape, hg] using hshape
    exact Nat.lt_trans (Grid.index?_lt hi) (Grid.lt_wordLimit_of_new hfull)

end Foreign

/-- A row over three tiles with its far end still to be decided. -/
def Grid.openEnd : Grid :=
  ⟨3, 1, 3, #[⟨.only 3 2, some 2⟩, ⟨.only 3 0, some 0⟩, ⟨.full 3, none⟩]⟩

/-- A set of two tiles passes unnoticed from the near end, whose neighbour is decided, and is refused
as soon as the middle is among the seeds. -/
theorem foreign_tiles_change_nothing_plains : ∃ full, Grid.new 3 1 3 = .ok full ∧
    full.performAll [.collapse ⟨0, 0⟩ 2, .collapse ⟨1, 0⟩ 0] = .openEnd ∧
    Grid.openEnd.tileCount ≠ TileSet.plains.size ∧
    propagateInto .plains .openEnd [⟨9, 9⟩, ⟨0, 0⟩] [⟨5, 5⟩] = ⟨.openEnd, [⟨5, 5⟩], [], none⟩ ∧
    propagateInto .plains .openEnd [⟨9, 9⟩, ⟨0, 0⟩, ⟨1, 0⟩] [⟨5, 5⟩] =
      ⟨.openEnd, [⟨5, 5⟩], [], some (.grid (.maskLength 3 2))⟩ ∧
    (Worklist.start .openEnd [⟨9, 9⟩, ⟨0, 0⟩, ⟨1, 0⟩] [⟨5, 5⟩]).Performs .plains
      (propagateInto .plains .openEnd [⟨9, 9⟩, ⟨0, 0⟩, ⟨1, 0⟩] [⟨5, 5⟩]) := by
  obtain ⟨full, hfull, hg⟩ : ∃ full, Grid.new 3 1 3 = .ok full ∧
      full.performAll [.collapse ⟨0, 0⟩ 2, .collapse ⟨1, 0⟩ 0] = .openEnd :=
    ⟨_, rfl, by decide +kernel⟩
  have hn : Grid.openEnd.tileCount ≠ TileSet.plains.size := by decide
  obtain ⟨hpass, -, -⟩ := foreign_tiles_change_nothing hfull hg hn [⟨9, 9⟩, ⟨0, 0⟩] [⟨5, 5⟩]
  obtain ⟨hpass', hperforms, -⟩ :=
    foreign_tiles_change_nothing hfull hg hn [⟨9, 9⟩, ⟨0, 0⟩, ⟨1, 0⟩] [⟨5, 5⟩]
  rw [if_neg (by decide +kernel)] at hpass
  rw [if_pos (by decide +kernel)] at hpass'
  exact ⟨full, hfull, hg, hn, hpass, hpass', hperforms⟩

end EdgeTiling
