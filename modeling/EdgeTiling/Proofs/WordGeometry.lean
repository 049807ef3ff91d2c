import Mathlib.Data.List.Nodup
import Mathlib.Logic.Equiv.Defs
import EdgeTiling.Proofs.ForeignTiles
import EdgeTiling.Proofs.FewestCandidates
import EdgeTiling.Proofs.Views

/-! Geometry in words. Places and steps are worked out with numbers below a limit, and where a sum or
a product would go beyond it there is no result. For a grid whose cells can be counted this makes no
difference: the place of every cell has a word, a step that leaves the words leaves the grid too, and
none comes back in on the other side. -/

namespace EdgeTiling

def signedWord? (n : Int) : Option Nat := if 0 ≤ n ∧ n < wordLimit then some n.toNat else none

theorem signedWord?_eq_some_iff {n : Int} {m : Nat} :
    signedWord? n = some m ↔ n = m ∧ m < wordLimit := by
  unfold signedWord?
  split
  · simp only [Option.some.injEq]
    omega
  · simp only [reduceCtorEq, false_iff]
    omega

theorem Direction.eq_of_offset {d d' : Direction} (h : d.offset = d'.offset) : d = d' := by
  cases d <;> cases d' <;> revert h <;> decide

namespace Position

def IsOff (p : Position) (d : Direction) (q : Position) : Prop :=
  (q.x : Int) = p.x + d.offset.1 ∧ (q.y : Int) = p.y + d.offset.2

def stepInWords? (p : Position) (d : Direction) : Option Position := do
  let x ← signedWord? (p.x + d.offset.1)
  let y ← signedWord? (p.y + d.offset.2)
  return ⟨x, y⟩

variable {p q : Position} {d d' : Direction}

theorem IsOff.unique (h : p.IsOff d q) (h' : p.IsOff d' q) : d = d' := by
  apply Direction.eq_of_offset
  apply Prod.ext
  · have := h.1.symm.trans h'.1
    omega
  · have := h.2.symm.trans h'.2
    omega

theorem step_eq_some_iff : p.step d = some q ↔ p.IsOff d q := by
  obtain ⟨x, y⟩ := p
  obtain ⟨x', y'⟩ := q
  unfold IsOff
  cases d with
  | up =>
    simp only [step, Direction.offset, Option.ite_none_left_eq_some, Option.some.injEq, mk.injEq]
    omega
  | down =>
    simp only [step, Direction.offset, Option.some.injEq, mk.injEq]
    omega
  | left =>
    simp only [step, Direction.offset, Option.ite_none_left_eq_some, Option.some.injEq, mk.injEq]
    omega
  | right =>
    simp only [step, Direction.offset, Option.some.injEq, mk.injEq]
    omega

theorem stepInWords?_eq_some_iff :
    p.stepInWords? d = some q ↔ p.IsOff d q ∧ q.x < wordLimit ∧ q.y < wordLimit := by
  simp only [stepInWords?, Option.bind_eq_bind, Option.bind_eq_some_iff, signedWord?_eq_some_iff,
    Option.pure_def, Option.some.injEq]
  constructor
  · rintro ⟨x, ⟨hx, hxw⟩, y, ⟨hy, hyw⟩, rfl⟩
    exact ⟨⟨hx.symm, hy.symm⟩, hxw, hyw⟩
  · rintro ⟨⟨hx, hy⟩, hxw, hyw⟩
    exact ⟨q.x, ⟨hx.symm, hxw⟩, q.y, ⟨hy.symm, hyw⟩, rfl⟩

end Position

namespace Grid

def indexInWords? (g : Grid) (p : Position) : Option Nat :=
  if g.Inside p then do
    let above ← word? (p.y * g.width)
    word? (above + p.x)
  else none

def neighborsInWords (g : Grid) (p : Position) : List (Position × Direction) :=
  Direction.all.filterMap fun d =>
    (p.stepInWords? d).bind fun q => if g.Inside q then some (q, d) else none

variable {g : Grid} {p q : Position} {d : Direction}

/-- Places and the positions inside determine each other. -/
def places (hv : g.Valid) : {p // g.Inside p} ≃ Fin g.size where
  toFun p := ⟨p.1.y * g.width + p.1.x, by
    rw [size, hv.size]
    exact index?_lt (index?_eq_some.mpr ⟨p.2, rfl⟩)⟩
  invFun i := ⟨g.position i, inside_position (hv.size ▸ i.2)⟩
  left_inv p := Subtype.ext (position_of_index? (index?_eq_some.mpr ⟨p.2, rfl⟩))
  right_inv i := Fin.ext (Nat.div_add_mod' i.1 g.width)

theorem map_index?_positions (hv : g.Valid) :
    g.positions.map g.index? = (List.range g.size).map some := by
  rw [positions, List.map_map]
  apply List.map_congr_left
  intro i hi
  rw [List.mem_range, size, hv.size] at hi
  exact index?_position hi

theorem nodup_positions (g : Grid) : g.positions.Nodup := by
  refine g.pairwise_positions.imp ?_
  rintro p q hpq rfl
  exact Nat.lt_irrefl _ hpq

theorem count_positions (hv : g.Valid) (p : Position) :
    g.positions.count p = if g.Inside p then 1 else 0 := by
  split
  · next hp =>
    rw [g.nodup_positions.count, if_pos (hv.mem_positions.mpr hp)]
  · next hp => exact List.count_eq_zero.mpr (mt hv.mem_positions.mp hp)

theorem mem_neighbors_iff : (q, d) ∈ g.neighbors p ↔ g.Inside q ∧ p.IsOff d q := by
  rw [mem_neighbors, Position.step_eq_some_iff, and_comm]

theorem sublist_directions (g : Grid) (p : Position) :
    ((g.neighbors p).map Prod.snd).Sublist Direction.all := by
  have hdirection : (fun d => ((p.step d).bind fun q =>
      if g.Inside q then some (q, d) else none).map Prod.snd) =
      Option.guard fun d => (p.step d).any fun q => decide (g.Inside q) := by
    funext d
    cases hq : p.step d with
    | none => simp [Option.guard, hq]
    | some q => by_cases hin : g.Inside q <;> simp [Option.guard, hq, hin]
  rw [neighbors, List.map_filterMap, hdirection, List.filterMap_eq_filter]
  exact List.filter_sublist

theorem nodup_neighbors (g : Grid) (p : Position) : ((g.neighbors p).map Prod.fst).Nodup := by
  have hdirections : ((g.neighbors p).map Prod.snd).Nodup :=
    (sublist_directions g p).nodup (by decide)
  refine (List.Nodup.of_map _ hdirections).map_on ?_
  rintro ⟨q, d⟩ hd ⟨q', d'⟩ hd' hq
  obtain rfl : q = q' := hq
  rw [(mem_neighbors_iff.mp hd).2.unique (mem_neighbors_iff.mp hd').2]

/-- A step that has no word leads out of a grid with fewer columns and rows than there are words. -/
theorem neighborsInWords_eq (hw : g.width < wordLimit) (hh : g.height < wordLimit) (p : Position) :
    g.neighborsInWords p = g.neighbors p := by
  unfold neighborsInWords neighbors
  apply List.filterMap_congr
  intro d _
  apply Option.ext
  rintro ⟨q, d'⟩
  simp only [Option.bind_eq_some_iff, Option.ite_none_right_eq_some, Option.some.injEq,
    Position.stepInWords?_eq_some_iff, Position.step_eq_some_iff]
  constructor
  · rintro ⟨r, ⟨hoff, -, -⟩, hr⟩
    exact ⟨r, hoff, hr⟩
  · rintro ⟨r, hoff, hin, hr⟩
    exact ⟨r, ⟨hoff, Nat.lt_trans hin.1 hw, Nat.lt_trans hin.2 hh⟩, hin, hr⟩

theorem indexInWords?_eq (h : g.width * g.height < wordLimit) (p : Position) :
    g.indexInWords? p = g.index? p := by
  unfold indexInWords? index?
  split
  · next hp =>
    have hplace : p.y * g.width + p.x < wordLimit :=
      Nat.lt_trans (index?_lt (index?_eq_some.mpr ⟨hp, rfl⟩)) h
    have habove : p.y * g.width < wordLimit := by omega
    simp [word?, habove, hplace]
  · rfl

theorem dimensions_lt {limit : Nat} (hw : 0 < g.width) (hh : 0 < g.height)
    (h : g.width * g.height < limit) : g.width < limit ∧ g.height < limit :=
  ⟨Nat.lt_of_le_of_lt (Nat.le_mul_of_pos_right _ hh) h,
    Nat.lt_of_le_of_lt (Nat.le_mul_of_pos_left _ hw) h⟩

/-- In a grid that came about by any calls on a new one, places and the positions inside determine
each other, no place needs more than a word, and the positions are listed once each and by their
places. The neighbours of any position, inside or not, are the positions inside that differ from it by
the offset of a direction; each is listed once, with its direction, in the order of the directions; and
to work out the steps in words makes no difference. Neighbours inside see each other in opposite
directions. -/
theorem geometry_exact {width height n : Nat} {full : Grid} {ops : List Operation}
    (hfull : Grid.new width height n = .ok full) (hg : full.performAll ops = g) :
    g.size = width * height ∧
    (∃ place : {p // g.Inside p} ≃ Fin g.size,
      (∀ p : {p // g.Inside p}, g.index? p = some (place p)) ∧
      ∀ i : Fin g.size, g.position i = place.symm i) ∧
    (∀ p, ¬ g.Inside p → g.index? p = none) ∧
    (∀ p, g.indexInWords? p = g.index? p) ∧
    (g.positions.map g.index? = (List.range g.size).map some ∧
      ∀ p, g.positions.count p = if g.Inside p then 1 else 0) ∧
    (∀ p, (∀ q d, (q, d) ∈ g.neighbors p ↔ g.Inside q ∧ p.IsOff d q) ∧
      ((g.neighbors p).map Prod.fst).Nodup ∧
      ((g.neighbors p).map Prod.snd).Sublist [.up, .left, .right, .down] ∧
      g.neighborsInWords p = g.neighbors p) ∧
    ∀ p q d, g.Inside p → g.Inside q →
      ((q, d) ∈ g.neighbors p ↔ (p, d.opposite) ∈ g.neighbors q) := by
  subst hg
  have hv := valid_performAll (valid_new hfull) ops
  have hshape := (shrinks_performAll full ops).shape.trans (shape_new hfull)
  obtain ⟨hw, hh, -, -⟩ := new_eq_ok hfull
  have hlimit := lt_wordLimit_of_new hfull
  generalize full.performAll ops = g at hv hshape
  obtain ⟨rfl, rfl, -⟩ : g.width = width ∧ g.height = height ∧ g.tileCount = n := by
    simpa [shape] using hshape
  obtain ⟨hwidth, hheight⟩ := dimensions_lt hw hh hlimit
  have hplaces : ∃ place : {p // g.Inside p} ≃ Fin g.size,
      (∀ p : {p // g.Inside p}, g.index? p = some (place p)) ∧
      ∀ i : Fin g.size, g.position i = place.symm i :=
    ⟨places hv, fun p => index?_eq_some.mpr ⟨p.2, rfl⟩, fun i => rfl⟩
  refine ⟨hv.size, hplaces, fun p hp => if_neg hp, indexInWords?_eq hlimit,
    ⟨map_index?_positions hv, count_positions hv⟩, fun p => ?_, fun p q d hp hq => ?_⟩
  · exact ⟨fun q d => mem_neighbors_iff, nodup_neighbors g p, sublist_directions g p,
      neighborsInWords_eq hwidth hheight p⟩
  · constructor
    · exact neighbors_symm hp
    · intro h
      simpa using neighbors_symm hq h

/-- A cell in the last column of a grid of three columns and two rows has no neighbour to the right,
but the position to the right of it has it for a neighbour. From the last position of all words no
step leads back into the first column. -/
theorem geometry_exact_rim : ∃ full, Grid.new 3 2 4 = .ok full ∧ full.performAll [] = full ∧
    full.neighborsInWords ⟨2, 1⟩ = [(⟨2, 0⟩, .up), (⟨1, 1⟩, .left)] ∧
    full.neighborsInWords ⟨3, 1⟩ = [(⟨2, 1⟩, .left)] ∧
    full.neighborsInWords ⟨wordLimit - 1, 0⟩ = [] ∧
    full.neighborsInWords ⟨0, wordLimit - 1⟩ = [] ∧
    full.positions.map full.index? = [some 0, some 1, some 2, some 3, some 4, some 5] ∧
    ((⟨1, 1⟩, .left) ∈ full.neighbors ⟨2, 1⟩ ↔ (⟨2, 1⟩, .right) ∈ full.neighbors ⟨1, 1⟩) := by
  obtain ⟨full, hfull, hcorner, hbeside, hright, hdown⟩ : ∃ full, Grid.new 3 2 4 = .ok full ∧
      full.neighbors ⟨2, 1⟩ = [(⟨2, 0⟩, .up), (⟨1, 1⟩, .left)] ∧
      full.neighbors ⟨3, 1⟩ = [(⟨2, 1⟩, .left)] ∧ full.neighbors ⟨wordLimit - 1, 0⟩ = [] ∧
      full.neighbors ⟨0, wordLimit - 1⟩ = [] :=
    ⟨_, rfl, by decide, by decide, by decide, by decide⟩
  have hg : full.performAll [] = full := rfl
  obtain ⟨hsize, -, -, -, ⟨hplaces, -⟩, hnear, hsymm⟩ := geometry_exact hfull hg
  rw [hsize] at hplaces
  have hshape := shape_new hfull
  have hwords : ∀ p, full.neighborsInWords p = full.neighbors p := fun p => (hnear p).2.2.2
  refine ⟨full, hfull, hg, (hwords _).trans hcorner, (hwords _).trans hbeside,
    (hwords _).trans hright, (hwords _).trans hdown, hplaces, hsymm _ _ _ ?_ ?_⟩
  · exact (inside_iff_of_shape hshape).mpr ⟨by decide, by decide⟩
  · exact (inside_iff_of_shape hshape).mpr ⟨by decide, by decide⟩

end Grid

end EdgeTiling
