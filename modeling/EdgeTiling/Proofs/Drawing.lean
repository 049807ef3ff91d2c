import EdgeTiling.Solver
import EdgeTiling.Proofs.Acceptance
import EdgeTiling.Proofs.Cells
import EdgeTiling.Proofs.SinglePrecision

/-! Drawing a tile. The weights of a tile set are positive, so the candidates of a cell have a positive
total, and a draw gives one of them unless that total is beyond the largest number. -/

namespace EdgeTiling

open EdgeTiling.Random (Stream Weighted)

namespace Random.Weighted

def total : List Float32 → Float32
  | [] => 0
  | w :: rest => rest.foldl (· + ·) w

theorem foldl_add_pos {sum : Float32} {ws : List Float32} (hs : 0 < sum)
    (hws : ∀ w ∈ ws, 0 < w) : 0 < ws.foldl (· + ·) sum := by
  induction ws generalizing sum with
  | nil => exact hs
  | cons w rest ih =>
    obtain ⟨hw, hrest⟩ := List.forall_mem_cons.mp hws
    exact ih (SinglePrecision.add_pos hs hw) hrest

theorem accumulate_of_pos (sum : Float32) {ws : List Float32} (hws : ∀ w ∈ ws, 0 < w) :
    ∃ sums, accumulate sum ws = .ok (sums, ws.foldl (· + ·) sum) := by
  induction ws generalizing sum with
  | nil => exact ⟨[], rfl⟩
  | cons w rest ih =>
    obtain ⟨hw, hrest⟩ := List.forall_mem_cons.mp hws
    obtain ⟨sums, hacc⟩ := ih (sum + w) hrest
    refine ⟨sum :: sums, ?_⟩
    rw [accumulate, if_pos (SinglePrecision.le_of_pos hw), hacc, List.foldl_cons]

theorem ofWeights_of_pos {ws : List Float32} (hne : ws ≠ []) (hws : ∀ w ∈ ws, 0 < w) :
    ((∃ x, ofWeights ws = .ok x) ∧ (total ws).isFinite = true) ∨
      (ofWeights ws = .error .infiniteTotal ∧ (total ws).isFinite = false) := by
  cases ws with
  | nil => contradiction
  | cons w rest =>
    obtain ⟨hw, hrest⟩ := List.forall_mem_cons.mp hws
    obtain ⟨sums, hacc⟩ := accumulate_of_pos w hrest
    have hpos := foldl_add_pos hw hrest
    simp only [ofWeights, ge_iff_le, SinglePrecision.le_of_pos hw, if_true, hacc, total,
      SinglePrecision.beq_zero_of_pos hpos, SinglePrecision.isFinite_of_pos hpos,
      Bool.false_eq_true, if_false]
    split
    · next hinf => exact .inr ⟨rfl, by simp [hinf]⟩
    · next hfin => exact .inl ⟨⟨_, rfl⟩, by simp [hfin]⟩

end Random.Weighted

namespace TileSet

theorem weight?_pos {ts : TileSet} {t : TileId} (ht : t < ts.size) :
    ∃ w, ts.weight? t = some w ∧ 0 < w := by
  obtain ⟨tile, htile⟩ := lt_size_iff.mp ht
  refine ⟨tile.weight, by simp [weight?, htile], ?_⟩
  have hmem : tile ∈ ts.tiles.toList := Array.mem_toList_iff.mpr (Array.mem_of_getElem? htile)
  have hgood : ¬ tile.BadWeight := ((firstFault_eq_none_iff.mp ts.faultless).1 tile hmem).1
  obtain ⟨hnan, hle⟩ := not_or.mp hgood
  exact SinglePrecision.pos_of_not_le (by simpa using hnan) hle

end TileSet

namespace Engine

variable {ts : TileSet} {g : Grid} {p : Position}

theorem weightsOf_eq_ok {candidates : List TileId} (h : ∀ t ∈ candidates, t < ts.size) :
    weightsOf ts p candidates = .ok (candidates.filterMap ts.weight?) ∧
      (candidates.filterMap ts.weight?).length = candidates.length ∧
      ∀ w ∈ candidates.filterMap ts.weight?, 0 < w := by
  induction candidates with
  | nil => exact ⟨rfl, rfl, by simp⟩
  | cons t rest ih =>
    obtain ⟨ht, hrest⟩ := List.forall_mem_cons.mp h
    obtain ⟨w, hw, hpos⟩ := TileSet.weight?_pos ht
    obtain ⟨hws, hlen, hall⟩ := ih hrest
    rw [List.filterMap_cons_some hw]
    exact ⟨by simp [weightsOf, hw, hws], by simp [hlen], List.forall_mem_cons.mpr ⟨hpos, hall⟩⟩

def weightsAt (ts : TileSet) (g : Grid) (p : Position) : List Float32 :=
  (((g.domain? p).map (·.tiles)).getD []).filterMap ts.weight?

/-- A draw at a cell of the grid gives a candidate, or the weights add up to infinity. -/
theorem chooseTile_inside (hv : g.Valid) (hn : g.tileCount = ts.size) (hp : g.Inside p)
    (s : Stream) : (∃ t s', chooseTile ts g p s = (.ok t, s') ∧ g.Admits p t ∧
        (Weighted.total (weightsAt ts g p)).isFinite = true) ∨
      (chooseTile ts g p s = (.error (.weights .infiniteTotal), s) ∧
        (Weighted.total (weightsAt ts g p)).isFinite = false) := by
  obtain ⟨c, hc⟩ := hv.exists_cell hp
  have hcand : ((g.domain? p).map (·.tiles)).getD [] = c.domain.tiles := by
    simp [Grid.domain?, hc]
  have hknown : ∀ t ∈ c.domain.tiles, t < ts.size := by
    intro t ht
    rw [← hn]
    exact hv.lt_tileCount ((Grid.admits_of_cell? hc).mpr (Domain.mem_tiles.mp ht))
  obtain ⟨hws, hlen, hpos⟩ := weightsOf_eq_ok (p := p) hknown
  have hne : c.domain.tiles.filterMap ts.weight? ≠ [] := by
    obtain ⟨t, ht⟩ := (hv.cell hc).inhabited
    have hmem := List.length_pos_of_mem (Domain.mem_tiles.mpr ht)
    exact List.length_pos_iff.mp (by omega)
  simp only [chooseTile, weightsAt, hcand, hws]
  rcases Weighted.ofWeights_of_pos hne hpos with ⟨⟨x, hx⟩, hfin⟩ | ⟨hx, hinf⟩
  · have hlt : (x.sample s).1 < c.domain.tiles.length := hlen ▸ Weighted.sample_lt hx s
    have hget := List.getElem?_eq_getElem hlt
    refine .inl ⟨c.domain.tiles[(x.sample s).1], (x.sample s).2, by simp [hx, hget], ?_, hfin⟩
    exact (Grid.admits_of_cell? hc).mpr (Domain.mem_tiles.mp (List.getElem_mem hlt))
  · exact .inr ⟨by simp [hx], hinf⟩

theorem admits_of_chooseTile (hv : g.Valid) (hn : g.tileCount = ts.size) (hp : g.Inside p)
    {s s' : Stream} {t : TileId} (h : chooseTile ts g p s = (.ok t, s')) : g.Admits p t := by
  rcases chooseTile_inside hv hn hp s with ⟨u, s'', hok, hadm, -⟩ | ⟨hfail, -⟩
  · cases hok.symm.trans h
    exact hadm
  · cases hfail.symm.trans h

theorem infiniteTotal_of_chooseTile (hv : g.Valid) (hn : g.tileCount = ts.size) (hp : g.Inside p)
    {s s' : Stream} {cause : SolverError} (h : chooseTile ts g p s = (.error cause, s')) :
    cause = .weights .infiniteTotal ∧ (Weighted.total (weightsAt ts g p)).isFinite = false := by
  rcases chooseTile_inside hv hn hp s with ⟨t, s'', hok, -⟩ | ⟨hfail, hinf⟩
  · cases hok.symm.trans h
  · cases hfail.symm.trans h
    exact ⟨rfl, hinf⟩

end Engine

end EdgeTiling
