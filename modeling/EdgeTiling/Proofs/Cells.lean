import EdgeTiling.Grid.Counts
import EdgeTiling.Proofs.Compatibility
import EdgeTiling.Proofs.Geometry

/-! The state of a grid cell by cell: what a restriction, a decision and a narrowing leave of each
cell, and the invariant they keep. -/

namespace EdgeTiling

namespace Cell

/-- A cell over `n` tiles has a candidate, and no other than its tile once it is decided. -/
structure Valid (n : Nat) (c : Cell) : Prop where
  width : c.domain.width = n
  inhabited : ∃ t, c.domain.has t = true
  decided : ∀ t, c.chosen = some t → ∀ u, c.domain.has u = true ↔ u = t

theorem Valid.eq {n : Nat} {c c' : Cell} (h : c.Valid n) (h' : c'.Valid n)
    (hhas : ∀ t, c.domain.has t = true ↔ c'.domain.has t = true) (hchosen : c.chosen = c'.chosen) :
    c = c' :=
  Cell.ext (Domain.eq_of_has (h.width.trans h'.width.symm) hhas) hchosen

/-- What a restriction leaves of a cell: an open one loses candidates, a decided one nothing. -/
def keep (allowed : Domain) (c : Cell) : Cell :=
  if c.isOpen then { c with domain := c.domain.inter allowed } else c

@[simp] theorem chosen_keep (allowed : Domain) (c : Cell) : (c.keep allowed).chosen = c.chosen := by
  unfold keep
  split <;> rfl

theorem has_keep {allowed : Domain} {c : Cell} (ho : c.isOpen = true) {t : TileId} :
    (c.keep allowed).domain.has t = true ↔ c.domain.has t = true ∧ allowed.has t = true := by
  simp [keep, ho]

theorem has_keep_of_has {allowed : Domain} {c : Cell} {t : TileId} (h : c.domain.has t = true)
    (ha : allowed.has t = true) : (c.keep allowed).domain.has t = true := by
  cases ho : c.isOpen with
  | true => exact (has_keep ho).mpr ⟨h, ha⟩
  | false => simpa [keep, ho] using h

theorem has_of_has_keep {allowed : Domain} {c : Cell} {t : TileId}
    (h : (c.keep allowed).domain.has t = true) : c.domain.has t = true := by
  cases ho : c.isOpen with
  | true => exact ((has_keep ho).mp h).1
  | false => simpa [keep, ho] using h

end Cell

namespace Grid

structure Valid (g : Grid) : Prop where
  size : g.cells.size = g.width * g.height
  cells : ∀ c ∈ g.cells, c.Valid g.tileCount

def shape (g : Grid) : Nat × Nat × Nat := (g.width, g.height, g.tileCount)

def Admits (g : Grid) (p : Position) (t : TileId) : Prop :=
  ∃ D, g.domain? p = some D ∧ D.has t = true

instance (g : Grid) (p : Position) (t : TileId) : Decidable (g.Admits p t) :=
  decidable_of_iff ((g.domain? p).any (·.has t) = true) (by
    unfold Admits
    cases g.domain? p <;> simp)

theorem shape_eq_iff {g g' : Grid} : g'.shape = g.shape ↔
    g'.width = g.width ∧ g'.height = g.height ∧ g'.tileCount = g.tileCount := by
  simp [shape]

theorem inside_of_shape {g g' : Grid} (h : g'.shape = g.shape) (p : Position) :
    g'.Inside p ↔ g.Inside p := by
  obtain ⟨hw, hh, -⟩ := shape_eq_iff.mp h
  simp [Inside, hw, hh]

theorem inside_iff_of_shape {g : Grid} {width height n : Nat} (h : g.shape = (width, height, n))
    {p : Position} : g.Inside p ↔ p.x < width ∧ p.y < height := by
  obtain ⟨rfl, rfl, -⟩ : g.width = width ∧ g.height = height ∧ _ := by simpa [shape] using h
  rfl

theorem index?_of_shape {g g' : Grid} (h : g'.shape = g.shape) (p : Position) :
    g'.index? p = g.index? p := by
  simp only [index?, inside_of_shape h, (shape_eq_iff.mp h).1]

theorem neighbors_of_shape {g g' : Grid} (h : g'.shape = g.shape) (p : Position) :
    g'.neighbors p = g.neighbors p := by
  simp only [neighbors, inside_of_shape h]

theorem admits_iff {g : Grid} {p : Position} {t : TileId} :
    g.Admits p t ↔ ∃ c, g.cell? p = some c ∧ c.domain.has t = true := by
  simp [Admits, domain?]

theorem admits_of_cell? {g : Grid} {p : Position} {c : Cell} {t : TileId} (h : g.cell? p = some c) :
    g.Admits p t ↔ c.domain.has t = true := by
  simp [admits_iff, h]

theorem chosen?_of_cell? {g : Grid} {p : Position} {c : Cell} (h : g.cell? p = some c) :
    g.chosen? p = c.chosen := by
  simp [chosen?, h]

theorem isResolved_of_cell? {g : Grid} {p : Position} {c : Cell} (h : g.cell? p = some c) :
    g.isResolved p = false ↔ c.isOpen = true := by
  simp [isResolved, chosen?_of_cell? h, Cell.isOpen]

theorem inside_of_cell? {g : Grid} {p : Position} {c : Cell} (h : g.cell? p = some c) :
    g.Inside p := by
  obtain ⟨i, hi, -⟩ := Option.bind_eq_some_iff.mp h
  exact (index?_eq_some.mp hi).1

theorem inside_of_admits {g : Grid} {p : Position} {t : TileId} (h : g.Admits p t) :
    g.Inside p := by
  obtain ⟨c, hc, -⟩ := admits_iff.mp h
  exact inside_of_cell? hc

namespace Valid

variable {g : Grid} {p : Position}

theorem cell (hv : g.Valid) {c : Cell} (h : g.cell? p = some c) : c.Valid g.tileCount := by
  obtain ⟨i, -, hc⟩ := Option.bind_eq_some_iff.mp h
  exact hv.cells c (Array.mem_of_getElem? hc)

theorem cell?_position (hv : g.Valid) {i : Nat} {c : Cell} (h : g.cells[i]? = some c) :
    g.cell? (g.position i) = some c := by
  have hlt : i < g.width * g.height := by
    rw [← hv.size]
    exact (Array.getElem?_eq_some_iff.mp h).1
  simp [cell?, index?_position hlt, h]

theorem exists_cell (hv : g.Valid) (hp : g.Inside p) : ∃ c, g.cell? p = some c := by
  have hi : g.index? p = some (p.y * g.width + p.x) := index?_eq_some.mpr ⟨hp, rfl⟩
  have hlt : p.y * g.width + p.x < g.cells.size := by
    rw [hv.size]
    exact index?_lt hi
  exact ⟨g.cells[p.y * g.width + p.x], by simp [cell?, hi, Array.getElem?_eq_getElem hlt]⟩

theorem exists_admits (hv : g.Valid) (hp : g.Inside p) : ∃ t, g.Admits p t := by
  obtain ⟨c, hc⟩ := hv.exists_cell hp
  obtain ⟨t, ht⟩ := (hv.cell hc).inhabited
  exact ⟨t, (admits_of_cell? hc).mpr ht⟩

theorem admits_iff_of_chosen? (hv : g.Valid) {t : TileId} (h : g.chosen? p = some t) (u : TileId) :
    g.Admits p u ↔ u = t := by
  obtain ⟨c, hc, ht⟩ := Option.bind_eq_some_iff.mp h
  rw [admits_of_cell? hc]
  exact (hv.cell hc).decided t ht u

theorem lt_tileCount (hv : g.Valid) {t : TileId} (h : g.Admits p t) : t < g.tileCount := by
  obtain ⟨c, hc, ht⟩ := admits_iff.mp h
  rw [← (hv.cell hc).width]
  exact Domain.lt_width_of_has ht

theorem mem_positions (hv : g.Valid) : p ∈ g.positions ↔ g.Inside p := by
  simp only [positions, List.mem_map, List.mem_range, Grid.size, hv.size]
  constructor
  · rintro ⟨i, hi, rfl⟩
    exact inside_position hi
  · intro hp
    have hi := index?_eq_some.mpr ⟨hp, rfl⟩
    exact ⟨_, index?_lt hi, position_of_index? hi⟩

theorem allResolved_iff (hv : g.Valid) :
    g.allResolved = true ↔ ∀ p, g.Inside p → g.isResolved p = true := by
  simp only [allResolved, Array.all_eq_true_iff_forall_mem]
  constructor
  · intro h p hp
    obtain ⟨c, hc⟩ := hv.exists_cell hp
    obtain ⟨i, -, hi⟩ := Option.bind_eq_some_iff.mp hc
    rw [isResolved, chosen?_of_cell? hc]
    exact h c (Array.mem_of_getElem? hi)
  · intro h c hc
    obtain ⟨i, hi⟩ := Array.mem_iff_getElem?.mp hc
    have hcell := hv.cell?_position hi
    have hres := h (g.position i) (inside_of_cell? hcell)
    rwa [isResolved, chosen?_of_cell? hcell] at hres

end Valid

end Grid

end EdgeTiling
