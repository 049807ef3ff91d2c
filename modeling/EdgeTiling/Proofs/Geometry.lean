import EdgeTiling.Grid

/-! Where the cells of a grid lie: places and positions determine each other, and a neighbour sees
the cell it was reached from in the opposite direction. -/

namespace EdgeTiling

namespace Position

theorem step_opposite {p q : Position} {d : Direction} (h : p.step d = some q) :
    q.step d.opposite = some p := by
  obtain ⟨x, y⟩ := p
  cases d with
  | up =>
    simp only [step, Option.ite_none_left_eq_some, Option.some.injEq] at h
    obtain ⟨hy, rfl⟩ := h
    simp only [Direction.opposite, step, Option.some.injEq, mk.injEq, true_and]
    omega
  | down =>
    cases h
    simp [Direction.opposite, step]
  | left =>
    simp only [step, Option.ite_none_left_eq_some, Option.some.injEq] at h
    obtain ⟨hx, rfl⟩ := h
    simp only [Direction.opposite, step, Option.some.injEq, mk.injEq, and_true]
    omega
  | right =>
    cases h
    simp [Direction.opposite, step]

theorem ne_of_step {p q : Position} {d : Direction} (h : p.step d = some q) : q ≠ p := by
  rintro rfl
  obtain ⟨x, y⟩ := q
  cases d <;> simp [step] at h
  · omega
  · omega

end Position

namespace Grid

theorem mem_neighbors {g : Grid} {p q : Position} {d : Direction} :
    (q, d) ∈ g.neighbors p ↔ p.step d = some q ∧ g.Inside q := by
  simp only [neighbors, List.mem_filterMap, Option.bind_eq_some_iff,
    Option.ite_none_right_eq_some, Option.some.injEq, Prod.mk.injEq]
  constructor
  · rintro ⟨d', -, q', hs, hi, rfl, rfl⟩
    exact ⟨hs, hi⟩
  · rintro ⟨hs, hi⟩
    exact ⟨d, d.mem_all, q, hs, hi, rfl, rfl⟩

theorem neighbors_symm {g : Grid} {p q : Position} {d : Direction} (hp : g.Inside p)
    (h : (q, d) ∈ g.neighbors p) : (p, d.opposite) ∈ g.neighbors q :=
  mem_neighbors.mpr ⟨Position.step_opposite (mem_neighbors.mp h).1, hp⟩

theorem inside_of_mem_neighbors {g : Grid} {p q : Position} {d : Direction}
    (h : (q, d) ∈ g.neighbors p) : g.Inside q :=
  (mem_neighbors.mp h).2

theorem ne_of_mem_neighbors {g : Grid} {p q : Position} {d : Direction}
    (h : (q, d) ∈ g.neighbors p) : q ≠ p :=
  Position.ne_of_step (mem_neighbors.mp h).1

theorem index?_eq_some {g : Grid} {p : Position} {i : Nat} :
    g.index? p = some i ↔ g.Inside p ∧ p.y * g.width + p.x = i := by
  simp [index?, Option.ite_none_right_eq_some]

theorem position_of_index? {g : Grid} {p : Position} {i : Nat} (h : g.index? p = some i) :
    g.position i = p := by
  obtain ⟨⟨hx, -⟩, rfl⟩ := index?_eq_some.mp h
  have hw : 0 < g.width := by omega
  apply Position.ext
  · simp [position, Nat.mod_eq_of_lt hx]
  · simp [position, Nat.mul_comm p.y, Nat.mul_add_div hw, Nat.div_eq_of_lt hx]

theorem eq_of_index? {g : Grid} {p q : Position} {i : Nat} (hp : g.index? p = some i)
    (hq : g.index? q = some i) : p = q := by
  rw [← position_of_index? hp, ← position_of_index? hq]

theorem index?_lt {g : Grid} {p : Position} {i : Nat} (h : g.index? p = some i) :
    i < g.width * g.height := by
  obtain ⟨⟨hx, hy⟩, rfl⟩ := index?_eq_some.mp h
  calc p.y * g.width + p.x < p.y * g.width + g.width := by omega
    _ = (p.y + 1) * g.width := by rw [Nat.succ_mul]
    _ ≤ g.height * g.width := Nat.mul_le_mul_right _ hy
    _ = g.width * g.height := Nat.mul_comm _ _

theorem inside_position {g : Grid} {i : Nat} (h : i < g.width * g.height) :
    g.Inside (g.position i) := by
  have hw : 0 < g.width := Nat.pos_of_ne_zero fun h0 => by simp [h0] at h
  exact ⟨Nat.mod_lt _ hw, Nat.div_lt_of_lt_mul h⟩

theorem index?_position {g : Grid} {i : Nat} (h : i < g.width * g.height) :
    g.index? (g.position i) = some i :=
  index?_eq_some.mpr ⟨inside_position h, Nat.div_add_mod' i g.width⟩

end Grid

end EdgeTiling
