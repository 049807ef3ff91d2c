import EdgeTiling.Snapshot
import EdgeTiling.Proofs.Cells

/-! The table of a decided grid. Its cells stand row after row, so cutting them into pieces as long
as a row gives the rows back, and the text of the table has a line for each of them. -/

namespace EdgeTiling

section Pieces

variable {α : Type} {n : Nat} {l : List α}

@[simp] theorem pieces_nil (n : Nat) : pieces n ([] : List α) = [] := by
  rw [pieces, dif_pos (.inr rfl)]

theorem pieces_of_ne_nil (hn : 0 < n) (hl : l ≠ []) :
    pieces n l = l.take n :: pieces n (l.drop n) := by
  rw [pieces, dif_neg]
  rintro (hzero | hnil)
  · omega
  · exact hl hnil

theorem pieces_flatten (hn : 0 < n) {rows : List (List α)} (h : ∀ row ∈ rows, row.length = n) :
    pieces n rows.flatten = rows := by
  induction rows with
  | nil => exact pieces_nil n
  | cons row rest ih =>
    obtain ⟨hrow, hrest⟩ := List.forall_mem_cons.mp h
    have hne : row ++ rest.flatten ≠ [] := by
      intro hnil
      simp [(List.append_eq_nil_iff.mp hnil).1] at hrow
      omega
    rw [List.flatten_cons, pieces_of_ne_nil hn hne, List.take_left' hrow, List.drop_left' hrow,
      ih hrest]

end Pieces

theorem Grid.positions_eq {g : Grid} (hv : g.Valid) :
    g.positions = ((List.range g.height).map fun y =>
      (List.range g.width).map fun x => (⟨x, y⟩ : Position)).flatten := by
  have hrows : ∀ k, (List.range (g.width * k)).map g.position = ((List.range k).map fun y =>
      (List.range g.width).map fun x => (⟨x, y⟩ : Position)).flatten := by
    intro k
    induction k with
    | zero => simp
    | succ k ih =>
      rw [Nat.mul_succ, List.range_add, List.map_append, ih, List.range_succ, List.map_append,
        List.flatten_append, List.map_singleton, List.flatten_singleton, List.map_map]
      congr 1
      apply List.map_congr_left
      intro x hx
      have hlt := List.mem_range.mp hx
      simp only [Function.comp_apply, position, Nat.mul_add_mod, Nat.mod_eq_of_lt hlt,
        Nat.mul_add_div (Nat.zero_lt_of_lt hlt), Nat.div_eq_of_lt hlt, Nat.add_zero]
  rw [positions, size, hv.size]
  exact hrows g.height

namespace Snapshot

theorem rowIds_map_some (x : Nat) (row : List TileId) : rowIds x (row.map some) = .ok row := by
  induction row generalizing x with
  | nil => rfl
  | cons t rest ih =>
    rw [List.map_cons, rowIds, ih]
    rfl

def line (row : List TileId) : String := String.intercalate " " (row.map toString) ++ "\n"

theorem rowsText_map_some (y : Nat) (rows : List (List TileId)) :
    rowsText y (rows.map (·.map some)) = .ok (String.join (rows.map line)) := by
  induction rows generalizing y with
  | nil => rfl
  | cons row rest ih =>
    rw [List.map_cons, rowsText, rowIds_map_some, ih]
    simp [Except.map, line]

end Snapshot

/-- The text has a line for each row of a grid, with the tiles that are chosen for its cells. -/
def Grid.Tabulates (g : Grid) (width height : Nat) (text : String) : Prop :=
  ∃ tile : Position → TileId,
    (∀ p, p.x < width → p.y < height → g.chosen? p = some (tile p)) ∧
    text = String.join ((List.range height).map fun y =>
      Snapshot.line ((List.range width).map fun x => tile ⟨x, y⟩))

section Tables

variable {σ π : Type} {s : Solve σ π}

theorem Solve.rows_snapshot (hv : s.grid.Valid) (hw : 0 < s.grid.width) :
    s.snapshot.rows = (List.range s.grid.height).map fun y =>
      (List.range s.grid.width).map fun x => s.grid.chosen? ⟨x, y⟩ := by
  have hcells : s.snapshot.cells = ((List.range s.grid.height).map fun y =>
      (List.range s.grid.width).map fun x => s.grid.chosen? ⟨x, y⟩).flatten := by
    rw [snapshot, Grid.positions_eq hv, List.map_flatten, List.map_map]
    simp only [Function.comp_def, List.map_map]
  rw [Snapshot.rows, hcells]
  apply pieces_flatten hw
  simp only [List.forall_mem_map, List.length_map, List.length_range, implies_true]

theorem Solve.text_snapshot {tile : Position → TileId} (hv : s.grid.Valid)
    (hw : 0 < s.grid.width) (h : ∀ p, s.grid.Inside p → s.grid.chosen? p = some (tile p)) :
    s.snapshot.text = .ok (String.join ((List.range s.grid.height).map fun y =>
      Snapshot.line ((List.range s.grid.width).map fun x => tile ⟨x, y⟩))) := by
  have hrows : s.snapshot.rows = ((List.range s.grid.height).map fun y =>
      (List.range s.grid.width).map fun x => tile ⟨x, y⟩).map (·.map some) := by
    rw [rows_snapshot hv hw, List.map_map]
    apply List.map_congr_left
    intro y hy
    rw [Function.comp_apply, List.map_map]
    apply List.map_congr_left
    intro x hx
    exact h ⟨x, y⟩ ⟨List.mem_range.mp hx, List.mem_range.mp hy⟩
  rw [Snapshot.text, hrows, Snapshot.rowsText_map_some, List.map_map]
  rfl

end Tables

end EdgeTiling
