import EdgeTiling.Proofs.Course
import EdgeTiling.Proofs.Tables

/-! The views of a table of decided tiles. A cell can be addressed by its position, by its row and its
place in the row, and by its place in the list of all cells. Whatever size a table claims to have and
however many cells it has, these lead to the same tile. The table of a solve has the size of the grid
and the tiles that are chosen there. -/

namespace EdgeTiling

section Pieces

variable {α : Type} {n : Nat}

theorem flatten_pieces (hn : 0 < n) (l : List α) : (pieces n l).flatten = l := by
  fun_induction pieces n l with
  | case1 l h =>
    obtain rfl : l = [] := h.resolve_left (by omega)
    rfl
  | case2 l h ih => rw [List.flatten_cons, ih, List.take_append_drop]

theorem getElem?_pieces {x : Nat} (hx : x < n) (y : Nat) (l : List α) :
    ((pieces n l)[y]?.bind fun piece => piece[x]?) = l[y * n + x]? := by
  induction y generalizing l with
  | zero =>
    by_cases hl : l = []
    · simp [hl]
    · rw [pieces_of_ne_nil (by omega) hl, List.getElem?_cons_zero, Option.bind_some,
        List.getElem?_take_of_lt hx, Nat.zero_mul, Nat.zero_add]
  | succ y ih =>
    by_cases hl : l = []
    · simp [hl]
    · have hplace : n + (y * n + x) = (y + 1) * n + x := by
        rw [Nat.succ_mul]
        omega
      rw [pieces_of_ne_nil (by omega) hl, List.getElem?_cons_succ, ih, List.getElem?_drop, hplace]

end Pieces

def word? (n : Nat) : Option Nat := if n < wordLimit then some n else none

namespace Snapshot

/-- The tile at a position, with its place worked out in words: where a word does not suffice for a
product or a sum, there is no place and no tile. -/
def getInWords? (s : Snapshot) (p : Position) : Option TileId :=
  if s.width ≤ p.x ∨ s.height ≤ p.y then none
  else do
    let above ← word? (p.y * s.width)
    let place ← word? (above + p.x)
    (s.cells[place]?).join

variable {s : Snapshot} {p : Position}

theorem get?_eq_join (hx : p.x < s.width) (hy : p.y < s.height) :
    s.get? p = (s.rows[p.y]?.bind fun row => row[p.x]?).join := by
  rw [get?, if_pos ⟨hx, hy⟩, rows, getElem?_pieces hx]

/-- No list has so many cells that a place among them exceeds a word. -/
theorem getInWords?_eq_get? (h : s.cells.length ≤ wordLimit) (p : Position) :
    s.getInWords? p = s.get? p := by
  unfold getInWords? get?
  by_cases hin : p.x < s.width ∧ p.y < s.height
  · rw [if_neg (by omega), if_pos hin]
    by_cases hplace : p.y * s.width + p.x < wordLimit
    · have habove : p.y * s.width < wordLimit := by omega
      simp [word?, habove, hplace]
    · have hnone : s.cells[p.y * s.width + p.x]? = none := List.getElem?_eq_none (by omega)
      rw [hnone]
      by_cases habove : p.y * s.width < wordLimit
      · simp [word?, habove, hplace]
      · simp [word?, habove]
  · rw [if_pos (by omega), if_neg hin]

end Snapshot

theorem Solve.get?_snapshot {σ π : Type} {s : Solve σ π} (hv : s.grid.Valid)
    (hw : 0 < s.grid.width) (p : Position) : s.snapshot.get? p = s.grid.chosen? p := by
  by_cases hp : s.grid.Inside p
  · rw [Snapshot.get?_eq_join hp.1 hp.2, rows_snapshot hv hw]
    simp [hp.1, hp.2]
  · have hnone : s.snapshot.get? p = none := if_neg hp
    rw [hnone, Grid.chosen?, Grid.cell?, Grid.index?, if_neg hp]
    rfl

/-- In a table with a width, of whatever height and with however many cells, the tile at a position
inside is the one in its row, there is none outside, and the rows together are the cells. To work out
a place in words makes no difference. The table of a solve has a row for each row of the grid and a
cell for each of its cells, and shows at every position what is chosen there. -/
theorem views_agree :
    (∀ s : Snapshot, 0 < s.width →
      (∀ p t, p.x < s.width → p.y < s.height →
        (s.get? p = some t ↔ ∃ row, s.rows[p.y]? = some row ∧ row[p.x]? = some (some t))) ∧
      (∀ p, ¬ (p.x < s.width ∧ p.y < s.height) → s.get? p = none) ∧
      (s.cells.length ≤ wordLimit → ∀ p, s.getInWords? p = s.get? p) ∧
      s.rows.flatten = s.cells) ∧
    ∀ (σ π : Type) (e : Engine σ π) (width height : Nat) (given : List Given) (now : Solve σ π),
      e.Reaches width height given now →
        (now.snapshot.rows.length = height ∧ ∀ row ∈ now.snapshot.rows, row.length = width) ∧
        ∀ p, now.snapshot.get? p = now.grid.chosen? p := by
  refine ⟨fun s hw => ⟨fun p t hx hy => ?_, fun p hp => if_neg hp, Snapshot.getInWords?_eq_get?,
    flatten_pieces hw s.cells⟩, fun σ π e width height given now h => ?_⟩
  · rw [Snapshot.get?_eq_join hx hy, Option.join_eq_some_iff, Option.bind_eq_some_iff]
  · have hwidth : now.grid.width = width := congrArg (·.1) h.shape_eq
    have hheight : now.grid.height = height := congrArg (·.2.1) h.shape_eq
    have hw : 0 < now.grid.width := hwidth ▸ h.width_pos
    refine ⟨?_, now.get?_snapshot h.valid hw⟩
    rw [Solve.rows_snapshot h.valid hw, hwidth, hheight]
    simp

/-- A table said to be so wide that its third row would begin at the first place beyond all words. -/
def Snapshot.wide : Snapshot := ⟨wordLimit / 2, 4, [some 7, none]⟩

/-- Cut down to a word, that place would be the one of the first cell, which has a tile. -/
theorem views_agree_wide : 0 < Snapshot.wide.width ∧ Snapshot.wide.cells.length ≤ wordLimit ∧
    2 * Snapshot.wide.width % wordLimit = 0 ∧ Snapshot.wide.getInWords? ⟨0, 0⟩ = some 7 ∧
    Snapshot.wide.getInWords? ⟨0, 2⟩ = none ∧
    ¬ ∃ row, Snapshot.wide.rows[2]? = some row ∧ row[0]? = some (some 7) := by
  have hw : 0 < Snapshot.wide.width := by decide
  have hlen : Snapshot.wide.cells.length ≤ wordLimit := by decide
  have hnone : Snapshot.wide.get? ⟨0, 2⟩ = none := by decide
  obtain ⟨hrow, -, hwords, -⟩ := views_agree.1 .wide hw
  refine ⟨hw, hlen, by decide, (hwords hlen ⟨0, 0⟩).trans (by decide),
    (hwords hlen ⟨0, 2⟩).trans hnone, fun h => ?_⟩
  have htile := (hrow ⟨0, 2⟩ 7 (by decide) (by decide)).mpr h
  rw [hnone] at htile
  contradiction

end EdgeTiling
