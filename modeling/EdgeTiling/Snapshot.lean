import EdgeTiling.Solver

/-! Views of a solve: the decided tiles as a table, and how far the solve has come. -/

namespace EdgeTiling

/-- The decided tile of each cell, row after row. Width and height are what the table is said to
have; its cells may be fewer or more. -/
structure Snapshot where
  width : Nat
  height : Nat
  cells : List (Option TileId)
  deriving DecidableEq, Repr

/-- The list cut into pieces of `n`; the last may be shorter. -/
def pieces {α : Type} (n : Nat) (l : List α) : List (List α) :=
  if _h : n = 0 ∨ l = [] then [] else l.take n :: pieces n (l.drop n)
termination_by l.length
decreasing_by
  have : l.length ≠ 0 := by simpa using fun hl => _h (.inr hl)
  simp only [List.length_drop]
  omega

namespace Snapshot

def get? (s : Snapshot) (p : Position) : Option TileId :=
  if p.x < s.width ∧ p.y < s.height then (s.cells[p.y * s.width + p.x]?).join else none

/-- The rows from the top; a table without width has none. -/
def rows (s : Snapshot) : List (List (Option TileId)) := pieces s.width s.cells

/-- The ids of a row; an undecided cell is given by its place. -/
def rowIds (x : Nat) : List (Option TileId) → Except Nat (List TileId)
  | [] => .ok []
  | none :: _ => .error x
  | some t :: rest => (rowIds (x + 1) rest).map (t :: ·)

/-- One line for each row, with the ids divided by blanks; or the first cell not decided. -/
def rowsText (y : Nat) : List (List (Option TileId)) → Except Position String
  | [] => .ok ""
  | row :: rest =>
    match rowIds 0 row with
    | .error x => .error ⟨x, y⟩
    | .ok ids => (rowsText (y + 1) rest).map fun later =>
      String.intercalate " " (ids.map toString) ++ "\n" ++ later

def text (s : Snapshot) : Except Position String := rowsText 0 s.rows

end Snapshot

structure Progress where
  resolvedCells : Nat
  totalCells : Nat
  steps : Nat
  deriving DecidableEq, Repr

/-- The decided share of the cells in percent; a grid without cells is done. -/
def Progress.percentage (p : Progress) : Float :=
  if p.totalCells = 0 then 100
  else Float.ofNat p.resolvedCells / Float.ofNat p.totalCells * 100

namespace Solve

variable {σ π : Type}

def progress (s : Solve σ π) : Progress := ⟨s.grid.resolvedCount, s.grid.size, s.steps⟩

def snapshot (s : Solve σ π) : Snapshot :=
  ⟨s.grid.width, s.grid.height, s.grid.positions.map s.grid.chosen?⟩

end Solve

end EdgeTiling
