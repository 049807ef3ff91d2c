/-! The four directions of the grid, and data attached to the four sides of a cell. -/

namespace EdgeTiling

inductive Direction
  | up
  | down
  | left
  | right
  deriving DecidableEq, Repr

namespace Direction

/-- Every direction, in the order in which neighbours are visited. -/
def all : List Direction := [.up, .left, .right, .down]

def opposite : Direction → Direction
  | .up => .down
  | .down => .up
  | .left => .right
  | .right => .left

/-- The step `(dx, dy)` along a direction; `y` grows downwards. -/
def offset : Direction → Int × Int
  | .up => (0, -1)
  | .down => (0, 1)
  | .left => (-1, 0)
  | .right => (1, 0)

def name : Direction → String
  | .up => "Up"
  | .down => "Down"
  | .left => "Left"
  | .right => "Right"

@[simp] theorem opposite_opposite (d : Direction) : d.opposite.opposite = d := by
  cases d <;> rfl

@[simp] theorem mem_all (d : Direction) : d ∈ all := by
  cases d <;> decide

end Direction

structure Sides (α : Type) where
  up : α
  down : α
  left : α
  right : α
  deriving DecidableEq, Repr

namespace Sides

variable {α β : Type}

def get (s : Sides α) : Direction → α
  | .up => s.up
  | .down => s.down
  | .left => s.left
  | .right => s.right

def uniform (a : α) : Sides α := ⟨a, a, a, a⟩

def ofFn (f : Direction → α) : Sides α := ⟨f .up, f .down, f .left, f .right⟩

def map (f : α → β) (s : Sides α) : Sides β :=
  ⟨f s.up, f s.down, f s.left, f s.right⟩

def toList (s : Sides α) : List α := [s.up, s.down, s.left, s.right]

@[simp] theorem get_map (f : α → β) (s : Sides α) (d : Direction) :
    (s.map f).get d = f (s.get d) := by
  cases d <;> rfl

@[simp] theorem get_ofFn (f : Direction → α) (d : Direction) : (ofFn f).get d = f d := by
  cases d <;> rfl

@[simp] theorem get_uniform (a : α) (d : Direction) : (uniform a).get d = a := by
  cases d <;> rfl

theorem get_mem_toList (s : Sides α) (d : Direction) : s.get d ∈ s.toList := by
  cases d <;> simp [get, toList]

end Sides

end EdgeTiling
