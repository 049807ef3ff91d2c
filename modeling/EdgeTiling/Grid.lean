import EdgeTiling.Number
import EdgeTiling.Tile

/-! The working state of a solve: one candidate set for each cell of a rectangle. -/

namespace EdgeTiling

/-- A cell's coordinates; `y` grows downwards. -/
@[ext] structure Position where
  x : Nat
  y : Nat
  deriving DecidableEq, Repr

namespace Position

def text (p : Position) : String := s!"({p.x}, {p.y})"

/-- The position one step away, if no coordinate falls below zero. -/
def step (p : Position) : Direction → Option Position
  | .up => if p.y = 0 then none else some ⟨p.x, p.y - 1⟩
  | .down => some ⟨p.x, p.y + 1⟩
  | .left => if p.x = 0 then none else some ⟨p.x - 1, p.y⟩
  | .right => some ⟨p.x + 1, p.y⟩

end Position

inductive GridError
  | invalidDimensions (width height : Nat)
  | noTiles
  | outOfBounds (position : Position) (width height : Nat)
  | maskLength (expected found : Nat)
  | emptyDomain (position : Position)
  | alreadyResolved (position : Position)
  | notInDomain (position : Position) (tile : TileId)
  deriving DecidableEq, Repr

def GridError.message : GridError → String
  | .invalidDimensions width height => s!"Grid dimensions must be non-zero, got {width}x{height}"
  | .noTiles => "Grid needs at least one tile"
  | .outOfBounds position width height =>
    s!"Position {position.text} is outside the {width}x{height} grid"
  | .maskLength expected found => s!"Domain mask has {found} entries, expected {expected}"
  | .emptyDomain position => s!"Contradiction: domain of cell {position.text} became empty"
  | .alreadyResolved position => s!"Cell {position.text} is already resolved"
  | .notInDomain position tile =>
    s!"Tile {tile.text} is not in the domain of cell {position.text}"

@[ext] structure Cell where
  domain : Domain
  chosen : Option TileId
  deriving DecidableEq, Repr

def Cell.isOpen (c : Cell) : Bool := c.chosen.isNone

@[ext] structure Grid where
  width : Nat
  height : Nat
  /-- How many tiles every domain ranges over. -/
  tileCount : Nat
  cells : Array Cell
  deriving DecidableEq, Repr

namespace Grid

def new (width height tileCount : Nat) : Except GridError Grid :=
  if width = 0 ∨ height = 0 then .error (.invalidDimensions width height)
  else if tileCount = 0 then .error .noTiles
  else if wordLimit ≤ width * height then .error (.invalidDimensions width height)
  else .ok ⟨width, height, tileCount,
    Array.replicate (width * height) ⟨.full tileCount, none⟩⟩

/-- The most cells that memory can be asked for: each takes 24 bytes of the addresses below
`2 ^ 63`. -/
def cellLimit : Nat := (twoTo 63 - 1) / 24

/-- Every domain has fewer tiles than this. -/
def tileLimit : Nat := twoTo 61

/-- Whether a grid with cells that can be counted has more of them, or of tiles, than memory can be
asked for. -/
def exceedsMemory (width height tileCount : Nat) : Bool :=
  width ≠ 0 && height ≠ 0 && tileCount ≠ 0 && width * height < wordLimit &&
    (cellLimit < width * height || tileLimit ≤ tileCount)

def size (g : Grid) : Nat := g.cells.size

def Inside (g : Grid) (p : Position) : Prop := p.x < g.width ∧ p.y < g.height

instance (g : Grid) (p : Position) : Decidable (g.Inside p) := inferInstanceAs (Decidable (_ ∧ _))

def index? (g : Grid) (p : Position) : Option Nat :=
  if g.Inside p then some (p.y * g.width + p.x) else none

def position (g : Grid) (index : Nat) : Position := ⟨index % g.width, index / g.width⟩

def positions (g : Grid) : List Position := (List.range g.size).map g.position

/-- The positions one step away that lie inside the grid, with the direction of that step. -/
def neighbors (g : Grid) (p : Position) : List (Position × Direction) :=
  Direction.all.filterMap fun d =>
    (p.step d).bind fun q => if g.Inside q then some (q, d) else none

def cell? (g : Grid) (p : Position) : Option Cell := (g.index? p).bind fun i => g.cells[i]?

def domain? (g : Grid) (p : Position) : Option Domain := (g.cell? p).map (·.domain)

/-- The candidates left at a position, none outside the grid. -/
def domainSize (g : Grid) (p : Position) : Nat := ((g.domain? p).map (·.size)).getD 0

def chosen? (g : Grid) (p : Position) : Option TileId := (g.cell? p).bind (·.chosen)

def isResolved (g : Grid) (p : Position) : Bool := (g.chosen? p).isSome

def allResolved (g : Grid) : Bool := g.cells.all (·.chosen.isSome)

def resolvedCount (g : Grid) : Nat := g.cells.countP (·.chosen.isSome)

def openCount (g : Grid) : Nat := g.cells.countP Cell.isOpen

def candidates (g : Grid) : Nat := g.cells.toList.foldr (fun c n => c.domain.size + n) 0

def locate (g : Grid) (p : Position) : Except GridError (Nat × Cell) :=
  match g.index? p with
  | none => .error (.outOfBounds p g.width g.height)
  | some i =>
    match g.cells[i]? with
    | none => .error (.outOfBounds p g.width g.height)
    | some c => .ok (i, c)

/-- Keeps at `p` only the candidates in `allowed`, and tells whether one was dropped. A decided
cell stays as it is. To drop every candidate is an error. -/
def restrict (g : Grid) (p : Position) (allowed : Domain) : Except GridError (Grid × Bool) :=
  match g.locate p with
  | .error e => .error e
  | .ok (i, c) =>
    if allowed.width ≠ g.tileCount then .error (.maskLength g.tileCount allowed.width)
    else if c.chosen.isSome then .ok (g, false)
    else if c.domain.inter allowed = c.domain then .ok (g, false)
    else if (c.domain.inter allowed).size = 0 then .error (.emptyDomain p)
    else .ok ({ g with
      cells := g.cells.setIfInBounds i { c with domain := c.domain.inter allowed } }, true)

def collapse (g : Grid) (p : Position) (tile : TileId) : Except GridError Grid :=
  match g.locate p with
  | .error e => .error e
  | .ok (i, c) =>
    if c.chosen.isSome then .error (.alreadyResolved p)
    else if c.domain.has tile = false then .error (.notInDomain p tile)
    else .ok { g with
      cells := g.cells.setIfInBounds i ⟨.only c.domain.width tile, some tile⟩ }

/-- `g.Narrows g'` says that `g'` comes from `g` by dropping candidates of open cells. -/
inductive Narrows : Grid → Grid → Prop
  | refl (g : Grid) : Narrows g g
  | restrict {g g' g'' : Grid} {p : Position} {allowed : Domain} {shrank : Bool} :
    g.restrict p allowed = .ok (g', shrank) → Narrows g' g'' → Narrows g g''

end Grid

end EdgeTiling
