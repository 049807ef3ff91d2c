import EdgeTiling.Direction
import EdgeTiling.Domain
import EdgeTiling.Number

/-! Tiles with labelled edges, and the tile sets a grid is filled from. Two tiles may stand side by
side when the edges that face each other carry the same label. -/

namespace EdgeTiling

structure Tile where
  name : String
  edges : Sides String
  /-- How likely the tile is among the candidates of a cell. -/
  weight : Float32 := 1.0
  deriving DecidableEq

namespace Tile

def edge (t : Tile) (d : Direction) : String := t.edges.get d

/-- Weights that no tile may have: those that are not positive, and those that are no number. -/
def hasBadWeight (t : Tile) : Bool := t.weight.isNaN || t.weight ≤ 0

end Tile

/-- A weight in its fewest digits, never with an exponent. -/
def weightText (w : Float32) : String :=
  (Numeral.ofFloat32 w).text fun b => (b.shortest .up).positional

inductive TileSetError
  | empty
  | nonPositiveWeight (index : Nat) (weight : Float32)
  | duplicateName (name : String)
  | unknownTile (tile : TileId)
  deriving DecidableEq

def TileSetError.message : TileSetError → String
  | .empty => "TileSet must contain at least one tile."
  | .nonPositiveWeight index weight =>
    s!"TileSet weights must be positive. Found non-positive weight at index {index}: " ++
      weightText weight
  | .duplicateName name => s!"Duplicate tile name: {name}"
  | .unknownTile tile => s!"Unknown tile id {tile}"

structure EdgeIndex where
  /-- The distinct labels, in the order in which they first occur. -/
  labels : List String
  /-- For each tile the places of its four labels among the distinct ones. -/
  codes : Array (Sides Nat)
  /-- For each side and each label the tiles that carry the label on that side. -/
  carriers : Sides (Array Domain)

namespace EdgeIndex

/-- The number of a label. One that has not occurred so far gets the next free number. -/
def number (label : String) : StateM (List String) Nat := fun labels =>
  if label ∈ labels then (labels.idxOf label, labels) else (labels.length, labels ++ [label])

def numberSides (s : Sides String) : StateM (List String) (Sides Nat) := do
  return ⟨← number s.up, ← number s.down, ← number s.left, ← number s.right⟩

def numberTiles (tiles : List Tile) : StateM (List String) (List (Sides Nat)) :=
  tiles.mapM fun t => numberSides t.edges

/-- For each of the first `count` labels the tiles that carry it on side `d`. -/
def carriersOn (codes : List (Sides Nat)) (count : Nat) (d : Direction) : Array Domain :=
  (Array.range count).map fun label => ⟨codes.map fun c => c.get d == label⟩

def ofTiles (tiles : List Tile) : EdgeIndex :=
  let numbered := (numberTiles tiles).run []
  ⟨numbered.2, numbered.1.toArray, .ofFn (carriersOn numbered.1 numbered.2.length)⟩

def code? (ix : EdgeIndex) (t : TileId) (d : Direction) : Option Nat :=
  ix.codes[t]?.map fun c => c.get d

end EdgeIndex

/-- The first tile, from place `index` on, that has a bad weight or one of the names `seen` before
it. The weight is looked at first. -/
def firstFault (index : Nat) (seen : List String) : List Tile → Option TileSetError
  | [] => none
  | t :: rest =>
    if t.hasBadWeight then some (.nonPositiveWeight index t.weight)
    else if t.name ∈ seen then some (.duplicateName t.name)
    else firstFault (index + 1) (t.name :: seen) rest

/-- A list of tiles fit for use: not empty, with positive weights and distinct names. -/
structure TileSet where
  tiles : Array Tile
  index : EdgeIndex
  nonempty : tiles.toList ≠ []
  faultless : firstFault 0 [] tiles.toList = none
  index_eq : index = EdgeIndex.ofTiles tiles.toList

namespace TileSet

def ofTiles (tiles : List Tile) : Except TileSetError TileSet :=
  if h : tiles = [] then .error .empty
  else match hf : firstFault 0 [] tiles with
    | some fault => .error fault
    | none => .ok ⟨tiles.toArray, EdgeIndex.ofTiles tiles, by simpa using h, by simpa using hf, rfl⟩

def size (ts : TileSet) : Nat := ts.tiles.size

def get? (ts : TileSet) (t : TileId) : Option Tile := ts.tiles[t]?

def weight? (ts : TileSet) (t : TileId) : Option Float32 := (ts.get? t).map (·.weight)

def idByName? (ts : TileSet) (name : String) : Option TileId :=
  ts.tiles.findIdx? (·.name == name)

/-- Whether `b` may stand in direction `d` of `a`. Ids outside the set never fit. -/
def compatible (ts : TileSet) (a b : TileId) (d : Direction) : Bool :=
  match ts.index.code? a d, ts.index.code? b d.opposite with
  | some x, some y => x == y
  | _, _ => false

/-- The labels that the members of `domain` show in direction `d`, each once. -/
def shown (ts : TileSet) (domain : Domain) (d : Direction) : List Nat :=
  (domain.tiles.filterMap fun t => ts.index.code? t d).eraseDups

/-- The tiles that may stand in direction `d` of a cell with the candidates `domain`: all that carry
one of the labels shown. -/
def supported (ts : TileSet) (domain : Domain) (d : Direction) : Domain :=
  ((ts.shown domain d).filterMap fun label => (ts.index.carriers.get d.opposite)[label]?).foldl
    .union (.empty ts.size)

def fullDomain (ts : TileSet) : Domain := .full ts.size

/-- The set of the given tiles. The first id outside the tile set is reported. -/
def mask (ts : TileSet) (ids : List TileId) : Except TileSetError Domain :=
  match ids.find? fun t => ts.size ≤ t with
  | some t => .error (.unknownTile t)
  | none => .ok (.ofPred ts.size fun t => ids.contains t)

end TileSet

end EdgeTiling
