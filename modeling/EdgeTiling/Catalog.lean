import EdgeTiling.Tile
import EdgeTiling.Journal

/-! Tile sets with the character each tile is drawn as, the documents that describe them, and the
catalogs that need no file. -/

namespace EdgeTiling

structure Catalog where
  tiles : TileSet
  glyphs : List Char

namespace Catalog

/-- A tile without a glyph is drawn as the first character of its name. -/
def glyphsFor : List Tile → List (Option Char) → List Char
  | [], _ => []
  | t :: rest, given =>
    ((given.head?.join).getD (t.name.toList.headD '?')) :: glyphsFor rest given.tail

def ofTileSet (tiles : TileSet) (given : List (Option Char)) : Catalog :=
  ⟨tiles, glyphsFor tiles.tiles.toList given⟩

def size (c : Catalog) : Nat := c.tiles.size

def glyph (c : Catalog) (t : TileId) : Char := c.glyphs.getD t '?'

def name? (c : Catalog) (t : TileId) : Option String := (c.tiles.get? t).map (·.name)

structure Entry where
  name : String
  edges : Sides String
  weight : Float32 := 1.0
  glyph : Option Char := none

def Entry.tile (e : Entry) : Tile := ⟨e.name, e.edges, e.weight⟩

structure Draft where
  name : Option String := none
  edges : Option (Sides String) := none
  weight : Option Float32 := none
  glyph : Option (Option Char) := none

/-- Name and edges have to be given. -/
def Draft.entry? (d : Draft) : Option Entry := do
  return ⟨← d.name, ← d.edges, d.weight.getD 1.0, d.glyph.getD none⟩

structure EdgeDraft where
  up : Option String := none
  down : Option String := none
  left : Option String := none
  right : Option String := none

def EdgeDraft.sides? (d : EdgeDraft) : Option (Sides String) := do
  return ⟨← d.up, ← d.down, ← d.left, ← d.right⟩

inductive DocumentError
  | noTiles
  | invalid (cause : TileSetError)

def DocumentError.message : DocumentError → String
  | .noTiles => "No tiles defined."
  | .invalid cause => "TileSet Error: " ++ cause.message

def ofEntries (entries : List Entry) : Except DocumentError Catalog :=
  if entries.isEmpty then .error .noTiles
  else match TileSet.ofTiles (entries.map Entry.tile) with
    | .ok tiles => .ok (ofTileSet tiles (entries.map (·.glyph)))
    | .error e => .error (.invalid e)

/-- What is recorded when a document has become a catalog. -/
def parsedRecord (c : Catalog) : Record :=
  ⟨.debug, "edgewave_rules::formats::schema", s!"Parsed catalog with {c.size} tiles"⟩

/-- A tile with the labels of its upper, lower, left and right edge. -/
def pipe (name up down left right : String) (glyph : Char) : Entry :=
  ⟨name, ⟨up, down, left, right⟩, 1.0, some glyph⟩

def pipeEntries : List Entry :=
  [pipe "down_right" "G" "R" "G" "R" '┌', pipe "up_left" "R" "G" "R" "G" '┘',
    pipe "up_right" "R" "G" "G" "R" '└', pipe "down_left" "G" "R" "R" "G" '┐',
    pipe "vertical" "R" "R" "G" "G" '│', pipe "horizontal" "G" "G" "R" "R" '─',
    pipe "tee_up" "R" "G" "R" "R" '┴', pipe "cross" "R" "R" "R" "R" '┼',
    pipe "ground" "G" "G" "G" "G" '·']

def builtin? (name : String) : Option (List Entry) :=
  if name = "pipes" then some pipeEntries else none

end Catalog

end EdgeTiling
