import EdgeTiling.Catalog
import EdgeTiling.Json.Reader

/-! Catalog documents in JSON. -/

namespace EdgeTiling.Catalog

open EdgeTiling.Json

/-- Any number; one with a point or an exponent is read in double precision first. -/
def jsonWeight : Scan Float32 := do
  match ← next with
  | some c =>
    if c = '-' ∨ c.isDigit then do
      match ← number with
      | .whole n => return float32OfDecimal n 0
      | .negative n => return -(float32OfDecimal n 0)
      | .real x => return x.toFloat32
    else wrongKind
  | none => wrongKind

/-- A string of one character. -/
def jsonGlyph : Scan Char := do
  match (← string).toList with
  | [c] => return c
  | _ => Reader.fail .mismatched

def jsonEdges : Scan (Sides String) :=
  record ({} : EdgeDraft)
    (fun d name => do
      match name with
      | "up" => return { d with up := ← once d.up string }
      | "down" => return { d with down := ← once d.down string }
      | "left" => return { d with left := ← once d.left string }
      | "right" => return { d with right := ← once d.right string }
      | _ => Reader.fail .mismatched)
    EdgeDraft.sides?
    (do return ⟨← item true string, ← item false string, ← item false string,
      ← item false string⟩)

def jsonEntry : Scan Entry :=
  record ({} : Draft)
    (fun d name => do
      match name with
      | "name" => return { d with name := ← once d.name string }
      | "edges" => return { d with edges := ← once d.edges jsonEdges }
      | "weight" => return { d with weight := ← once d.weight jsonWeight }
      | "glyph" => return { d with glyph := ← once d.glyph (optional jsonGlyph) }
      | _ => Reader.fail .mismatched)
    Draft.entry?
    (do return ⟨← item true string, ← item false jsonEdges, ← lastItem jsonWeight 1.0,
      ← lastItem (optional jsonGlyph) none⟩)

/-- The entries of a document, which holds nothing but the list of its tiles. -/
def jsonEntries (text : String) : Except Fault (List Entry) :=
  (document <| record none
    (fun d name => do
      match name with
      | "tiles" => once d (list jsonEntry)
      | _ => Reader.fail .mismatched)
    id
    (item true (list jsonEntry))).run text

end EdgeTiling.Catalog
