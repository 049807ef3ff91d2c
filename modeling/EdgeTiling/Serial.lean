import EdgeTiling.Json.Form
import EdgeTiling.Snapshot

/-! The serialised forms of the values that a solve takes and gives. -/

namespace EdgeTiling

open Json

def Position.form : Form Position :=
  (Form.two "x" "y" .natural .natural).map (fun (x, y) => ⟨x, y⟩) fun p => (p.x, p.y)

def TileId.form : Form TileId := Form.natural

def Direction.form : Form Direction := Form.named Direction.all Direction.name

def Selection.form : Form Selection := Form.named Selection.all Selection.name

def Collapse.form : Form Collapse :=
  (Form.two "position" "tile" Position.form TileId.form).map (fun (p, t) => ⟨p, t⟩)
    fun c => (c.position, c.tile)

def Status.cellForm : Form Position := Form.one "at" Position.form

def Status.form : Form Status where
  tree
    | .inProgress => .text "InProgress"
    | .resolved => .text "Resolved"
    | .contradiction p => .object [("Contradiction", cellForm.tree p)]
  scan := choice fun
    | "InProgress" => some (.nothing .inProgress)
    | "Resolved" => some (.nothing .resolved)
    | "Contradiction" => some (.holding (.contradiction <$> cellForm.scan))
    | _ => none

def Snapshot.form : Form Snapshot :=
  (Form.three "width" "height" "cells" .natural .natural (.list (.optional TileId.form))).map
    (fun (w, h, cells) => ⟨w, h, cells⟩) fun s => (s.width, s.height, s.cells)

def Progress.form : Form Progress :=
  (Form.three "resolved_cells" "total_cells" "steps" .natural .natural .natural).map
    (fun (r, t, s) => ⟨r, t, s⟩) fun p => (p.resolvedCells, p.totalCells, p.steps)

end EdgeTiling
