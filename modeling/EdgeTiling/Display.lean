import EdgeTiling.Catalog
import EdgeTiling.Host
import EdgeTiling.Solver

/-! Grids on the screen. -/

namespace EdgeTiling

/-- The character for a cell: its tile's glyph, `!` at the contradiction, or the number of tiles
left. -/
def cellChar (g : Grid) (c : Catalog) (status : Status) (p : Position) : Char :=
  if status = .contradiction p then '!'
  else match g.chosen? p with
    | some t => c.glyph t
    | none =>
      match g.domainSize p with
      | 0 => '!'
      | n => if n ≤ 9 then n.digitChar else '+'

def frameOf (g : Grid) (cell : Position → String) : String :=
  String.join ((List.range g.height).map fun y =>
    String.join ((List.range g.width).map fun x => cell ⟨x, y⟩) ++ "\n")

def plainFrame (g : Grid) (c : Catalog) (status : Status) : String :=
  frameOf g fun p => (cellChar g c status p).toString

/-- The codes of a cell: bold red at the contradiction, bright red on green where decided, dimmed
elsewhere. -/
def cellStyle (g : Grid) (status : Status) (p : Position) : String :=
  if status = .contradiction p then "1;31" else if g.isResolved p then "42;91" else "2"

def colouredFrame (g : Grid) (c : Catalog) (status : Status) : String :=
  frameOf g fun p =>
    s!"\x1b[{cellStyle g status p}m" ++ (cellChar g c status p).toString ++ "\x1b[0m"

structure Display where
  catalog : Catalog
  colour : Bool := true
  /-- Draws over what is there. -/
  clear : Bool := false

namespace Display

def clearScreen : String := "\x1b[2J\x1b[H"

/-- Everything that is written for one grid; colours show only where the screen has them. -/
def text (d : Display) (colours : Bool) (g : Grid) (status : Status) : String :=
  (if d.clear then clearScreen else "") ++
    (if d.colour ∧ colours then colouredFrame g d.catalog status
      else plainFrame g d.catalog status) ++
    s!"[{g.resolvedCount}/{g.size} resolved] {status.text}\n"

inductive Fault
  | write (cause : FileError)
  | flush (cause : FileError)

def draw {m : Type → Type} [Monad m] [Host m] (d : Display) (g : Grid) (status : Status) :
    m (Except Fault Unit) := do
  match ← Host.write (d.text (← Host.colours) g status) with
  | .error e => return .error (.write e)
  | .ok _ =>
    match ← Host.flush with
    | .error e => return .error (.flush e)
    | .ok _ => return .ok ()

/-- Whether colours show: one variable forces them, another forbids them, and otherwise they show
on a terminal unless a third says no. -/
def coloursIn (environment : List (String × String)) (terminal : Bool) : Bool :=
  let value (name : String) := (environment.find? fun e => e.1 == name).map (·.2 != "0")
  if value "CLICOLOR_FORCE" = some true then true
  else if (value "NO_COLOR").isSome then false
  else (value "CLICOLOR").getD true && terminal

end Display

end EdgeTiling
