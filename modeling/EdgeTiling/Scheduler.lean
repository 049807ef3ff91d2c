import EdgeTiling.Grid
import EdgeTiling.Random.Stream

/-! Choosing the cell to decide next: one of the open cells with the fewest candidates. -/

namespace EdgeTiling

open EdgeTiling.Random (Stream)

inductive Selection
  /-- Each with the same chance. -/
  | randomLowest
  /-- The first in row order; nothing is drawn. -/
  | firstMinimum
  deriving DecidableEq, Repr

namespace Selection

def all : List Selection := [.randomLowest, .firstMinimum]

def name : Selection → String
  | .randomLowest => "random-lowest"
  | .firstMinimum => "first-minimum"

def title : Selection → String
  | .randomLowest => "RandomLowest"
  | .firstMinimum => "FirstMinimum"

end Selection

structure Scheduler (σ : Type) where
  select : σ → Grid → Stream → Option Position × σ × Stream

/-- The open cells of a grid, in row order, with their numbers of candidates. -/
def Grid.openCells (g : Grid) : List (Position × Nat) :=
  g.cells.toList.zipIdx.filterMap fun (c, i) =>
    if c.isOpen then some (g.position i, c.domain.size) else none

structure Lowest where
  fewest : Option Nat
  cells : Array Position

namespace Lowest

def empty : Lowest := ⟨none, #[]⟩

/-- Takes in one more cell with its number of candidates. A number below all before it drops the
cells held so far. -/
def meet (l : Lowest) (cell : Position × Nat) : Lowest :=
  let l := if l.fewest.all (cell.2 < ·) then ⟨some cell.2, #[]⟩ else l
  if l.fewest = some cell.2 then { l with cells := l.cells.push cell.1 } else l

end Lowest

/-- The open cells with the fewest candidates, in row order, found in one pass over the cells. -/
def Grid.lowestCells (g : Grid) : List Position :=
  (g.openCells.foldl Lowest.meet .empty).cells.toList

namespace Scheduler

def fewest (how : Selection) : Scheduler Unit where
  select _ g s :=
    let cells := g.lowestCells
    match how with
    | .firstMinimum => (cells.head?, (), s)
    | .randomLowest =>
      if cells.isEmpty then (none, (), s)
      else
        let (i, s) := s.below cells.length
        (cells[i]?, (), s)

end Scheduler

end EdgeTiling
