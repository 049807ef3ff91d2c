import EdgeTiling.Number
import EdgeTiling.Host

/-! Tables as comma-separated values, and tables in files. -/

namespace EdgeTiling

/-- Text goes to a file in pieces of so many bytes. -/
def bufferSize : Nat := 8192

namespace Csv

def isSpecial (c : Char) : Bool := c == ',' || c == '"' || c == '\n' || c == '\r'

/-- A field as it is written; a quote inside quotes is written twice. -/
def field (s : String) : List Char :=
  if s.toList.any isSpecial then
    '"' :: s.toList.flatMap (fun c => if c = '"' then ['"', '"'] else [c]) ++ ['"']
  else s.toList

def fields : List String → List Char
  | [] => []
  | [s] => field s
  | s :: rest => field s ++ ',' :: fields rest

def row (fs : List String) : List Char := fields fs ++ ['\n']

/-- The header and the rows; a table without rows is empty. -/
def table (header : List String) (rows : List (List String)) : String :=
  if rows.isEmpty then "" else String.ofList ((header :: rows).flatMap row)

def boolText (b : Bool) : String := if b then "true" else "false"

/-- The fewest digits that read back, with a point for exponents from -4 up to 15 and otherwise
with one digit in front of it. -/
def decimalText (d : Decimal) : String :=
  let k := d.point
  if d.digits = 0 then "0.0"
  else if -5 < k ∧ k ≤ 16 then
    if d.exponent ≥ 0 then d.positional ++ ".0" else d.positional
  else
    match d.digitText.toList with
    | [] => ""
    | c :: rest =>
      String.ofList (c :: (if rest.isEmpty then [] else '.' :: rest)) ++ s!"e{k - 1}"

def floatText (x : Float) : String :=
  (Numeral.ofFloat x).text fun b => decimalText (b.shortest .even)

inductive Loss
  /-- The file could not be made. -/
  | creation (cause : FileError)
  /-- While rows were still to come. -/
  | rows (cause : FileError)
  /-- At the end, when the last piece was written. -/
  | flush (cause : FileError)
  deriving DecidableEq, Repr

variable {m : Type → Type} [Monad m] [Host m]

/-- Puts the text of a table into a file, which is made first. -/
def save (path : Path) (text : String) : m (Except Loss Unit) := do
  match ← Host.save path "" with
  | .error e => return .error (.creation e)
  | .ok _ =>
    match ← Host.save path text with
    | .error e => return .error (if text.utf8ByteSize ≤ bufferSize then .flush e else .rows e)
    | .ok _ => return .ok ()

end Csv

end EdgeTiling
