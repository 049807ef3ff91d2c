import EdgeTiling.Number
import EdgeTiling.Settings
import EdgeTiling.Text.Reader

/-! Settings as files and the environment give them: names with values of some kind, and the escapes
that may stand in the texts of both. -/

namespace EdgeTiling.Settings

inductive Value
  | text (s : String)
  | integer (n : Int)
  | flag (b : Bool)
  /-- A number with a point, a date, a list or a table, none of which is ever a setting. -/
  | other
  deriving DecidableEq, Repr

/-- The value of each name; the first of two for a name counts. -/
abbrev Values := List (String × Value)

namespace Values

/-- The values of `upper`, and those of `lower` for other names. -/
def overlay (upper lower : Values) : Values :=
  upper ++ lower.filter fun v => (upper.lookup v.1).isNone

end Values

def keys : List String :=
  ["catalog", "width", "height", "seed", "attempts", "selection", "output_path", "output_format",
    "trace_csv", "visualization_mode", "frame_delay", "progress_interval", "survey", "survey_csv",
    "log_level", "progress_log_level"]

section Fields

variable {α : Type}

/-- A setting that may be left out but has to be of the right kind. -/
def field (vs : Values) (key : String) (read : Value → Option α) : Option (Option α) :=
  match vs.lookup key with
  | none => some none
  | some v => (read v).map some

def asText : Value → Option String
  | .text s => some s
  | _ => none

def asNatural (limit : Nat) : Value → Option Nat
  | .integer n => if 0 ≤ n ∧ n < limit then some n.toNat else none
  | _ => none

def asChoice (all : List α) (name : α → String) : Value → Option α
  | .text s => all.find? fun a => name a == s
  | _ => none

end Fields

/-- The layer that the values describe, unless one has an unknown name or is of the wrong kind. -/
def layerOf (vs : Values) : Option (Layer String) := do
  if vs.any fun v => !keys.contains v.1 then none
  else return {
    catalog := ← field vs "catalog" asText
    width := ← field vs "width" (asNatural wordLimit)
    height := ← field vs "height" (asNatural wordLimit)
    seed := (← field vs "seed" (asNatural wordLimit)).map UInt64.ofNat
    attempts := (← field vs "attempts" (asNatural (twoTo 32))).map UInt32.ofNat
    selection := ← field vs "selection" (asChoice Selection.all Selection.name)
    outputPath := ← field vs "output_path" asText
    outputFormat := ← field vs "output_format" (asChoice GridFormat.all GridFormat.name)
    traceCsv := ← field vs "trace_csv" asText
    mode := ← field vs "visualization_mode" (asChoice Mode.all Mode.name)
    frameDelay := ← field vs "frame_delay" asText
    progressInterval := ← field vs "progress_interval" asText
    survey := ← field vs "survey" (asNatural wordLimit)
    surveyCsv := ← field vs "survey_csv" asText
    logLevel := ← field vs "log_level" (asChoice Level.all Level.name)
    progressLogLevel := ← field vs "progress_log_level" (asChoice progressLevels Level.name) }

section Characters

open EdgeTiling.Reader

variable {ε : Type}

def isKeyChar (c : Char) : Bool := c.isAlphanum || c == '_' || c == '-'

def numbered (flaw : ε) (count : Nat) : Reader ε Char := do
  let ds := (← rest).take count
  let n := Text.ofDigits 16 ds
  if ds.length = count ∧ ds.all Text.isHexDigit ∧ n.isValidChar then do
    skip count
    return Char.ofNat n
  else fail flaw

def escaped (flaw : ε) : Reader ε Char := do
  match ← peek with
  | none => fail flaw
  | some c => do
    skip 1
    match c with
    | '"' => return '"'
    | '\\' => return '\\'
    | 'b' => return '\x08'
    | 'f' => return '\x0c'
    | 'n' => return '\n'
    | 'r' => return '\r'
    | 't' => return '\t'
    | 'u' => numbered flaw 4
    | 'U' => numbered flaw 8
    | _ => fail flaw

end Characters

end EdgeTiling.Settings
