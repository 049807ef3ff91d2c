import EdgeTiling.Number
import EdgeTiling.Settings
import EdgeTiling.Text.Reader

/-! The command line. -/

namespace EdgeTiling.Settings

structure CommandLine where
  layer : Layer Duration := {}
  config : Option Path := none

inductive Usage
  | help
  | version
  | unknownArgument
  /-- None of the values that an option can have, or no value at all. -/
  | invalidValue
  /-- No number or span of time. -/
  | badValue
  | repeated
  | unexpectedValue
  /-- A value that the program does not survive. -/
  | fatal
  deriving DecidableEq, Repr

structure Flag where
  name : String
  letter : Option Char := none
  value : String
  purpose : String

def options : List Flag :=
  [{ name := "catalog", letter := some 'c', value := "CATALOG",
     purpose := "Built-in catalog name (\"pipes\") or path to a RON/JSON catalog file" },
   { name := "width", value := "WIDTH", purpose := "Width of the output grid" },
   { name := "height", value := "HEIGHT", purpose := "Height of the output grid" },
   { name := "seed", value := "SEED",
     purpose := "Seed for the random number generator. Random when unset" },
   { name := "attempts", value := "ATTEMPTS",
     purpose := "How many seeds to try before giving up on a contradiction" },
   { name := "selection", value := "SELECTION",
     purpose := "Tie-break among cells with the same number of candidates" },
   { name := "output-path", letter := some 'o', value := "FILE",
     purpose := "Path to save the resolved grid" },
   { name := "output-format", value := "OUTPUT_FORMAT", purpose := "Format of the saved grid" },
   { name := "trace-csv", value := "CSV_FILE",
     purpose := "Write every collapse of the final attempt to this CSV file" },
   { name := "visualization-mode", value := "VISUALIZATION_MODE",
     purpose := "Choose the visualization mode" },
   { name := "frame-delay", value := "DURATION",
     purpose := "Pause between frames in animate mode (e.g., \"50ms\")" },
   { name := "progress-interval", value := "DURATION",
     purpose := "Report progress updates every specified interval (e.g., \"1s\", \"500ms\")" },
   { name := "survey", value := "RUNS",
     purpose := "Solve this many consecutive seeds in parallel and report statistics" },
   { name := "survey-csv", value := "CSV_FILE", purpose := "Per-run results of the survey as CSV" },
   { name := "config", value := "FILE",
     purpose := "TOML file with defaults for any of the options above" },
   { name := "log-level", value := "LOG_LEVEL", purpose := "Global log level" },
   { name := "progress-log-level", value := "PROGRESS_LOG_LEVEL",
     purpose := "Log level of the progress reporter" }]

section Values

variable {α : Type}

def orElse (u : Usage) : Option α → Except Usage α
  | some a => .ok a
  | none => .error u

def argNatural (limit : Nat) (v : String) : Except Usage Nat :=
  orElse .badValue (Text.natural? limit v.toList)

def argPath (v : String) : Except Usage Path := if v = "" then .error .invalidValue else .ok v

def argChoice (all : List α) (name : α → String) (v : String) : Except Usage α :=
  orElse .invalidValue (all.find? fun a => name a == v)

def argDuration (v : String) : Except Usage Duration :=
  match Duration.parse v with
  | .ok d => .ok d
  | .error .exhausted => .error .fatal
  | .error _ => .error .badValue

/-- A number with or without a sign that has to fit into 32 bits. -/
def argAttempts (v : String) : Except Usage UInt32 :=
  orElse .badValue <| (Text.integer? (twoTo 63) v.toList).bind fun n =>
    if 0 ≤ n ∧ n < twoTo 32 then some (UInt32.ofNat n.toNat) else none

end Values

def CommandLine.assign (c : CommandLine) (name v : String) : Except Usage CommandLine := do
  let l := c.layer
  match name with
  | "catalog" => return { c with layer := { l with catalog := some v } }
  | "width" => return { c with layer := { l with width := ← argNatural wordLimit v } }
  | "height" => return { c with layer := { l with height := ← argNatural wordLimit v } }
  | "seed" => return { c with layer := { l with seed := UInt64.ofNat (← argNatural wordLimit v) } }
  | "attempts" => return { c with layer := { l with attempts := ← argAttempts v } }
  | "selection" =>
    return { c with layer := { l with selection := ← argChoice Selection.all Selection.name v } }
  | "output-path" => return { c with layer := { l with outputPath := ← argPath v } }
  | "output-format" =>
    return { c with
      layer := { l with outputFormat := ← argChoice GridFormat.all GridFormat.name v } }
  | "trace-csv" => return { c with layer := { l with traceCsv := ← argPath v } }
  | "visualization-mode" =>
    return { c with layer := { l with mode := ← argChoice Mode.all Mode.name v } }
  | "frame-delay" => return { c with layer := { l with frameDelay := ← argDuration v } }
  | "progress-interval" =>
    return { c with layer := { l with progressInterval := ← argDuration v } }
  | "survey" => return { c with layer := { l with survey := ← argNatural wordLimit v } }
  | "survey-csv" => return { c with layer := { l with surveyCsv := ← argPath v } }
  | "config" => return { c with config := ← argPath v }
  | "log-level" =>
    return { c with layer := { l with logLevel := ← argChoice Level.all Level.name v } }
  | "progress-log-level" =>
    return { c with
      layer := { l with progressLogLevel := ← argChoice progressLevels Level.name v } }
  | _ => .error .unknownArgument

inductive Argument
  /-- Two dashes: what follows is no option. -/
  | dashes
  /-- An option, perhaps with its value in the same argument. -/
  | option (name : String) (value : Option String)
  | help
  | version
  /-- A word that takes no value with one. -/
  | excess
  | unknown
  /-- A value or a word that has no business there. -/
  | word (text : String)

def longArgument (cs : List Char) : Argument :=
  let name := String.ofList (cs.takeWhile (· != '='))
  let value := match cs.dropWhile (· != '=') with
    | _ :: v => some (String.ofList v)
    | [] => none
  if name = "help" then if value.isSome then .excess else .help
  else if name = "version" then if value.isSome then .excess else .version
  else if options.any fun o => o.name == name then .option name value
  else .unknown

def shortArgument (letter : Char) (cs : List Char) : Argument :=
  let value := match cs with
    | [] => none
    | '=' :: v => some (String.ofList v)
    | v => some (String.ofList v)
  if letter = 'h' then .help
  else if letter = 'V' then .version
  else match options.find? fun o => o.letter == some letter with
    | some o => .option o.name value
    | none => .unknown

def argumentOf (text : String) : Argument :=
  match text.toList with
  | ['-', '-'] => .dashes
  | '-' :: '-' :: cs => longArgument cs
  | '-' :: c :: cs => shortArgument c cs
  | _ => .word text

/-- A command line read so far. The value of an option that is an argument of its own is looked at
only when the next option comes or the line ends. -/
structure Partial where
  line : CommandLine := {}
  given : List String := []
  waiting : Option (String × Option String) := none

namespace Partial

/-- Takes an option with its value. An option needs a value and cannot be given twice. -/
def take (p : Partial) (name : String) (value : Option String) : Except Usage Partial :=
  match value with
  | none => .error .invalidValue
  | some v =>
    if p.given.contains name then .error .repeated
    else do return { p with line := ← p.line.assign name v, given := name :: p.given }

/-- Takes the option that is waiting. -/
def settle (p : Partial) : Except Usage Partial :=
  match p.waiting with
  | none => .ok p
  | some (name, value) => { p with waiting := none }.take name value

variable {α : Type}

/-- Gives up for the reason `u`. The option that is waiting is still looked at, but only a value that
the program does not survive counts. -/
def giveUp (p : Partial) (u : Usage) : Except Usage α :=
  match p.settle with
  | .error .fatal => .error .fatal
  | _ => .error u

def advance (p : Partial) (text : String) : Except Usage Partial := do
  match argumentOf text with
  | .dashes => return p
  | .unknown => p.giveUp .unknownArgument
  | .excess => p.giveUp .unexpectedValue
  | .help => do
    discard p.settle
    .error .help
  | .version => do
    discard p.settle
    .error .version
  | .option name none => return { (← p.settle) with waiting := some (name, none) }
  | .option name value => (← p.settle).take name value
  | .word text =>
    match p.waiting with
    | some (name, none) => return { p with waiting := some (name, some text) }
    | _ => p.giveUp .unknownArgument

end Partial

/-- Reads arguments; nothing may follow two dashes. -/
def readArguments (p : Partial) : List String → Except Usage CommandLine
  | [] => do return (← p.settle).line
  | "--" :: rest =>
    if rest.isEmpty then do return (← p.settle).line else p.giveUp .unknownArgument
  | a :: rest => do readArguments (← p.advance a) rest

def parseArguments (args : List String) : Except Usage CommandLine := readArguments {} args

def helpText : String :=
  let entry (o : Flag) :=
    let letter := match o.letter with
      | some c => s!"-{c}, "
      | none => "    "
    s!"  {letter}--{o.name} <{o.value}>\n          {o.purpose}\n"
  "Edge-label wave function collapse\n\nUsage: edgewave [OPTIONS]\n\nOptions:\n" ++
    String.join (options.map entry) ++
    "  -h, --help\n          Print help\n  -V, --version\n          Print version\n"

def versionText : String := "edgewave-app 0.1.0\n"

def Usage.message : Usage → String
  | .help | .version | .fatal => ""
  | .unknownArgument => "error: unexpected argument found"
  | .invalidValue => "error: a value is missing or not one of the possible values"
  | .badValue => "error: invalid value"
  | .repeated => "error: an argument cannot be used multiple times"
  | .unexpectedValue => "error: unexpected value found; no more were expected"

end EdgeTiling.Settings
