import EdgeTiling.Duration
import EdgeTiling.Export

/-! Settings of a run and the layers they are put together from. -/

namespace EdgeTiling

inductive Mode
  | none
  /-- The grid at the end. -/
  | terminal
  /-- The grid after every step. -/
  | animate
  deriving DecidableEq, Repr

namespace Mode

def all : List Mode := [.none, .terminal, .animate]

def name : Mode → String
  | .none => "none"
  | .terminal => "terminal"
  | .animate => "animate"

def title : Mode → String
  | .none => "None"
  | .terminal => "Terminal"
  | .animate => "Animate"

end Mode

/-- The levels that reports on progress can be limited to. -/
def progressLevels : List Level := [.trace, .debug, .info, .warn]

/-- What one source says about the settings; spans of time have the type `δ`. -/
structure Layer (δ : Type) where
  catalog : Option String := none
  width : Option Nat := none
  height : Option Nat := none
  seed : Option UInt64 := none
  attempts : Option UInt32 := none
  selection : Option Selection := none
  outputPath : Option Path := none
  outputFormat : Option GridFormat := none
  traceCsv : Option Path := none
  mode : Option Mode := none
  frameDelay : Option δ := none
  progressInterval : Option δ := none
  survey : Option Nat := none
  surveyCsv : Option Path := none
  logLevel : Option Level := none
  progressLogLevel : Option Level := none

structure Settings where
  catalog : String := "pipes"
  width : Nat := 20
  height : Nat := 20
  /-- A run without a seed takes a random one. -/
  seed : Option UInt64 := none
  attempts : UInt32 := 1
  selection : Selection := .randomLowest
  outputPath : Option Path := none
  outputFormat : GridFormat := .text
  traceCsv : Option Path := none
  mode : Mode := .none
  frameDelay : Duration := .ofMilliseconds 50
  progressInterval : Option Duration := none
  survey : Option Nat := none
  surveyCsv : Option Path := none
  logLevel : Level := .info
  progressLogLevel : Level := .info

inductive SettingsError
  | fileNotFound (path : Path)
  /-- The file or the environment does not say anything that can be understood. -/
  | unreadable
  | invalidDuration (key text : String) (cause : Duration.ParseError)
  /-- A text that the program does not survive. -/
  | fatal
  | emptyGrid (width height : Nat)
  | noAttempts
  | emptySurvey
  deriving DecidableEq, Repr

/-- The detail of a message, if there is more to say than that the settings are wrong. -/
def SettingsError.detail? : SettingsError → Option String
  | .fileNotFound path => some s!"Config file not found: {path}"
  | .unreadable | .fatal => none
  | .invalidDuration key text cause =>
    some s!"Invalid duration for {key}: '{text}' ({cause.message})"
  | .emptyGrid width height => some s!"Grid dimensions must be non-zero, got {width}x{height}"
  | .noAttempts => some "attempts must be at least 1"
  | .emptySurvey => some "survey needs at least 1 run"

def SettingsError.message (e : SettingsError) : String :=
  "Configuration Error" ++ (e.detail?.map (": " ++ ·)).getD ""

namespace Settings

/-- The span that the command line gives, or else the one that the other sources write. -/
def duration (key : String) (given : Option Duration) (text : Option String) :
    Except SettingsError (Option Duration) :=
  match given, text with
  | some d, _ => .ok (some d)
  | none, none => .ok none
  | none, some t =>
    match Duration.parse t with
    | .ok d => .ok (some d)
    | .error .exhausted => .error .fatal
    | .error cause => .error (.invalidDuration key t cause)

/-- What the command line leaves open is taken from `below`, and the rest has a default. -/
def combine (line : Layer Duration) (below : Layer String) : Except SettingsError Settings := do
  let frameDelay ← duration "frame_delay" line.frameDelay below.frameDelay
  let progressInterval ← duration "progress_interval" line.progressInterval below.progressInterval
  let base : Settings := {}
  return {
    catalog := (line.catalog <|> below.catalog).getD base.catalog
    width := (line.width <|> below.width).getD base.width
    height := (line.height <|> below.height).getD base.height
    seed := line.seed <|> below.seed
    attempts := (line.attempts <|> below.attempts).getD base.attempts
    selection := (line.selection <|> below.selection).getD base.selection
    outputPath := line.outputPath <|> below.outputPath
    outputFormat := (line.outputFormat <|> below.outputFormat).getD base.outputFormat
    traceCsv := line.traceCsv <|> below.traceCsv
    mode := (line.mode <|> below.mode).getD base.mode
    frameDelay := frameDelay.getD base.frameDelay
    progressInterval := progressInterval
    survey := line.survey <|> below.survey
    surveyCsv := line.surveyCsv <|> below.surveyCsv
    logLevel := (line.logLevel <|> below.logLevel).getD base.logLevel
    progressLogLevel :=
      (line.progressLogLevel <|> below.progressLogLevel).getD base.progressLogLevel }

def fault? (s : Settings) : Option SettingsError :=
  if s.width = 0 ∨ s.height = 0 then some (.emptyGrid s.width s.height)
  else if s.attempts = 0 then some .noAttempts
  else if s.survey = some 0 then some .emptySurvey
  else none

def resolve (line : Layer Duration) (below : Layer String) : Except SettingsError Settings := do
  let s ← combine line below
  match s.fault? with
  | some e => .error e
  | none => return s

/-- The warning about a table of a survey that is not made. -/
def warning? (s : Settings) : Option Record :=
  if s.surveyCsv.isSome ∧ s.survey.isNone then
    some ⟨.warn, "edgewave_app::config", "survey_csv is set without survey; it will be ignored"⟩
  else none

def optionText (o : Option String) : String :=
  match o with
  | some t => s!"Some({t})"
  | none => "None"

/-- All settings on one line, with the seed that the run takes. -/
def text (s : Settings) (seed : UInt64) : String :=
  let paths (p : Option Path) := optionText (p.map Text.quotePath)
  let fields := [("catalog", Text.quote s.catalog), ("width", toString s.width),
    ("height", toString s.height), ("seed", toString seed), ("attempts", toString s.attempts),
    ("selection", s.selection.title), ("output_path", paths s.outputPath),
    ("output_format", s.outputFormat.title), ("trace_csv", paths s.traceCsv),
    ("visualization_mode", s.mode.title), ("frame_delay", s.frameDelay.short),
    ("progress_interval", optionText (s.progressInterval.map Duration.short)),
    ("survey", optionText (s.survey.map toString)), ("survey_csv", paths s.surveyCsv),
    ("log_level", s.logLevel.title), ("progress_log_level", s.progressLogLevel.title)]
  "Settings \x7b " ++ String.intercalate ", " (fields.map fun (k, v) => s!"{k}: {v}") ++ " \x7d"

end Settings

end EdgeTiling
