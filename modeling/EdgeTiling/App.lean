import EdgeTiling.Run
import EdgeTiling.Settings.Arguments
import EdgeTiling.Settings.Environment
import EdgeTiling.Settings.Toml

/-! The program: from the command line to the exit code. -/

namespace EdgeTiling.App

open Settings

variable {m : Type → Type} [Monad m] [Host m]

/-- The values in a file of settings, or none if it cannot be understood. What is there but no file
says nothing. -/
def fileValues (path : Path) : m (Except SettingsError (Option Values)) := do
  if !(← Host.exists? path) then return .error (.fileNotFound path)
  else if !(← Host.isFile? path) then return .ok (some [])
  else match ← Host.read path with
    | .error _ => return .ok none
    | .ok text => return .ok (Toml.values? text)

/-- The values in the file that the command line names, and no values if it names none. -/
def namedValues (line : CommandLine) : m (Except SettingsError (Option Values)) := do
  match line.config with
  | some path => fileValues path
  | none => return .ok (some [])

/-- What the environment says, and for other settings what the file says. -/
def layerBelow (file : Option Values) (environment : List (String × String)) :
    Except SettingsError (Layer String) :=
  match Environment.values? environment, file with
  | none, _ => .error .fatal
  | some _, none => .error .unreadable
  | some upper, some lower =>
    match layerOf (Values.overlay upper lower) with
    | some l => .ok l
    | none => .error .unreadable

def settingsFor (line : CommandLine) : m (Except SettingsError Settings) := do
  match ← namedValues line with
  | .error e => return .error e
  | .ok file =>
    match layerBelow file (← Host.environment) with
    | .error e => return .error e
    | .ok below =>
      match resolve line.layer below with
      | .error e => return .error e
      | .ok s => do
        match s.warning? with
        | some r => Host.note r
        | none => pure ()
        return .ok s

/-- Which records are shown: those of the level asked for, reports on progress up to their own
level, and whatever the rules in the environment add. -/
def filterFor (s : Settings) (rules : Option String) : Journal.Filter :=
  let base := (({} : Journal.Filter).insert ⟨none, some s.logLevel⟩).insert
    ⟨some Reporter.target, some s.progressLogLevel⟩
  match rules with
  | none => base
  | some text => base.add text

def startLog (s : Settings) : m Unit := do
  let rules := (← Host.environment).lookup "RUST_LOG"
  ((rules.map Journal.Filter.complaints).getD []).forM Host.complain
  Host.watch (filterFor s rules)
  Host.note ⟨.debug, "edgewave_app::logging",
    s!"Logger initialized with global log level: {s.logLevel.title}, progress log level: {s.progressLogLevel.title}"⟩

def target : String := "edgewave_app::app"

/-- The seed of a run, a random one if the settings have none. -/
def seedFor (s : Settings) : m UInt64 := do
  match s.seed with
  | some seed => return seed
  | none => Host.randomSeed

def run (line : CommandLine) : m (Except Failure Unit) := do
  match ← settingsFor line with
  | .error e => return .error (.settings e)
  | .ok s => do
    let seed ← seedFor s
    startLog s
    Host.note ⟨.info, target, "Edgewave starting"⟩
    Host.note ⟨.debug, target, s!"Resolved settings: {s.text seed}"⟩
    match ← Run.execute s seed with
    | .error e => return .error e
    | .ok _ => do
      Host.note ⟨.info, target, "Edgewave finished."⟩
      return .ok ()

structure Ending where
  code : UInt8
  /-- What is said about an error. -/
  complaint : Option String := none

def broken : Ending := ⟨101, none⟩

def endingOf (e : Failure) : Ending :=
  if e.isFatal then broken else ⟨1, some ("Error: " ++ e.message)⟩

def program (args : List String) : m Ending := do
  match parseArguments args with
  | .error .help => do
    Host.print helpText
    return ⟨0, none⟩
  | .error .version => do
    Host.print versionText
    return ⟨0, none⟩
  | .error .fatal => return broken
  | .error usage => return ⟨2, some usage.message⟩
  | .ok line =>
    match ← run line with
    | .error e => return endingOf e
    | .ok _ => return ⟨0, none⟩

end EdgeTiling.App
