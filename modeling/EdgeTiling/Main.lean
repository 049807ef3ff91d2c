import EdgeTiling.App
import EdgeTiling.Number

/-! The command line program. -/

namespace EdgeTiling.Console

abbrev ConsoleM := ReaderT (IO.Ref (Option Journal.Filter)) IO

def numberedError (code : UInt32) (text : String) : FileError :=
  match code.toNat with
  | 2 => .notFound
  | 20 => .notDirectory
  | 21 => .isDirectory
  | 28 => .noSpace
  | 36 => .nameTooLong
  | n => .refused s!"{text} (os error {n})"

def fileError : IO.Error → FileError
  | .noFileOrDirectory .. => .notFound
  | .inappropriateType _ code text | .permissionDenied _ code text
  | .resourceExhausted _ code text | .invalidArgument _ code text | .noSuchThing _ code text
  | .alreadyExists _ code text => numberedError code text
  | .otherError code text | .resourceBusy code text | .unsupportedOperation code text
  | .hardwareFault code text | .illegalOperation code text => numberedError code text
  | e => .refused (toString e)

def attempt {α : Type} (x : IO α) : ConsoleM (Except FileError α) := do
  try
    return .ok (← x)
  catch e =>
    return .error (fileError e)

/-- The variables of a process, each ended by a zero. -/
def variablesOf (bytes : ByteArray) : List (String × String) :=
  match String.fromUTF8? bytes with
  | none => []
  | some text => (text.splitOn (Char.ofNat 0).toString).filterMap fun entry =>
    let name := entry.toList.takeWhile (· != '=')
    if name.length < entry.length then
      some (String.ofList name, String.ofList (entry.toList.drop (name.length + 1)))
    else none

def environment : IO (List (String × String)) := do
  try
    return variablesOf (← IO.FS.readBinFile "/proc/self/environ")
  catch _ =>
    return []

/-- The number that the bytes write, the first counting most. -/
def ofBytes (bytes : ByteArray) : Nat := bytes.toList.foldl (fun n b => n * 256 + b.toNat) 0

instance : Host ConsoleM where
  note r := do
    if ((← (← read).get).map (·.shows r)).getD false then IO.eprintln r.line
  watch f := do (← read).set (some f)
  complain text := IO.eprintln text
  now := do return ⟨← IO.monoNanosNow⟩
  pause d := IO.sleep (min d.milliseconds (twoTo 32 - 1)).toUInt32
  write text := attempt do (← IO.getStdout).putStr text
  flush := attempt do (← IO.getStdout).flush
  colours := do
    return Display.coloursIn (← environment) (← (← IO.getStdout).isTty)
  exists? p := do ((← IO.currentDir) / p).pathExists
  isFile? p := do
    let path := (← IO.currentDir) / p
    return (← path.pathExists) && !(← path.isDir)
  read p := do
    match ← attempt (IO.FS.readBinFile p) with
    | .error e => return .error e
    | .ok bytes =>
      match String.fromUTF8? bytes with
      | some text => return .ok text
      | none => return .error .notText
  save p text := attempt (IO.FS.writeFile p text)
  environment := environment
  randomSeed := do return (ofBytes (← IO.getRandomBytes 8)).toUInt64

end EdgeTiling.Console

def main (args : List String) : IO UInt32 := do
  let rules ← IO.mkRef none
  let ending ← (EdgeTiling.App.program args : EdgeTiling.Console.ConsoleM _).run rules
  match ending.complaint with
  | some text => IO.eprintln text
  | none => pure ()
  return ending.code.toUInt32
