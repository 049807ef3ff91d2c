import EdgeTiling.Duration
import EdgeTiling.Files
import EdgeTiling.Journal.Filter

/-! What a run needs of its surroundings; and surroundings as a value, with a tree of files, what was
written and what was recorded, in which time stands still. -/

namespace EdgeTiling

/-- Effects that a run can have in `m`. -/
class Host (m : Type → Type) where
  note : Record → m Unit
  /-- Sets which records are shown; before that none is. -/
  watch : Journal.Filter → m Unit
  /-- Says something beside the records. -/
  complain : String → m Unit
  now : m Duration
  pause : Duration → m Unit
  write : String → m (Except FileError Unit)
  flush : m (Except FileError Unit)
  /-- Whether colours show where text is written. -/
  colours : m Bool
  exists? : Path → m Bool
  isFile? : Path → m Bool
  read : Path → m (Except FileError String)
  /-- Puts text into a file, which is made or emptied first. -/
  save : Path → String → m (Except FileError Unit)
  environment : m (List (String × String))
  randomSeed : m UInt64

/-- Writes a line, whether it arrives or not. -/
def Host.print {m : Type → Type} [Monad m] [Host m] (text : String) : m Unit := do
  discard (Host.write text)

inductive Screen
  | ready
  | refusesWrites (reason : String)
  | refusesFlush (reason : String)
  deriving DecidableEq, Repr

structure Session where
  files : Files := {}
  environment : List (String × String) := []
  screen : Screen := .ready
  colours : Bool := false
  seed : UInt64 := 0
  filter : Option Journal.Filter := none
  written : String := ""
  records : Array Record := #[]
  /-- The records that the filter let through, and what was said beside them. -/
  lines : Array String := #[]

namespace Session

def note (s : Session) (r : Record) : Session :=
  { s with
    records := s.records.push r
    lines := if (s.filter.map (·.shows r)).getD false then s.lines.push r.line else s.lines }

def write (s : Session) (text : String) : Except FileError Unit × Session :=
  match s.screen with
  | .refusesWrites reason => (.error (.refused reason), s)
  | _ => (.ok (), { s with written := s.written ++ text })

def flush (s : Session) : Except FileError Unit :=
  match s.screen with
  | .refusesFlush reason => .error (.refused reason)
  | _ => .ok ()

def save (s : Session) (p : Path) (text : String) : Except FileError Unit × Session :=
  match s.files.write p text with
  | .ok files => (.ok (), { s with files := files })
  | .error e => (.error e, s)

instance : Host (StateM Session) where
  note r := modify (·.note r)
  watch f := modify fun s => { s with filter := some f }
  complain text := modify fun s => { s with lines := s.lines.push text }
  now := pure ⟨0⟩
  pause _ := pure ()
  write text := fun s => s.write text
  flush := fun s => (s.flush, s)
  colours := fun s => (s.colours, s)
  exists? p := fun s => (s.files.exists? p, s)
  isFile? p := fun s => (s.files.isFile? p, s)
  read p := fun s => (s.files.read p, s)
  save p text := fun s => s.save p text
  environment := fun s => (s.environment, s)
  randomSeed := fun s => (s.seed, s)

end Session

end EdgeTiling
