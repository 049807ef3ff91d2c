/-! Records of what a run does, each with a level of importance and the part that wrote it. -/

namespace EdgeTiling

inductive Level
  | error
  | warn
  | info
  | debug
  | trace
  deriving DecidableEq, Repr

namespace Level

/-- The more detail, the higher. -/
def detail : Level → Nat
  | .error => 1
  | .warn => 2
  | .info => 3
  | .debug => 4
  | .trace => 5

def all : List Level := [.error, .warn, .info, .debug, .trace]

def label : Level → String
  | .error => "ERROR"
  | .warn => "WARN"
  | .info => "INFO"
  | .debug => "DEBUG"
  | .trace => "TRACE"

def name : Level → String
  | .error => "error"
  | .warn => "warn"
  | .info => "info"
  | .debug => "debug"
  | .trace => "trace"

def title : Level → String
  | .error => "Error"
  | .warn => "Warn"
  | .info => "Info"
  | .debug => "Debug"
  | .trace => "Trace"

/-- Whether a record of level `l` shows where the level `limit` is asked for. -/
def shows (limit l : Level) : Bool := l.detail ≤ limit.detail

end Level

structure Record where
  level : Level
  /-- The part of the program that wrote it. -/
  target : String
  message : String
  deriving DecidableEq, Repr

end EdgeTiling
