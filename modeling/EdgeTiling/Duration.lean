import EdgeTiling.Number
import EdgeTiling.Text.Character

/-! Spans of time, the ways they are written, and how they are read. -/

namespace EdgeTiling

structure Duration where
  nanoseconds : Nat
  deriving DecidableEq, Repr

namespace Duration

def ofMilliseconds (n : Nat) : Duration := ⟨n * 1000000⟩

def seconds (d : Duration) : Nat := d.nanoseconds / 1000000000

def subsecond (d : Duration) : Nat := d.nanoseconds % 1000000000

def milliseconds (d : Duration) : Nat := d.nanoseconds / 1000000

/-- From one point in time to a later one; an earlier one counts as the same. -/
def since (now before : Duration) : Duration := ⟨now.nanoseconds - before.nanoseconds⟩

def toSeconds (d : Duration) : Float :=
  Float.ofNat d.seconds + Float.ofNat d.subsecond / 1000000000

/-- The units from years down, with the seconds of each and whether the name takes a plural. -/
def longUnits : List (String × Nat × Bool) :=
  [("year", 31557600, true), ("month", 2630016, true), ("day", 86400, true), ("h", 3600, false),
    ("m", 60, false), ("s", 1, false)]

def split (n : Nat) : List (String × Nat × Bool) → List (String × Nat × Bool)
  | [] => []
  | (name, size, plural) :: rest => (name, n / size, plural) :: split (n % size) rest

def partText : String × Nat × Bool → Option String
  | (_, 0, _) => none
  | (name, n, plural) => some (toString n ++ name ++ if plural ∧ 1 < n then "s" else "")

/-- The units that occur, as in `1h 2m 3s`. -/
def text (d : Duration) : String :=
  let short := [("ms", d.subsecond / 1000000, false), ("us", d.subsecond / 1000 % 1000, false),
    ("ns", d.subsecond % 1000, false)]
  match (split d.seconds longUnits ++ short).filterMap partText with
  | [] => "0s"
  | parts => String.intercalate " " parts

/-- One number in the largest unit up to seconds that is not below one, as in `1.5s`. -/
def short (d : Duration) : String :=
  let write (places : Nat) (unit : String) :=
    (Decimal.mk d.nanoseconds (-(places : Int))).trim.positional ++ unit
  if 1000000000 ≤ d.nanoseconds then write 9 "s"
  else if 1000000 ≤ d.nanoseconds then write 6 "ms"
  else if 1000 ≤ d.nanoseconds then write 3 "µs"
  else write 0 "ns"

inductive Measure
  /-- So many nanoseconds, which may be given as a fraction. -/
  | fine (nanoseconds : Nat)
  /-- So many seconds; a fraction has to come out in nanoseconds. -/
  | medium (seconds : Nat)
  /-- So many seconds; a fraction has to come out in seconds. -/
  | coarse (seconds : Nat)
  deriving DecidableEq, Repr

def measure? (name : String) : Option Measure :=
  if name ∈ ["nanos", "nsec", "ns"] then some (.fine 1)
  else if name ∈ ["usec", "us", "µs"] then some (.fine 1000)
  else if name ∈ ["millis", "msec", "ms"] then some (.fine 1000000)
  else if name ∈ ["seconds", "second", "secs", "sec", "s"] then some (.medium 1)
  else if name ∈ ["minutes", "minute", "min", "mins", "m"] then some (.medium 60)
  else if name ∈ ["hours", "hour", "hr", "hrs", "h"] then some (.coarse 3600)
  else if name ∈ ["days", "day", "d"] then some (.coarse 86400)
  else if name ∈ ["weeks", "week", "wk", "wks", "w"] then some (.coarse 604800)
  else if name ∈ ["months", "month", "M"] then some (.coarse 2630016)
  else if name ∈ ["years", "year", "yr", "yrs", "y"] then some (.coarse 31557600)
  else none

/-- Why a text is no span of time. Places are counted in bytes. -/
inductive ParseError
  | empty
  | noNumber (place : Nat)
  | badCharacter (place : Nat)
  | unknownUnit (unit : String) (count : Nat)
  | overflow
  /-- Parts of a second come to one more second than there are. -/
  | exhausted
  deriving DecidableEq, Repr

def ParseError.message : ParseError → String
  | .empty => "value was empty"
  | .noNumber place => s!"expected number at {place}"
  | .badCharacter place => s!"invalid character at {place}"
  | .unknownUnit "" count => s!"time unit needed, for example {count}sec or {count}ms"
  | .unknownUnit unit _ => s!"unknown time unit \"{unit}\", supported units: ns, us/µs, ms, " ++
    "sec, min, hours, days, weeks, months, years (and few variations)"
  | .overflow => "number is too large or cannot be represented without a lack of precision " ++
    "(values below 1ns are not supported)"
  | .exhausted => "overflow when adding durations"

abbrev Parsed := Except ParseError

/-- A number that has to fit into 64 bits. -/
def word (n : Nat) : Parsed Nat := if n < wordLimit then .ok n else .error .overflow

/-- A product of 64 bits that is divided without a rest. -/
def share (n factor den : Nat) : Parsed Nat := do
  let p ← word (n * factor)
  if p % den = 0 then return p / den else .error .overflow

/-- Adds seconds and nanoseconds. The sums have to fit into 64 bits; nanoseconds that come to exactly
one second are carried last. -/
def add (d : Duration) (seconds nanoseconds : Nat) : Parsed Duration := do
  let fine ← word (d.subsecond + nanoseconds)
  let carry := if fine = 1000000000 then 0 else fine / 1000000000
  discard (word (d.seconds + seconds + carry))
  let total : Duration := ⟨d.nanoseconds + nanoseconds + seconds * 1000000000⟩
  if total.seconds < wordLimit then return total else .error .exhausted

structure Fraction where
  num : Nat
  den : Nat

def addWhole (d : Duration) (n : Nat) : Measure → Parsed Duration
  | .fine size => do d.add 0 (← word (n * size))
  | .medium size | .coarse size => do d.add (← word (n * size)) 0

def addFraction (d : Duration) (f : Fraction) : Measure → Parsed Duration
  | .fine 1 => .error .overflow
  | .fine size => do d.add 0 (← share f.num size f.den)
  | .medium size => do d.add 0 (← share f.num (size * 1000000000) f.den)
  | .coarse size => do d.add (← share f.num size f.den) 0

def addSpan (d : Duration) (n : Nat) (f : Option Fraction) (unit : List Char) :
    Parsed Duration := do
  match measure? (String.ofList unit) with
  | none => .error (.unknownUnit (String.ofList unit) n)
  | some m => do
    let d ← d.addWhole n m
    match f with
    | none => return d
    | some f => d.addFraction f m

inductive Phase
  /-- Blanks before a number, and the place of the first. -/
  | gap (start : Nat)
  | whole (n : Nat)
  /-- A number with a point, and the place to name if it is not carried on. -/
  | fraction (n : Nat) (f : Fraction) (place : Nat)
  | unit (n : Nat) (f : Option Fraction) (letters : List Char)

def isUnitLetter (c : Char) : Bool := c.isAlpha || c == 'µ'

def digit (c : Char) : Nat := c.toNat - '0'.toNat

/-- One more character, at a place of the text. A point has to be followed by digits. The letters of
a unit are kept in reverse. -/
def advance (d : Duration) (place : Nat) (c : Char) : Phase → Parsed (Duration × Phase)
  | .gap start =>
    if c.isDigit then return (d, .whole (digit c))
    else if Text.isBlank c then return (d, .gap start)
    else .error (.noNumber start)
  | .whole n =>
    if c.isDigit then do return (d, .whole (← word (n * 10 + digit c)))
    else if Text.isBlank c then return (d, .whole n)
    else if isUnitLetter c then return (d, .unit n none [c])
    else if c = '.' then return (d, .fraction n ⟨0, 1⟩ place)
    else .error (.badCharacter place)
  | .fraction n f named =>
    if c.isDigit then do
      return (d, .fraction n ⟨← word (f.num * 10 + digit c), ← word (f.den * 10)⟩
        (place + c.utf8Size))
    else if Text.isBlank c then return (d, .fraction n f (place + c.utf8Size))
    else if isUnitLetter c ∧ f.den ≠ 1 then return (d, .unit n (some f) [c])
    else .error (.badCharacter named)
  | .unit n f letters =>
    if c.isDigit then do return (← d.addSpan n f letters.reverse, .whole (digit c))
    else if Text.isBlank c then do
      return (← d.addSpan n f letters.reverse, .gap (place + c.utf8Size))
    else if isUnitLetter c then return (d, .unit n f (c :: letters))
    else .error (.badCharacter place)

def scan (d : Duration) (phase : Phase) (place : Nat) : List Char → Parsed (Duration × Phase)
  | [] => return (d, phase)
  | c :: rest => do
    let (d, phase) ← d.advance place c phase
    scan d phase (place + c.utf8Size) rest

/-- Numbers with units, blanks allowed around and inside the numbers; or a bare `0`. -/
def parse (text : String) : Parsed Duration := do
  if text = "0" then return ⟨0⟩
  else if text.toList.all Text.isBlank then .error .empty
  else
    let (d, phase) ← scan ⟨0⟩ (.gap 0) 0 text.toList
    match phase with
    | .gap _ => return d
    | .whole n => .error (.unknownUnit "" n)
    | .fraction n f place => .error (if f.den = 1 then .badCharacter place else .unknownUnit "" n)
    | .unit n f letters => d.addSpan n f letters.reverse

end Duration

end EdgeTiling
