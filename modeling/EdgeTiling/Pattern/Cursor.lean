import EdgeTiling.Pattern.Fault
import EdgeTiling.Text.Character

/-! Moving through a regular expression. -/

namespace EdgeTiling.Pattern

structure Flags where
  /-- Capital and small letters are the same. -/
  caseless : Bool := false
  /-- `^` and `$` stand for the ends of lines. -/
  multiline : Bool := false
  /-- The dot stands for line ends too. -/
  dotAll : Bool := false
  unicode : Bool := true
  /-- A carriage return ends a line. -/
  carriage : Bool := false
  /-- Blanks and comments in the expression mean nothing. -/
  verbose : Bool := false
  deriving DecidableEq, Repr

def Flags.set (f : Flags) (on : Bool) : Char → Flags
  | 'i' => { f with caseless := on }
  | 'm' => { f with multiline := on }
  | 's' => { f with dotAll := on }
  | 'u' => { f with unicode := on }
  | 'R' => { f with carriage := on }
  | 'x' => { f with verbose := on }
  | _ => f

structure Cursor where
  rest : List Char
  index : Nat := 0
  flags : Flags := {}
  /-- The names of groups and where they stand. -/
  names : List (String × Span) := []
  /-- A fault that counts only if the form of the expression is right. -/
  late : Option Fault := none

abbrev Scan := StateT Cursor (Except Fault)

section Moves

variable {α : Type}

def blame (problem : Problem) (span : Span) : Scan α := fun _ => .error ⟨problem, span⟩

def peek : Scan (Option Char) := fun c => .ok (c.rest.head?, c)

def index : Scan Nat := fun c => .ok (c.index, c)

def flags : Scan Flags := fun c => .ok (c.flags, c)

def setFlags (f : Flags) : Scan Unit := modify fun c => { c with flags := f }

/-- Keeps a fault for the end, unless there is an earlier one. -/
def blameLater (problem : Problem) (span : Span) : Scan Unit :=
  modify fun c => { c with late := c.late.or (some ⟨problem, span⟩) }

def hereSpan : Scan Span := do
  let i ← index
  return ⟨i, i⟩

def charSpan : Scan Span := do
  let i ← index
  return ⟨i, i + 1⟩

def spanFrom (start : Nat) : Scan Span := do return ⟨start, ← index⟩

def atEnd : Scan Bool := do return (← peek).isNone

def move (n : Nat) : Scan Unit :=
  modify fun c => { c with rest := c.rest.drop n, index := c.index + (c.rest.take n).length }

/-- How many characters at the front are blanks and comments, of which the latter end with their
line. -/
def spaceLength : Bool → List Char → Nat
  | _, [] => 0
  | true, c :: rest => 1 + spaceLength (c != '\n') rest
  | false, c :: rest =>
    if Text.isBlank c then 1 + spaceLength false rest
    else if c = '#' then 1 + spaceLength true rest
    else 0

/-- Passes over blanks and comments, if they mean nothing. -/
def skipSpace : Scan Unit := do
  if (← flags).verbose then fun c => move (spaceLength false c.rest) c

/-- Goes on by one character; says whether another follows. -/
def bump : Scan Bool := do
  move 1
  return !(← atEnd)

def bumpSpace : Scan Bool := do
  move 1
  skipSpace
  return !(← atEnd)

def bumpIf (word : String) : Scan Bool := fun c =>
  if word.toList.isPrefixOf c.rest then (do move word.length; return true : Scan Bool) c
  else .ok (false, c)

def peekSecond : Scan (Option Char) := fun c => .ok ((c.rest.drop 1).head?, c)

/-- The character after the next one, blanks and comments apart. -/
def peekSecondSpace : Scan (Option Char) := do
  let verbose := (← flags).verbose
  fun c =>
    let later := c.rest.drop 1
    let skipped := if verbose then spaceLength false later else 0
    .ok ((later.drop skipped).head?, c)

def takeChars (p : Char → Bool) : Nat → Scan (List Char)
  | 0 => return []
  | n + 1 => do
    match ← peek with
    | some c =>
      if p c then do
        discard bumpSpace
        return c :: (← takeChars p n)
      else return []
    | none => return []

def left : Scan Nat := fun c => .ok (c.rest.length, c)

end Moves

end EdgeTiling.Pattern
