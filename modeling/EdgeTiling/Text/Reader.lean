/-! Numbers written in digits, and reading a text from the front. -/

namespace EdgeTiling

namespace Text

/-- The value of a digit in a base of at most 36; letters of either case count on from ten. -/
def digitValue? (base : Nat) (c : Char) : Option Nat :=
  let v :=
    if '0' ≤ c ∧ c ≤ '9' then c.toNat - '0'.toNat
    else if 'a' ≤ c ∧ c ≤ 'z' then c.toNat - 'a'.toNat + 10
    else if 'A' ≤ c ∧ c ≤ 'Z' then c.toNat - 'A'.toNat + 10
    else base
  if v < base then some v else none

def isHexDigit (c : Char) : Bool := (digitValue? 16 c).isSome

/-- The number that the digits stand for; other characters count as zero. -/
def ofDigits (base : Nat) (cs : List Char) : Nat :=
  cs.foldl (fun n c => n * base + (digitValue? base c).getD 0) 0

/-- One digit or more, and nothing else. -/
def digits? (cs : List Char) : Option Nat :=
  if cs ≠ [] ∧ cs.all Char.isDigit then some (ofDigits 10 cs) else none

/-- A number below `limit` in digits, with or without a plus sign. -/
def natural? (limit : Nat) (cs : List Char) : Option Nat := do
  let n ← match cs with
    | '+' :: rest => digits? rest
    | _ => digits? cs
  if n < limit then some n else none

/-- A number from `-limit` up to `limit - 1` in digits, with or without a sign. -/
def integer? (limit : Nat) (cs : List Char) : Option Int :=
  match cs with
  | '-' :: rest => do
    let n ← digits? rest
    if n ≤ limit then some (-(n : Int)) else none
  | _ => (natural? limit cs).map Int.ofNat

structure Literal where
  negative : Bool
  digits : Nat
  exponent : Int
  deriving DecidableEq, Repr

def exponent? : List Char → Option Int
  | [] => some 0
  | mark :: cs =>
    if mark = 'e' ∨ mark = 'E' then
      match cs with
      | '-' :: ds => (digits? ds).map fun n => -(n : Int)
      | '+' :: ds => (digits? ds).map Int.ofNat
      | ds => (digits? ds).map Int.ofNat
    else none

/-- A sign, digits with or without a point, and a power of ten; only the digits have to be
there. -/
def literal? (cs : List Char) : Option Literal :=
  let (negative, cs) := match cs with
    | '-' :: rest => (true, rest)
    | '+' :: rest => (false, rest)
    | _ => (false, cs)
  let whole := cs.takeWhile Char.isDigit
  let (places, cs) := match cs.dropWhile Char.isDigit with
    | '.' :: rest => (rest.takeWhile Char.isDigit, rest.dropWhile Char.isDigit)
    | rest => ([], rest)
  if whole = [] ∧ places = [] then none
  else (exponent? cs).map fun e =>
    ⟨negative, ofDigits 10 (whole ++ places), e - places.length⟩

end Text

/-- Takes a value off the front of a text, or fails for a reason `ε`. -/
abbrev Reader (ε α : Type) := StateT (List Char) (Except ε) α

namespace Reader

variable {ε α β : Type}

def fail (e : ε) : Reader ε α := fun _ => .error e

/-- The next character, which stays where it is. -/
def peek : Reader ε (Option Char) := fun cs => .ok (cs.head?, cs)

def rest : Reader ε (List Char) := fun cs => .ok (cs, cs)

def skip (n : Nat) : Reader ε Unit := fun cs => .ok ((), cs.drop n)

def skipWhile (p : Char → Bool) : Reader ε Unit := fun cs => .ok ((), cs.dropWhile p)

def takeWhile (p : Char → Bool) : Reader ε (List Char) :=
  fun cs => .ok (cs.takeWhile p, cs.dropWhile p)

/-- Takes `word` off the front if the text starts with it. -/
def eat (word : String) : Reader ε Bool := fun cs =>
  if word.toList.isPrefixOf cs then .ok (true, cs.drop word.length) else .ok (false, cs)

/-- Repeats `step` until it gives a result. A round that reads nothing is a failure, so that the
text bounds the number of rounds. -/
def iterate (stuck : ε) (step : α → Reader ε (α ⊕ β)) (a : α) : Reader ε β := fun cs =>
  match step a cs with
  | .error e => .error e
  | .ok (.inr b, later) => .ok (b, later)
  | .ok (.inl a', later) =>
    if _h : later.length < cs.length then iterate stuck step a' later else .error stuck
termination_by cs => cs.length

def run (r : Reader ε α) (text : String) : Except ε α := (r text.toList).map (·.1)

end Reader

end EdgeTiling
