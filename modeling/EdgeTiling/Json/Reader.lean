import EdgeTiling.Number
import EdgeTiling.Text.Reader

/-! Reading values of known shape from JSON text. The first fault that reading from the front meets
is the answer. -/

namespace EdgeTiling.Json

inductive Fault
  /-- Not JSON as far as it was read. -/
  | malformed
  /-- The text ends too early. -/
  | truncated
  /-- A value of another shape. -/
  | mismatched
  deriving DecidableEq, Repr

abbrev Scan (α : Type) := Reader Fault α

open Reader

variable {α β κ : Type}

def isSpace (c : Char) : Bool := c == ' ' || c == '\n' || c == '\t' || c == '\r'

def next : Scan (Option Char) := do
  skipWhile isSpace
  peek

def expect : List Char → Scan Unit
  | [] => pure ()
  | c :: more => do
    match ← peek with
    | none => fail .truncated
    | some d => if d = c then do skip 1; expect more else fail .malformed

def punctuation (c : Char) : Scan Unit := do
  match ← next with
  | none => fail .truncated
  | some d => if d = c then skip 1 else fail .malformed

section Strings

/-- Four hexadecimal digits. -/
def hexUnit : Scan Nat := do
  let digits := (← rest).take 4
  if (String.ofList digits).utf8ByteSize < 4 then fail .truncated
  else if digits.length = 4 ∧ digits.all Text.isHexDigit then do
    skip 4
    return Text.ofDigits 16 digits
  else fail .malformed

def lowUnit : Scan Nat := do
  expect ['\\', 'u']
  let n ← hexUnit
  if 0xdc00 ≤ n ∧ n ≤ 0xdfff then return n else fail .malformed

/-- The character of a `\u` escape, which may take a pair of them. -/
def unicodeEscape : Scan Char := do
  let n ← hexUnit
  if 0xdc00 ≤ n ∧ n ≤ 0xdfff then fail .malformed
  else if 0xd800 ≤ n ∧ n ≤ 0xdbff then do
    let m ← lowUnit
    return Char.ofNat (0x10000 + (n - 0xd800) * 0x400 + (m - 0xdc00))
  else return Char.ofNat n

/-- What stands after the backslash. Where the value is not wanted a `\u` escape need not be a
character. -/
def escaped (wanted : Bool) : Scan Char := do
  match ← peek with
  | none => fail .truncated
  | some c => do
    skip 1
    match c with
    | '"' => return '"'
    | '\\' => return '\\'
    | '/' => return '/'
    | 'b' => return '\x08'
    | 'f' => return '\x0c'
    | 'n' => return '\n'
    | 'r' => return '\r'
    | 't' => return '\t'
    | 'u' => if wanted then unicodeEscape else do
        let _ ← hexUnit
        return ' '
    | _ => fail .malformed

def isPlain (c : Char) : Bool := c != '"' && c != '\\' && 0x20 ≤ c.toNat

def stringBody (wanted : Bool) : Scan String :=
  iterate .malformed (a := []) fun (out : List Char) => do
    let out := (← takeWhile isPlain).reverse ++ out
    match ← peek with
    | none => fail .truncated
    | some '"' => do
      skip 1
      return .inr (String.ofList out.reverse)
    | some '\\' => do
      skip 1
      return .inl ((← escaped wanted) :: out)
    | some _ => fail .malformed

end Strings

section Numbers

inductive Number
  | whole (n : Nat)
  /-- Below zero and within 64 bits. -/
  | negative (n : Nat)
  | real (x : Float)

/-- Puts a digit after a number of 64 bits, or counts it among the digits that found no room. -/
def takeDigit : Nat × Nat → Char → Nat × Nat
  | (n, surplus), c =>
    let more := n * 10 + (Text.digitValue? 10 c).getD 0
    if surplus = 0 ∧ more < wordLimit then (more, 0) else (n, surplus + 1)

/-- The leading digits that fit into 64 bits, and how many digits follow them. -/
def significand (digits : List Char) : Nat × Nat := digits.foldl takeDigit (0, 0)

def signed (negative : Bool) (x : Float) : Float := if negative then -x else x

def real (negative : Bool) (digits : Nat) (exponent : Int) : Scan Number :=
  match scaled? digits exponent with
  | some x => return .real (signed negative x)
  | none => fail .malformed

/-- Digits, of which there has to be one. -/
def someDigits : Scan (List Char) := do
  let ds ← takeWhile Char.isDigit
  if ds.isEmpty then
    match ← peek with
    | none => fail .truncated
    | some _ => fail .malformed
  else return ds

/-- The limit of written exponents; beyond it a number is zero or out of range. -/
def exponentEnd : Nat := twoTo 31

/-- The exponent and with it the whole number; the mark has been seen. -/
def withExponent (negative : Bool) (digits : Nat) (exponent : Int) : Scan Number := do
  skip 1
  let down ← match ← peek with
    | some '-' => do skip 1; pure true
    | some '+' => do skip 1; pure false
    | _ => pure false
  let e := Text.ofDigits 10 (← someDigits)
  if exponentEnd ≤ e then
    if digits ≠ 0 ∧ !down then fail .malformed else return .real (signed negative 0)
  else real negative digits (if down then exponent - e else exponent + e)

def numberTail (negative : Bool) (digits surplus : Nat) : Scan Number := do
  match ← peek with
  | some '.' => do
    skip 1
    let places ← someDigits
    let (digits, lost) := places.foldl takeDigit (digits, 0)
    let exponent : Int := (surplus : Int) - (places.length - lost : Nat)
    match ← peek with
    | some 'e' | some 'E' => withExponent negative digits exponent
    | _ => real negative digits exponent
  | some 'e' | some 'E' => withExponent negative digits surplus
  | _ =>
    if 0 < surplus then real negative digits surplus
    else if !negative then return .whole digits
    else if digits = 0 ∨ twoTo 63 < digits then return .real (-(floatOfDecimal digits 0))
    else return .negative digits

def unsignedNumber (negative : Bool) : Scan Number := do
  match ← takeWhile Char.isDigit with
  | [] => do
    match ← peek with
    | none => fail .truncated
    | some _ => fail .malformed
  | '0' :: _ :: _ => fail .malformed
  | ds =>
    let (digits, surplus) := significand ds
    numberTail negative digits surplus

def number : Scan Number := do
  match ← peek with
  | some '-' => do skip 1; unsignedNumber true
  | _ => unsignedNumber false

end Numbers

/-- Fails at a value of the wrong kind; a scalar is read to its end first, so that what is wrong
with it comes before its kind. -/
def wrongKind : Scan α := do
  match ← peek with
  | none => fail .truncated
  | some c => do
    if c = 'n' then expect ['n', 'u', 'l', 'l']
    else if c = 't' then expect ['t', 'r', 'u', 'e']
    else if c = 'f' then expect ['f', 'a', 'l', 's', 'e']
    else if c = '-' ∨ c.isDigit then discard number
    else if c = '"' then do skip 1; discard (stringBody true)
    else if c = '[' ∨ c = '{' then pure ()
    else fail .malformed
    fail .mismatched

def natural : Scan Nat := do
  match ← next with
  | some c =>
    if c = '-' ∨ c.isDigit then do
      match ← number with
      | .whole n => return n
      | _ => fail .mismatched
    else wrongKind
  | none => wrongKind

def string : Scan String := do
  match ← next with
  | some '"' => do skip 1; stringBody true
  | _ => wrongKind

def null : Scan Unit := do
  match ← next with
  | some 'n' => expect ['n', 'u', 'l', 'l']
  | _ => wrongKind

def optional (item : Scan α) : Scan (Option α) := do
  match ← next with
  | some 'n' => do expect ['n', 'u', 'l', 'l']; return none
  | _ => return some (← item)

section Lists

def hasItem (first : Bool) : Scan Bool := do
  match ← next with
  | none => fail .truncated
  | some ']' => return false
  | some ',' =>
    if first then return true
    else do
      skip 1
      match ← next with
      | none => fail .truncated
      | some ']' => fail .malformed
      | some _ => return true
  | some _ => if first then return true else fail .malformed

/-- One more item, put in front of those read so far; or all of them, at the end of the list. -/
def nextItem (item : Scan α) (out : List α) : Scan (List α ⊕ List α) := do
  if ← hasItem out.isEmpty then return .inl ((← item) :: out)
  else do
    skip 1
    return .inr out.reverse

def list (item : Scan α) : Scan (List α) := do
  match ← next with
  | some '[' => do
    skip 1
    iterate .malformed (nextItem item) []
  | _ => wrongKind

def item (first : Bool) (value : Scan α) : Scan α := do
  if ← hasItem first then value else fail .mismatched

/-- An item that may be left out at the end. -/
def lastItem (value : Scan α) (absent : α) : Scan α := do
  if ← hasItem false then value else return absent

def closeList : Scan Unit := punctuation ']'

end Lists

section Skipping

inductive Bracket
  | list
  | object
  deriving DecidableEq

def skipKey : Scan Unit := do
  punctuation '"'
  discard (stringBody false)
  punctuation ':'

/-- Digits, of which there has to be one; the end of the text is no better than another sign. -/
def skipDigits : Scan Unit := do
  if (← takeWhile Char.isDigit).isEmpty then fail .malformed else pure ()

def skipExponent : Scan Unit := do
  match ← peek with
  | some 'e' | some 'E' => do
    skip 1
    match ← peek with
    | some '+' | some '-' => skip 1
    | _ => pure ()
    skipDigits
  | _ => pure ()

def skipNumber : Scan Unit := do
  match ← peek with
  | some '-' => skip 1
  | _ => pure ()
  match ← takeWhile Char.isDigit with
  | [] | '0' :: _ :: _ => fail .malformed
  | _ => do
    match ← peek with
    | some '.' => do skip 1; skipDigits
    | _ => pure ()
    skipExponent

/-- Closes brackets as long as they close, then goes to the next value, if there is one. -/
def leave : Bool × List Bracket → Scan ((Bool × List Bracket) ⊕ Option (List Bracket))
  | (_, []) => return .inr none
  | (comma, b :: outer) => do
    match ← next with
    | none => fail .truncated
    | some c =>
      if c = ',' ∧ comma then do
        skip 1
        if b = .object then skipKey
        return .inr (some (b :: outer))
      else if (c = ']' ∧ b = .list) ∨ (c = '}' ∧ b = .object) then do
        skip 1
        return .inl (true, outer)
      else if comma then fail .malformed
      else do
        if b = .object then skipKey
        return .inr (some (b :: outer))

def skipScalar (brackets : List Bracket) : Scan (Bool × List Bracket) := do
  match ← next with
  | none => fail .truncated
  | some c =>
    if c = 'n' then do expect ['n', 'u', 'l', 'l']; return (true, brackets)
    else if c = 't' then do expect ['t', 'r', 'u', 'e']; return (true, brackets)
    else if c = 'f' then do expect ['f', 'a', 'l', 's', 'e']; return (true, brackets)
    else if c = '-' ∨ c.isDigit then do skipNumber; return (true, brackets)
    else if c = '"' then do skip 1; discard (stringBody false); return (true, brackets)
    else if c = '[' then do skip 1; return (false, .list :: brackets)
    else if c = '{' then do skip 1; return (false, .object :: brackets)
    else fail .malformed

def skipValue : Scan Unit :=
  iterate .malformed (a := []) fun brackets => do
    match ← iterate .malformed leave (← skipScalar brackets) with
    | none => return .inr ()
    | some inner => return .inl inner

end Skipping

section Records

def key (first : Bool) : Scan (Option String) := do
  match ← next with
  | none => fail .truncated
  | some '}' => return none
  | some '"' => if first then do skip 1; return some (← stringBody true) else fail .malformed
  | some ',' =>
    if first then fail .malformed
    else do
      skip 1
      match ← next with
      | none => fail .truncated
      | some '"' => do skip 1; return some (← stringBody true)
      | some _ => fail .malformed
  | some _ => fail .malformed

def nextMember (member : κ → String → Scan κ) (state : Bool × κ) : Scan ((Bool × κ) ⊕ κ) := do
  match ← key state.1 with
  | none => do
    skip 1
    return .inr state.2
  | some name => return .inl (false, ← member state.2 name)

/-- The members of an object, collected by `member`, which also reads the colon. -/
def members (start : κ) (member : κ → String → Scan κ) : Scan κ :=
  iterate .malformed (nextMember member) (true, start)

/-- A value with named parts, given as an object or as the list of the parts. -/
def record (start : κ) (member : κ → String → Scan κ) (finish : κ → Option α) (parts : Scan α) :
    Scan α := do
  match ← next with
  | some '{' => do
    skip 1
    match finish (← members start member) with
    | some a => return a
    | none => fail .mismatched
  | some '[' => do
    skip 1
    let a ← parts
    closeList
    return a
  | _ => wrongKind

def once (seen : Option α) (value : Scan α) : Scan (Option α) := do
  if seen.isSome then fail .mismatched
  else do
    punctuation ':'
    return some (← value)

def ignored : Scan Unit := do
  punctuation ':'
  skipValue

end Records

inductive Content (α : Type)
  | nothing (value : α)
  | holding (value : Scan α)

/-- One of several alternatives: its name, or an object with the name and what goes with it. -/
def choice (find : String → Option (Content α)) : Scan α := do
  match ← next with
  | none => fail .truncated
  | some '"' => do
    skip 1
    match find (← stringBody true) with
    | some (.nothing a) => return a
    | _ => fail .mismatched
  | some '{' => do
    skip 1
    match find (← string) with
    | none => fail .mismatched
    | some content => do
      punctuation ':'
      let a ← match content with
        | .nothing a => do null; pure a
        | .holding value => value
      punctuation '}'
      return a
  | some _ => fail .malformed

def document (value : Scan α) : Scan α := do
  let a ← value
  match ← next with
  | none => return a
  | some _ => fail .malformed

end EdgeTiling.Json
