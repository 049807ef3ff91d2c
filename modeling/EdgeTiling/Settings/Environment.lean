import EdgeTiling.Number
import EdgeTiling.Settings.Value
import EdgeTiling.Text.Character
import EdgeTiling.Text.Reader

/-! Settings from the environment. -/

namespace EdgeTiling.Settings

open EdgeTiling.Reader

namespace Environment

inductive Flaw
  | malformed
  /-- The text was cut inside a character. -/
  | torn
  deriving DecidableEq, Repr

abbrev Scan (α : Type) := Reader Flaw α

variable {α : Type}

def refuse : Scan α := fail .malformed

def blanks : Scan Unit := skipWhile Text.isAsciiBlank

def eatChar (c : Char) : Scan Bool := do
  if (← peek) = some c then do
    skip 1
    return true
  else return false

def expect (c : Char) : Scan Unit := do
  if ← eatChar c then pure () else refuse

section Strings

/-- The characters up to the quote that ends a string; one after a backslash ends none. -/
def quoted : List Char → Option (List Char × List Char)
  | [] => none
  | '"' :: rest => some ([], rest)
  | '\\' :: c :: rest => (quoted rest).map fun (cs, rest) => ('\\' :: c :: cs, rest)
  | c :: rest => (quoted rest).map fun (cs, rest) => (c :: cs, rest)

/-- Tab and whatever is no control. -/
def isPlain (c : Char) : Bool := (c == '\t' || 0x20 ≤ c.toNat) && c != '\x7f'

/-- The characters in the first `n` bytes, which have to end with one of them. -/
def firstBytes (n : Nat) : List Char → Except Flaw (List Char)
  | [] => .ok []
  | c :: cs =>
    if n = 0 then .ok []
    else if c.utf8Size ≤ n then do return c :: (← firstBytes (n - c.utf8Size) cs)
    else .error .torn

def unescapeFrom (start : List Char) : Scan (List Char) :=
  iterate .malformed (a := start.reverse) fun (out : List Char) => do
    match ← peek with
    | none => return .inr out.reverse
    | some c => do
      skip 1
      if c = '\\' then return .inl ((← escaped .malformed) :: out)
      else if isPlain c then return .inl (c :: out)
      else refuse

/-- The text of a string. Of what stands in front of the first backslash only as many bytes are kept
as it has characters. -/
def unescape (cs : List Char) : Except Flaw (List Char) := do
  let plain := cs.takeWhile (· != '\\')
  if !plain.all isPlain then .error .malformed
  else if plain.length = cs.length then return plain
  else do
    let start ← firstBytes plain.length plain
    let (out, _) ← unescapeFrom start (cs.drop plain.length)
    return out

def string : Scan String := do
  expect '"'
  match quoted (← rest) with
  | none => refuse
  | some (cs, later) => fun _ => do return (String.ofList (← unescape cs), later)

end Strings

def isSeparator (c : Char) : Bool := c == ',' || c == '\x7b' || c == '\x7d' || c == '[' || c == ']'

/-- What an unquoted text is: a number if it can be read as one. -/
def plain (cs : List Char) : Value :=
  if cs.contains '.' ∧ (Text.literal? cs).isSome then .other
  else match Text.natural? wordLimit cs with
    | some n => .integer n
    | none =>
      match Text.integer? (twoTo 63) cs with
      | some n => .integer n
      | none => .text (String.ofList cs)

/-- Items divided by commas, up to the closing bracket, which may follow a comma at once. -/
def items (close : Char) (item : Scan Unit) : Scan Unit :=
  iterate .malformed (a := ()) fun _ => do
    if ← eatChar close then return .inr ()
    else do
      item
      if ← eatChar ',' then return .inl ()
      else do
        expect close
        return .inr ()

def key : Scan Unit := do
  if (← peek) = some '"' then discard string
  else if (← takeWhile isKeyChar).isEmpty then refuse

def value : Nat → Scan Value
  | 0 => refuse
  | depth + 1 => do
    blanks
    let v ← do
      if ← eat "true" then pure (.flag true)
      else if ← eat "false" then pure (.flag false)
      else match ← peek with
        | some '[' => do
          skip 1
          items ']' (discard (value depth))
          pure .other
        | some '{' => do
          skip 1
          items '}' (do
            blanks
            key
            blanks
            expect '='
            discard (value depth))
          pure .other
        | some '"' => do pure (.text (← string))
        | some '\'' => do
          skip 1
          match ← peek with
          | none => refuse
          | some c => do
            skip 1
            expect '\''
            pure (.text c.toString)
        | _ => do pure (plain (Text.strip Text.isBlank (← takeWhile fun c => !isSeparator c)))
    blanks
    return v

/-- The value of a variable; a text that is nothing else stands for itself. A torn text is none. -/
def valueOf (text : String) : Option Value :=
  match value (text.length + 1) text.toList with
  | .ok (v, []) => some v
  | .error .torn => none
  | _ => some (.text text)

/-- Variables whose names start so, in letters of any case, are settings. -/
def mark : String := "edgewave_"

/-- The names of the tables and of the setting in the last of them that a variable is for. -/
def keys? (name : String) : Option (List String) :=
  let name := (Text.trim name).map Char.toLower
  if name.startsWith mark then
    let parts := (Text.trim (String.ofList (name.toList.drop mark.length))).splitOn "."
    if parts.any (· == "") then none else some parts
  else none

/-- The setting that a value is for. One with several names goes into a table. -/
def setting? (keys : List String) (v : Value) : Option (String × Value) :=
  match keys with
  | [] => none
  | [key] => some (key, v)
  | key :: _ => some (key, .other)

/-- The settings of an environment; of two variables for one the later counts. There are none if a
text is torn. -/
def values? (environment : List (String × String)) : Option Values := do
  let found ← environment.mapM fun (name, text) =>
    match keys? name with
    | none => some none
    | some keys => do return setting? keys (← valueOf text)
  return (found.filterMap id).reverse

end Environment

end EdgeTiling.Settings
