import EdgeTiling.Number
import EdgeTiling.Settings.Value
import EdgeTiling.Text.Reader

/-! Settings from a file in TOML. -/

namespace EdgeTiling.Settings.Toml

open EdgeTiling.Reader

section Tables

inductive Origin
  /-- By a line with its name in brackets. -/
  | header
  /-- As a part of a longer name in brackets. -/
  | implied
  /-- As a part of a key with dots. -/
  | dotted
  deriving DecidableEq

inductive Item
  | leaf (v : Value)
  | table (origin : Origin) (entries : List (String × Item))
  /-- A list of tables, of which the last can still be added to. -/
  | tables (entries : List (String × Item))

abbrev Entries := List (String × Item)

def find? (es : Entries) (key : String) : Option Item := (es.find? fun e => e.1 == key).map (·.2)

def put (es : Entries) (key : String) (item : Item) : Entries :=
  if es.any fun e => e.1 == key then es.map fun e => if e.1 == key then (key, item) else e
  else es ++ [(key, item)]

/-- Changes the entries of the table that a name in brackets leads to. -/
def within (change : Entries → Option Entries) : List String → Entries → Option Entries
  | [], es => change es
  | k :: path, es =>
    match find? es k with
    | none => (within change path []).map fun sub => put es k (.table .implied sub)
    | some (.table origin sub) =>
      (within change path sub).map fun sub => put es k (.table origin sub)
    | some (.tables sub) => (within change path sub).map fun sub => put es k (.tables sub)
    | some (.leaf _) => none

/-- Puts a value under a key, which may have dots. Only tables made by such keys can be added to by
them, but they can pass through others; `here` says whether the entries are those of such a table or
the ones to start from. -/
def assign (item : Item) : Bool → List String → Entries → Option Entries
  | _, [], _ => none
  | here, [k], es => if here ∧ (find? es k).isNone then some (put es k item) else none
  | _, k :: path, es =>
    match find? es k with
    | none => (assign item true path []).map fun sub => put es k (.table .dotted sub)
    | some (.table .header _) => none
    | some (.table origin sub) =>
      (assign item (origin == .dotted) path sub).map fun sub => put es k (.table origin sub)
    | some (.tables sub) => (assign item false path sub).map fun sub => put es k (.tables sub)
    | some (.leaf _) => none

def openTable (k : String) (es : Entries) : Option Entries :=
  match find? es k with
  | none => some (put es k (.table .header []))
  | some (.table .implied sub) => some (put es k (.table .header sub))
  | _ => none

def openNextTable (k : String) (es : Entries) : Option Entries :=
  match find? es k with
  | none | some (.tables _) => some (put es k (.tables []))
  | _ => none

end Tables

abbrev Scan (α : Type) := Reader Unit α

variable {α : Type}

def refuse : Scan α := fail ()

def expect (word : String) : Scan Unit := do
  if ← eat word then pure () else refuse

def orRefuse : Option α → Scan α
  | some a => return a
  | none => refuse

def blanks : Scan Unit := skipWhile fun c => c == ' ' || c == '\t'

/-- Characters that may stand in comments and literal strings. -/
def isPrintable (c : Char) : Bool := c == '\t' || (0x20 ≤ c.toNat && c != '\x7f')

def newline : Scan Bool := do
  if ← eat "\n" then return true else eat "\r\n"

def lineRest : Scan Unit := do
  blanks
  if (← peek) = some '#' then skipWhile isPrintable

def spaces : Scan Unit :=
  iterate () (a := ()) fun _ => do
    lineRest
    if ← newline then return .inl () else return .inr ()

section Strings

def basicBody : Scan String :=
  iterate () (a := []) fun (out : List Char) => do
    let out := (← takeWhile fun c => isPrintable c && c != '"' && c != '\\').reverse ++ out
    if ← eat "\"" then return .inr (String.ofList out.reverse)
    else do
      expect "\\"
      return .inl ((← escaped ()) :: out)

def literalBody : Scan String := do
  let cs ← takeWhile fun c => isPrintable c && c != '\''
  expect "'"
  return String.ofList cs

/-- The end of a string in three quotes: up to two more may belong to the string. -/
def closing (quote : Char) : Scan (Option Nat) := do
  let n := min 5 ((← rest).takeWhile (· == quote)).length
  if n < 3 then return none
  else do
    skip n
    return some (n - 3)

/-- A backslash at the end of a line takes the line end and the blanks after it away. -/
def joinsLines : Scan Bool := do
  let after := (← rest).dropWhile fun c => c == ' ' || c == '\t'
  match after with
  | '\n' :: _ | '\r' :: '\n' :: _ => do
    iterate () (a := ()) fun _ => do
      blanks
      if ← newline then return .inl () else return .inr ()
    return true
  | _ => return false

def longBasicBody : Scan String := do
  discard newline
  iterate () (a := []) fun (out : List Char) => do
    let out := (← takeWhile fun c => isPrintable c && c != '"' && c != '\\').reverse ++ out
    if ← newline then return .inl ('\n' :: out)
    else if ← eat "\\" then do
      if ← joinsLines then return .inl out else return .inl ((← escaped ()) :: out)
    else match ← closing '"' with
      | some n => return .inr (String.ofList (out.reverse ++ List.replicate n '"'))
      | none => do
        expect "\""
        return .inl ('"' :: out)

def longLiteralBody : Scan String := do
  discard newline
  iterate () (a := []) fun (out : List Char) => do
    let out := (← takeWhile fun c => isPrintable c && c != '\'').reverse ++ out
    if ← newline then return .inl ('\n' :: out)
    else match ← closing '\'' with
      | some n => return .inr (String.ofList (out.reverse ++ List.replicate n '\''))
      | none => do
        expect "'"
        return .inl ('\'' :: out)

end Strings

section Keys

def simpleKey : Scan String := do
  if ← eat "\"" then basicBody
  else if ← eat "'" then literalBody
  else do
    match ← takeWhile isKeyChar with
    | [] => refuse
    | cs => return String.ofList cs

/-- Values nest less deep than this, and keys have fewer parts. -/
def depthLimit : Nat := 80

/-- Names divided by dots. -/
def key : Scan (List String) := do
  let names ← iterate () (a := []) fun (out : List String) => do
    blanks
    let out := (← simpleKey) :: out
    blanks
    if ← eat "." then return .inl out else return .inr out.reverse
  if names.length < depthLimit then return names else refuse

end Keys

section Scalars

/-- Digits with underscores only between two of them, without the underscores. -/
def digits? (base : Nat) : List Char → Option (List Char)
  | [] => none
  | c :: rest =>
    if (Text.digitValue? base c).isNone then none
    else match rest with
      | [] => some [c]
      | '_' :: more => (digits? base more).map (c :: ·)
      | more => (digits? base more).map (c :: ·)

def isDecimalDigits (cs : List Char) : Bool := (digits? 10 cs).isSome

/-- An integer part: no zero in front of other digits. -/
def whole? (cs : List Char) : Option (List Char) :=
  match cs with
  | '0' :: _ :: _ => none
  | _ => digits? 10 cs

def dropSign : List Char → List Char
  | '+' :: cs | '-' :: cs => cs
  | cs => cs

def integer? (cs : List Char) : Option Value :=
  let based (base : Nat) (ds : List Char) : Option Value := do
    let n := Text.ofDigits base (← digits? base ds)
    if n < twoTo 63 then some (.integer n) else none
  match cs with
  | '0' :: 'x' :: ds => based 16 ds
  | '0' :: 'o' :: ds => based 8 ds
  | '0' :: 'b' :: ds => based 2 ds
  | '-' :: ds => do
    let n := Text.ofDigits 10 (← whole? ds)
    if n ≤ twoTo 63 then some (.integer (-(n : Int))) else none
  | _ => do
    let n := Text.ofDigits 10 (← whole? (match cs with
      | '+' :: ds => ds
      | _ => cs))
    if n < twoTo 63 then some (.integer n) else none

/-- Whether a text is a number with a point or an exponent that is not too large. Any number below
zero is small enough. -/
def isReal (text : List Char) : Bool :=
  let cs := dropSign text
  let whole := cs.takeWhile fun c => c.isDigit || c == '_'
  let tail := cs.dropWhile fun c => c.isDigit || c == '_'
  let exponent (cs : List Char) : Bool :=
    match cs with
    | [] => true
    | c :: ds => (c == 'e' || c == 'E') && isDecimalDigits (dropSign ds)
  let shape := (whole? whole).isSome && match tail with
    | [] => false
    | '.' :: ds =>
      isDecimalDigits (ds.takeWhile fun c => c.isDigit || c == '_') &&
        exponent (ds.dropWhile fun c => c.isDigit || c == '_')
    | _ => exponent tail
  cs == ['i', 'n', 'f'] || cs == ['n', 'a', 'n'] ||
    (shape && match Text.literal? (text.filter (· != '_')) with
      | some n => n.negative || !(floatOfDecimal n.digits n.exponent).isInf
      | none => false)

/-- Whether a text has digits where the pattern has a zero, and the pattern's signs elsewhere. -/
def matchesPattern (pattern cs : List Char) : Bool :=
  pattern.length == cs.length && (pattern.zip cs).all fun (p, c) =>
    if p = '0' then c.isDigit else p == c

/-- The number in the two digits from `start` on. -/
def pairAt (start : Nat) (cs : List Char) : Nat := Text.ofDigits 10 ((cs.drop start).take 2)

def daysIn (year month : Nat) : Nat :=
  if month = 2 then if year % 4 = 0 ∧ (year % 100 ≠ 0 ∨ year % 400 = 0) then 29 else 28
  else if month ∈ [4, 6, 9, 11] then 30
  else 31

def isDate (cs : List Char) : Bool :=
  let month := pairAt 5 cs
  let day := pairAt 8 cs
  matchesPattern "0000-00-00".toList cs && 1 ≤ month && month ≤ 12 && 1 ≤ day &&
    day ≤ daysIn (Text.ofDigits 10 (cs.take 4)) month

def isOffset (cs : List Char) : Bool :=
  (matchesPattern "+00:00".toList cs || matchesPattern "-00:00".toList cs) &&
    pairAt 1 cs ≤ 23 && pairAt 4 cs ≤ 59

/-- A time of day with or without a fraction, and with `zoned` also with an offset. A minute may have
one more second. -/
def isTime (zoned : Bool) (cs : List Char) : Bool :=
  let tail := cs.drop 8
  let tail := match tail with
    | '.' :: more => if (more.takeWhile Char.isDigit).isEmpty then tail
      else more.dropWhile Char.isDigit
    | _ => tail
  let zone := tail == [] || (zoned && (tail == ['Z'] || tail == ['z'] || isOffset tail))
  matchesPattern "00:00:00".toList (cs.take 8) && pairAt 0 cs ≤ 23 && pairAt 3 cs ≤ 59 &&
    pairAt 6 cs ≤ 60 && zone

def isMoment (cs : List Char) : Bool :=
  isDate cs || isTime false cs ||
    (isDate (cs.take 10) && ((cs.drop 10).head?.map fun c => c == 'T' || c == 't' || c == ' ').getD
      false && isTime true (cs.drop 11))

def isScalarChar (c : Char) : Bool :=
  c.isAlphanum || c == '_' || c == '+' || c == '-' || c == '.' || c == ':'

/-- A number, a truth value or a date. A date and a time may be divided by a blank. -/
def scalar : Scan Value := do
  let word ← takeWhile isScalarChar
  let word ← do
    let more ← rest
    if isDate word ∧ more.head? = some ' ' ∧ ((more.drop 1).head?.map Char.isDigit).getD false then
      do
        skip 1
        pure (word ++ ' ' :: (← takeWhile isScalarChar))
    else pure word
  if word = "true".toList then return .flag true
  else if word = "false".toList then return .flag false
  else match integer? word with
    | some v => return v
    | none => if isReal word || isMoment word then return .other else refuse

end Scalars

def string? : Scan (Option String) := do
  if ← eat "\"\"\"" then return some (← longBasicBody)
  else if ← eat "\"" then return some (← basicBody)
  else if ← eat "'''" then return some (← longLiteralBody)
  else if ← eat "'" then return some (← literalBody)
  else return none

def listBody (item : Scan Value) : Scan Unit :=
  iterate () (a := true) fun (more : Bool) => do
    spaces
    if ← eat "]" then return .inr ()
    else if more then do
      discard item
      spaces
      return .inl (← eat ",")
    else refuse

def tableBody (item : Scan Value) : Scan Unit := do
  blanks
  if ← eat "\x7d" then pure ()
  else iterate () (a := ([] : Entries)) fun es => do
    let k ← key
    expect "="
    blanks
    let v ← item
    let es ← orRefuse (assign (.leaf v) true k es)
    blanks
    if ← eat "," then return .inl es
    else do
      expect "\x7d"
      return .inr ()

def value : Nat → Scan Value
  | 0 => do
    match ← string? with
    | some s => return .text s
    | none => scalar
  | depth + 1 => do
    match ← string? with
    | some s => return .text s
    | none => do
      if ← eat "[" then do
        listBody (value depth)
        return .other
      else if ← eat "\x7b" then do
        tableBody (value depth)
        return .other
      else scalar

/-- A line of a document: a table's name in brackets or a key with its value. -/
def line (es : Entries) (here : List String) : Scan (Entries × List String) := do
  if ← eat "[[" then do
    let path ← key
    expect "]]"
    let es ← orRefuse (within (openNextTable (path.getLast?.getD "")) path.dropLast es)
    return (es, path)
  else if ← eat "[" then do
    let path ← key
    expect "]"
    let es ← orRefuse (within (openTable (path.getLast?.getD "")) path.dropLast es)
    return (es, path)
  else do
    let k ← key
    expect "="
    blanks
    let v ← value (depthLimit - 1)
    let es ← orRefuse (within (assign (.leaf v) true k) here es)
    return (es, here)

def document : Scan Entries := do
  discard (eat "\ufeff")
  iterate () (a := (([], []) : Entries × List String)) fun (es, here) => do
    spaces
    match ← peek with
    | none => return .inr es
    | some _ => do
      let next ← line es here
      lineRest
      if ← newline then return .inl next
      else match ← peek with
        | none => return .inr next.1
        | some _ => refuse

def Item.value : Item → Value
  | .leaf v => v
  | _ => .other

/-- The values of a document; tables count as values that are of no use. -/
def values? (text : String) : Option Values :=
  match document.run text with
  | .ok es => some (es.map fun (k, item) => (k, item.value))
  | .error _ => none

end EdgeTiling.Settings.Toml
