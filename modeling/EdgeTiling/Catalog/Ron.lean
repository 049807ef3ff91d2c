import EdgeTiling.Catalog
import EdgeTiling.Number
import EdgeTiling.Text.Reader

/-! Catalog documents in RON, the notation of records in round brackets. -/

namespace EdgeTiling.Catalog

open EdgeTiling.Reader

namespace Ron

/-- Reading stops at the first fault, whatever it is. -/
abbrev Scan (α : Type) := Reader Unit α

variable {α κ : Type}

def refuse : Scan α := fail ()

def expect (word : String) : Scan Unit := do
  if ← eat word then pure () else refuse

section Blanks

def isSpace (c : Char) : Bool := c == ' ' || c == '\n' || c == '\t' || c == '\r'

/-- The rest of a comment between `/*` and `*/`; comments nest. -/
def blockComment : Scan Unit :=
  iterate () (a := 1) fun (depth : Nat) => do
    if depth = 0 then return .inr ()
    else do
      skipWhile fun c => c != '/' && c != '*'
      if ← eat "/*" then return .inl (depth + 1)
      else if ← eat "*/" then return .inl (depth - 1)
      else do
        skip 1
        return .inl depth

def blanks : Scan Unit :=
  iterate () (a := ()) fun _ => do
    skipWhile isSpace
    if ← eat "//" then do
      skipWhile (· != '\n')
      return .inl ()
    else if ← eat "/*" then do
      blockComment
      return .inl ()
    else if (← peek) = some '/' then refuse
    else return .inr ()

def comma : Scan Bool := do
  blanks
  if ← eat "," then do
    blanks
    return true
  else return false

end Blanks

section Names

def isNameChar (c : Char) : Bool := c.isAlphanum || c == '_'

def isRawNameChar (c : Char) : Bool := isNameChar c || c == '.' || c == '+' || c == '-'

/-- A name, plain or marked as raw by `r#`. -/
def name : Scan String := do
  if ← eat "r#" then do
    match ← takeWhile isRawNameChar with
    | [] => refuse
    | cs => return String.ofList cs
  else do
    match ← takeWhile isNameChar with
    | [] => refuse
    | c :: cs => if c.isDigit then refuse else return String.ofList (c :: cs)

/-- Takes `word` off if it stands there as a whole name. -/
def eatName (word : String) : Scan Bool := do
  let after := (← rest).drop word.length
  if (after.head?.map isNameChar).getD false then return false else eat word

end Names

section Strings

/-- Up to six hexadecimal digits in braces. -/
def unicodeEscape : Scan Char := do
  expect "\x7b"
  let ds := (← rest).takeWhile Text.isHexDigit
  let n := Text.ofDigits 16 ds
  if ds.length = 0 ∨ 6 < ds.length then refuse
  else do
    skip ds.length
    expect "\x7d"
    if n.isValidChar then return Char.ofNat n else refuse

def escaped : Scan Char := do
  match ← peek with
  | none => refuse
  | some c => do
    skip 1
    match c with
    | '\'' => return '\''
    | '"' => return '"'
    | '\\' => return '\\'
    | 'n' => return '\n'
    | 'r' => return '\r'
    | 't' => return '\t'
    | '0' => return Char.ofNat 0
    | 'x' => do
      let ds := (← rest).take 2
      if ds.length = 2 ∧ ds.all Text.isHexDigit then do
        skip 2
        return Char.ofNat (Text.ofDigits 16 ds)
      else refuse
    | 'u' => unicodeEscape
    | _ => refuse

def stringBody : Scan String :=
  iterate () (a := []) fun (out : List Char) => do
    let out := (← takeWhile fun c => c != '"' && c != '\\').reverse ++ out
    if ← eat "\"" then return .inr (String.ofList out.reverse)
    else do
      expect "\\"
      return .inl ((← escaped) :: out)

/-- The text in front of the first place where `mark` stands. -/
def upTo (mark : List Char) : List Char → Option (List Char)
  | [] => if mark.isEmpty then some [] else none
  | c :: cs => if mark.isPrefixOf (c :: cs) then some [] else (upTo mark cs).map (c :: ·)

/-- A raw string after its `r`: no escapes, and as many `#` at the end as at the front. -/
def rawBody : Scan String := do
  let fence ← takeWhile (· == '#')
  expect "\""
  match upTo ('"' :: fence) (← rest) with
  | none => refuse
  | some body => do
    skip (body.length + 1 + fence.length)
    return String.ofList body

def string : Scan String := do
  if ← eat "\"" then stringBody
  else do
    expect "r"
    rawBody

def character : Scan Char := do
  expect "'"
  match ← peek with
  | none => refuse
  | some '\'' => refuse
  | some '\\' => do
    skip 1
    let c ← escaped
    expect "'"
    return c
  | some c => do
    skip 1
    expect "'"
    return c

end Strings

def infinity : Float32 := .ofBits 0x7f800000

def notANumber : Float32 := .ofBits 0x7fc00000

def isFloatChar (c : Char) : Bool :=
  c.isDigit || c == 'e' || c == 'E' || c == '.' || c == '+' || c == '-' || c == '_'

def float : Scan Float32 := do
  if ← eatName "inf" then return infinity
  else if ← eatName "+inf" then return infinity
  else if ← eatName "-inf" then return -infinity
  else if ← eatName "NaN" then return notANumber
  else if ← eatName "+NaN" then return notANumber
  else if ← eatName "-NaN" then return notANumber
  else do
    match Text.literal? (← takeWhile isFloatChar) with
    | none => refuse
    | some n =>
      let x := float32OfDecimal n.digits n.exponent
      return if n.negative then -x else x

/-- Whether the next thing in brackets is their end; without a comma there can be nothing else. -/
def atEnd (close : Char) (comma : Bool) : Scan Bool := do
  blanks
  if (← peek) = some close then return true
  else if comma then return false
  else refuse

/-- A record in round brackets, with or without its type's name in front. -/
def record (type : String) (start : κ) (field : κ → String → Scan κ) (finish : κ → Option α) :
    Scan α := do
  if ((← peek).map isNameChar).getD false then do
    if (← name) = type then blanks else refuse
  expect "("
  let k ← iterate () (a := (true, start)) fun (more, k) => do
    if ← atEnd ')' more then do
      skip 1
      return .inr k
    else do
      let f ← name
      blanks
      expect ":"
      blanks
      let k ← field k f
      return .inl (← comma, k)
  match finish k with
  | some a => return a
  | none => refuse

def list (item : Scan α) : Scan (List α) := do
  expect "["
  iterate () (a := (true, ([] : List α))) fun (more, out) => do
    if ← atEnd ']' more then do
      skip 1
      return .inr out.reverse
    else do
      let a ← item
      return .inl (← comma, a :: out)

/-- Goes past `Some` and the bracket after it. A `Some` without a bracket is passed over too. -/
def openSome : Scan Bool := do
  if ← eat "Some" then do
    blanks
    eat "("
  else return false

/-- A value that may be missing. It stands inside `Some`, or, if `bare`, by itself. -/
def optional (bare : Bool) (value : Scan α) : Scan (Option α) := do
  if ← eat "None" then return none
  else if ← openSome then do
    blanks
    let a ← value
    discard comma
    expect ")"
    return some a
  else if bare then return some (← value)
  else refuse

def once (seen : Option α) (value : Scan α) : Scan (Option α) := do
  if seen.isSome then refuse else return some (← value)

def edges : Scan (Sides String) :=
  record "EdgeData" ({} : EdgeDraft)
    (fun d f => do
      match f with
      | "up" => return { d with up := ← once d.up string }
      | "down" => return { d with down := ← once d.down string }
      | "left" => return { d with left := ← once d.left string }
      | "right" => return { d with right := ← once d.right string }
      | _ => refuse)
    EdgeDraft.sides?

def entry (bare : Bool) : Scan Entry :=
  record "TileData" ({} : Draft)
    (fun d f => do
      match f with
      | "name" => return { d with name := ← once d.name string }
      | "edges" => return { d with edges := ← once d.edges edges }
      | "weight" => return { d with weight := ← once d.weight float }
      | "glyph" => return { d with glyph := ← once d.glyph (optional bare character) }
      | _ => refuse)
    Draft.entry?

def words : List String → Scan Unit
  | [] => pure ()
  | w :: more => do
    expect w
    blanks
    words more

def extensions : List String := ["unwrap_newtypes", "implicit_some", "unwrap_variant_newtypes"]

def attributes : Scan (List String) :=
  iterate () (a := []) fun (seen : List String) => do
    blanks
    if (← peek) = some '#' then do
      words ["#", "!", "[", "enable", "("]
      let found ← iterate () (a := seen) fun (seen : List String) => do
        let x ← name
        if x ∉ extensions then refuse
        else do
          let more ← comma
          let another := ((← peek).map isNameChar).getD false
          if more ∧ another then return .inl (x :: seen)
          else if another then refuse
          else return .inr (x :: seen)
      words [")", "]"]
      return .inl found
    else return .inr seen

def document : Scan (List Entry) := do
  let bare := (← attributes).contains "implicit_some"
  let entries ← record "CatalogFile" none
    (fun d f => do
      match f with
      | "tiles" => once d (list (entry bare))
      | _ => refuse)
    id
  blanks
  match ← peek with
  | none => return entries
  | some _ => refuse

end Ron

def ronEntries (text : String) : Except Unit (List Entry) := Ron.document.run text

end EdgeTiling.Catalog
