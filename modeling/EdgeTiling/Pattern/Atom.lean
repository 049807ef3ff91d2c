import EdgeTiling.Pattern
import EdgeTiling.Pattern.Cursor
import EdgeTiling.Text.Reader

/-! The smallest elements of regular expressions: characters, classes and places. -/

namespace EdgeTiling.Pattern

inductive Atom
  /-- A character; `byte` says that it is given as the number of a byte. -/
  | literal (c : Char) (byte : Bool := false)
  | cls (k : Class)
  | dot
  | lineStart
  | lineEnd
  | textStart
  | textEnd
  | edge (e : Edge)

def isAscii (c : Char) : Bool := c.toNat < 0x80

def isMeta (c : Char) : Bool := "\\.+*?()|[]\x7b\x7d^$#&-~".toList.contains c

/-- ASCII characters that stand for themselves after a backslash though they need none. -/
def isEscapable (c : Char) : Bool :=
  isMeta c || (isAscii c && !c.isAlphanum && c != '<' && c != '>')

def numbered (digits : List Char) (byte : Bool) (span : Span) : Scan Atom := do
  let n := Text.ofDigits 16 digits
  if n.isValidChar then return .literal (Char.ofNat n) byte else blame .hexInvalid span

def hexDigits : Nat → Bool → Scan (List Char)
  | 0, _ => return []
  | n + 1, first => do
    let more ← if first then pure true else bumpSpace
    if !more then blame .escapeUnfinished (← hereSpan)
    else match ← peek with
      | some c =>
        if Text.isHexDigit c then return c :: (← hexDigits n false)
        else blame .hexDigit (← charSpan)
      | none => blame .escapeUnfinished (← hereSpan)

def hexFixed (count : Nat) : Scan Atom := do
  let start ← index
  let digits ← hexDigits count true
  discard bumpSpace
  numbered digits (count = 2) (← spanFrom start)

def hexBraced : Scan Atom := do
  let brace ← index
  discard bumpSpace
  let digits ← takeChars Text.isHexDigit (← left)
  match ← peek with
  | none => blame .escapeUnfinished (← spanFrom brace)
  | some c =>
    if c != '\x7d' then blame .hexDigit (← charSpan)
    else do
      let stop ← index
      discard bumpSpace
      if digits = [] then blame .hexEmpty (← spanFrom brace)
      else numbered digits false ⟨brace + 1, stop⟩

/-- A character by its number, after the letter that says so. -/
def hexEscape (count : Nat) : Scan Atom := do
  if ← bumpSpace then
    if (← peek) = some '\x7b' then hexBraced else hexFixed count
  else blame .escapeUnfinished (← hereSpan)

/-- The name of a property without what does not count in it. -/
def plainName (name : String) : String :=
  let named := if name.map Char.toLower |>.startsWith "is" then name.drop 2 |>.toString else name
  String.ofList ((named.toList.filter fun c =>
    isAscii c && c != ' ' && c != '_' && c != '-').map Char.toLower)

/-- Names that stand for a value though a property has the same one. -/
def valueNames : List String := ["cf", "sc", "lc"]

/-- A class by its property, of which none is known. -/
def propertyEscape : Scan Atom := do
  let property (name : String) (start : Nat) : Scan Atom := do
    let problem :=
      if !(← flags).unicode then .unicodeNotAllowed
      else if valueNames.contains (plainName name) then .propertyValueUnknown
      else .propertyUnknown
    blameLater problem (← spanFrom start)
    return .cls .nothing
  let start ← index
  if ← bumpSpace then
    match ← peek with
    | some '\x7b' => do
      discard bumpSpace
      let name ← takeChars (· != '\x7d') (← left)
      if ← atEnd then blame .escapeUnfinished (← hereSpan)
      else do
        discard bump
        property (String.ofList name) (start - 1)
    | some '\\' => blame .propertyLetter (← charSpan)
    | some c => do
      discard bumpSpace
      property c.toString (start - 1)
    | none => blame .escapeUnfinished (← hereSpan)
  else blame .escapeUnfinished (← hereSpan)

/-- One of the classes with a letter of their own, which are known for ASCII alone. -/
def letterClass (start : Nat) (letter : Char) : Scan Atom := do
  discard bump
  let span ← spanFrom start
  if (← flags).unicode then do
    blameLater .letterClassUnknown span
    return .cls .nothing
  else do
    if letter.isUpper then blameLater .notText span
    let name := match letter.toLower with
      | 'd' => "digit"
      | 's' => "space"
      | _ => "word"
    return .cls (((Class.named? name).getD .nothing).complementIf letter.isUpper)

def isEdgeLetter (c : Char) : Bool := c.isAlpha || c == '-'

/-- The kind of the edge of a word in braces; what starts otherwise is a number of repetitions. -/
def edgeInBraces (start : Nat) : Scan Edge := do
  let before ← get
  let brace ← index
  if ← bumpSpace then
    let inner ← index
    if !((← peek).map isEdgeLetter).getD false then do
      set before
      return .either
    else do
      let name ← takeChars isEdgeLetter (← left)
      if (← peek) != some '\x7d' then blame .edgeUnclosed (← spanFrom brace)
      else do
        let span ← spanFrom inner
        discard bump
        match String.ofList name with
        | "start" => return .start
        | "end" => return .stop
        | "start-half" => return .startHalf
        | "end-half" => return .stopHalf
        | _ => blame .edgeUnknown span
  else blame .edgeUnfinished (← spanFrom start)

def escape : Scan Atom := do
  let start ← index
  if ← bump then
    match ← peek with
    | none => blame .escapeUnfinished (← spanFrom start)
    | some c =>
      if c.isDigit then blame .backreference ⟨start, start + 2⟩
      else if c = 'x' then hexEscape 2
      else if c = 'u' then hexEscape 4
      else if c = 'U' then hexEscape 8
      else if c = 'p' ∨ c = 'P' then propertyEscape
      else if "dswDSW".toList.contains c then letterClass start c
      else do
        discard bump
        if isEscapable c then return .literal c
        else match c with
          | 'a' => return .literal '\x07'
          | 'f' => return .literal '\x0c'
          | 't' => return .literal '\t'
          | 'n' => return .literal '\n'
          | 'r' => return .literal '\r'
          | 'v' => return .literal '\x0b'
          | 'A' => return .textStart
          | 'z' => return .textEnd
          | 'b' =>
            if (← peek) = some '\x7b' then return .edge (← edgeInBraces start)
            else return .edge .either
          | 'B' => return .edge .neither
          | '<' => return .edge .start
          | '>' => return .edge .stop
          | _ => blame .escapeUnknown (← spanFrom start)
  else blame .escapeUnfinished (← spanFrom start)

def meaning (span : Span) (a : Atom) : Scan Pattern := do
  let f ← flags
  match a with
  | .literal c byte => do
    if byte && !f.unicode && !isAscii c then blameLater .notText span
    if f.caseless && f.unicode then blameLater .casesUnknown span
    return .one (if f.caseless then (Class.char c).caseless else .char c)
  | .cls k => return .one k
  | .dot => do
    if !f.unicode then blameLater .notText span
    let ends := if f.carriage then (Class.char '\r').union (.char '\n') else .char '\n'
    return .one (if f.dotAll then Class.nothing.complement else ends.complement)
  | .lineStart =>
    return .place (if f.multiline then .lineStart f.carriage else .textStart)
  | .lineEnd =>
    return .place (if f.multiline then .lineEnd f.carriage else .textEnd)
  | .textStart => return .place .textStart
  | .textEnd => return .place .textEnd
  | .edge e => return .place (if f.unicode then .wideEdge else .edge e)

end EdgeTiling.Pattern
