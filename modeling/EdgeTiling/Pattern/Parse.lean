import EdgeTiling.Pattern.Bracket
import EdgeTiling.Number
import EdgeTiling.Text.Character

/-! Reading regular expressions. -/

namespace EdgeTiling.Pattern

section Groups

/-- A sequence of pieces, the last one first, and the sequences in front of it that stand to choice.
A change of flags is nothing that can be repeated. -/
structure Row where
  pieces : List (Option Piece) := []
  choices : List Piece := []
  /-- Where the sequence starts. -/
  start : Nat := 0
  /-- Where the first one to choose from starts. -/
  first : Nat := 0

namespace Row

def startingAt (i : Nat) : Row := { start := i, first := i }

def push (r : Row) (p : Option Piece) : Row := { r with pieces := p :: r.pieces }

def sequence (r : Row) (stop : Nat) : Piece where
  pattern := (r.pieces.filterMap id).foldl (fun later p => p.pattern.append later) .empty
  span := ⟨r.start, stop⟩
  outline := .row ⟨r.start, stop⟩
    (r.pieces.reverse.map fun p => (p.map Piece.outline).getD .leaf)

/-- Goes on with another sequence to choose from, which starts after the index `stop`. -/
def branch (r : Row) (stop : Nat) : Row :=
  { r with pieces := [], choices := r.sequence stop :: r.choices, start := stop + 1 }

def whole (r : Row) (stop : Nat) : Piece :=
  let all := (r.sequence stop :: r.choices).reverse
  { pattern := choose (all.map Piece.pattern)
    span := ⟨r.first, stop⟩
    outline := .row ⟨r.first, stop⟩ (all.map Piece.outline) }

end Row

structure OpenGroup where
  /-- All that stands in front of it. -/
  row : Row
  span : Span
  flags : Flags
  /-- Whether its place in the text can be asked for. -/
  captures : Bool

structure Draft where
  row : Row := {}
  outer : List OpenGroup := []

def Draft.push (d : Draft) (p : Piece) : Draft := { d with row := d.row.push (some p) }

structure FlagItem where
  flag : Option Char
  span : Span

def isFlag (c : Char) : Bool := "imsUuRx".toList.contains c

def flagItems : Nat → List FlagItem → Scan (List FlagItem)
  | 0, items => return items
  | n + 1, items => do
    let span ← charSpan
    match ← peek with
    | none => blame .flagUnfinished (← hereSpan)
    | some c =>
      if c = ':' ∨ c = ')' then
        match items with
        | ⟨none, span⟩ :: _ => blame .flagDangling span
        | _ => return items
      else do
        let flag := if c = '-' then none else some c
        if c != '-' && !isFlag c then blame .flagUnknown span
        else match items.find? fun i => i.flag == flag with
          | some i => blame (if c = '-' then .flagNegatedTwice i.span else .flagTwice i.span) span
          | none => do
            if ← bump then flagItems n (⟨flag, span⟩ :: items)
            else blame .flagUnfinished (← hereSpan)

/-- The flags after a list of changes, of which the latest comes first. -/
def applyFlags (items : List FlagItem) (f : Flags) : Flags :=
  (items.reverse.foldl (fun (f, on) i =>
    match i.flag with
    | none => (f, false)
    | some c => (Flags.set f on c, on)) (f, true)).1

def isNameChar (first : Bool) (c : Char) : Bool :=
  c == '_' || Text.letters.holds c ||
    (!first && (Text.numbers.holds c || c == '.' || c == '[' || c == ']'))

def nameChars : Nat → Bool → Scan (List Char)
  | 0, _ => return []
  | n + 1, first => do
    match ← peek with
    | none => return []
    | some c =>
      if c = '>' then return []
      else if isNameChar first c then do
        discard bump
        return c :: (← nameChars n false)
      else blame .nameInvalid (← charSpan)

def groupName : Scan Unit := do
  let start ← index
  let name ← nameChars (← left) true
  let span ← spanFrom start
  if ← atEnd then blame .nameUnfinished (← hereSpan)
  else do
    discard bump
    if name = [] then blame .nameEmpty ⟨start, start⟩
    else
      let name := String.ofList name
      match (← get).names.lookup name with
      | some first => blame (.nameTwice first) span
      | none => modify fun c => { c with names := (name, span) :: c.names }

def lookAround : Scan Bool := do
  if ← bumpIf "?=" then return true
  else if ← bumpIf "?!" then return true
  else if ← bumpIf "?<=" then return true
  else bumpIf "?<!"

/-- The opening bracket of a group, or a change of flags. -/
def openGroup (d : Draft) : Scan Draft := do
  let start ← index
  let span ← charSpan
  let before ← flags
  let opened (captures : Bool) : Scan Draft := do
    return { row := .startingAt (← index), outer := ⟨d.row, span, before, captures⟩ :: d.outer }
  move 1
  skipSpace
  if ← lookAround then blame .lookAround (← spanFrom start)
  else do
    let inner ← hereSpan
    let named ← do
      if ← bumpIf "?P<" then pure true else bumpIf "?<"
    if named then do
      groupName
      opened true
    else if ← bumpIf "?" then do
      if ← atEnd then blame .groupUnclosed span
      else do
        let items ← flagItems (← left) []
        let last ← peek
        discard bump
        if last = some ')' then
          if items.isEmpty then blame .nothingToRepeat inner
          else do
            setFlags (applyFlags items before)
            return { d with row := d.row.push none }
        else do
          setFlags (applyFlags items before)
          opened false
    else opened true

def closeGroup (d : Draft) : Scan Draft := do
  match d.outer with
  | [] => blame .groupUnopened (← charSpan)
  | g :: outer => do
    setFlags g.flags
    let inside := d.row.whole (← index)
    move 1
    let span ← spanFrom g.span.start
    let p : Piece :=
      { pattern := if g.captures then .group inside.pattern else inside.pattern
        span := span
        outline := .nest span [inside.outline] }
    return { row := g.row.push (some p), outer := outer }

end Groups

section Repetitions

/-- The last piece, which is to be repeated, and the draft without it. -/
def lastPiece (d : Draft) : Scan (Piece × Draft) := do
  match d.row.pieces with
  | some p :: pieces => return (p, { d with row := { d.row with pieces := pieces } })
  | _ => blame .nothingToRepeat (← hereSpan)

def repeatPiece (p : Piece) (least : Nat) (most : Option Nat) : Scan Piece := do
  let span ← spanFrom p.span.start
  return ⟨p.pattern.times least most, span, .nest span [p.outline]⟩

/-- A sign for repetition, perhaps with a question mark, which does not change what is found. -/
def repeatSign (least : Nat) (most : Option Nat) (d : Draft) : Scan Draft := do
  let (p, d) ← lastPiece d
  if (← bump) && (← peek) = some '?' then move 1
  return d.push (← repeatPiece p least most)

/-- A number of 32 bits with blanks around it, or what is wrong with it. -/
def decimal : Scan (Except Fault Nat) := do
  move (← fun (c : Cursor) => .ok ((c.rest.takeWhile Text.isBlank).length, c))
  let start ← index
  let digits ← takeChars Char.isDigit (← left)
  let span ← spanFrom start
  discard (takeChars Text.isBlank (← left))
  if digits = [] then return .error ⟨.decimalEmpty, span⟩
  else
    let n := Text.ofDigits 10 digits
    if n < twoTo 32 then return .ok n else return .error ⟨.decimalInvalid, span⟩

def orBlame : Except Fault Nat → Scan Nat
  | .ok n => return n
  | .error f => blame f.problem f.span

def bounds (start : Nat) : Scan (Nat × Option Nat) := do
  if !(← bumpSpace) then blame .countUnclosed (← spanFrom start)
  else do
    let least ← decimal
    match ← peek with
    | none => blame .countUnclosed (← spanFrom start)
    | some ',' => do
      if !(← bumpSpace) then blame .countUnclosed (← spanFrom start)
      else if (← peek) = some '\x7d' then return (← orBlame least, none)
      else do
        let least ← orBlame least
        return (least, some (← orBlame (← decimal)))
    | some _ => do
      let n ← orBlame least
      return (n, some n)

def repeatBounds (d : Draft) : Scan Draft := do
  let start ← index
  let (p, d) ← lastPiece d
  let (least, most) ← bounds start
  if (← peek) != some '\x7d' then blame .countUnclosed (← spanFrom start)
  else do
    if (← bumpSpace) && (← peek) = some '?' then move 1
    if (most.map fun n => decide (n < least)).getD false then
      blame .countInvalid (← spanFrom start)
    else return d.push (← repeatPiece p least most)

end Repetitions

def body : Nat → Draft → Scan Piece
  | 0, d => do return d.row.whole (← index)
  | n + 1, d => do
    skipSpace
    let start ← index
    let atom (a : Atom) : Scan Draft := do
      let span ← spanFrom start
      return d.push ⟨← meaning span a, span, .leaf⟩
    match ← peek with
    | none =>
      match d.outer with
      | [] => return d.row.whole start
      | g :: _ => blame .groupUnclosed g.span
    | some c => do
      let next ← match c with
        | '(' => openGroup d
        | ')' => closeGroup d
        | '|' => do
          move 1
          pure { d with row := d.row.branch start }
        | '[' => do pure (d.push (← bracketed))
        | '?' => repeatSign 0 (some 1) d
        | '*' => repeatSign 0 none d
        | '+' => repeatSign 1 none d
        | '\x7b' => repeatBounds d
        | '\\' => do
          let a ← escape
          atom a
        | '.' => do
          move 1
          atom .dot
        | '^' => do
          move 1
          atom .lineStart
        | '$' => do
          move 1
          atom .lineEnd
        | c => do
          move 1
          atom (.literal c)
      body n next

/-- The greatest number of parts of an expression that are in one another. -/
def depthLimit : Nat := 250

/-- The pattern that a regular expression describes. Its form is looked at first, then its depth,
and last the meaning of its parts. -/
def parse (text : String) : Except Fault Pattern :=
  match body (text.length + 1) {} { rest := text.toList } with
  | .error f => .error f
  | .ok (p, c) =>
    match p.outline.beyond? depthLimit, c.late with
    | some span, _ => .error ⟨.tooDeep depthLimit, span⟩
    | none, some f => .error f
    | none, none => .ok p.pattern

end EdgeTiling.Pattern
