import EdgeTiling.Pattern.Atom

/-! Classes of characters in brackets. -/

namespace EdgeTiling.Pattern

structure Piece where
  pattern : Pattern
  span : Span
  outline : Outline := .leaf

inductive SetOp
  | both
  | without
  | oneOnly
  deriving DecidableEq, Repr

def SetOp.apply (k l : Class) : SetOp → Class
  | .both => k.inter l
  | .without => k.diff l
  | .oneOnly => k.symmDiff l

def SetOp.ofChar? : Char → Option SetOp
  | '&' => some .both
  | '-' => some .without
  | '~' => some .oneOnly
  | _ => none

structure Elements where
  all : Class := .nothing
  /-- Where they stand, or would stand if there were some. -/
  span : Span
  /-- Their own parts, the last ones first. -/
  parts : List Outline := []
  /-- Whether there are characters among them whose other case has not been looked up. -/
  unfolded : Bool := false

namespace Elements

/-- One more element; `done` says that the cases of its characters have been looked up. -/
def add (es : Elements) (k : Class) (span : Span) (outline : Outline := .leaf)
    (done : Bool := false) : Elements where
  all := es.all.union k
  span := if es.parts.isEmpty then span else ⟨es.span.start, span.stop⟩
  parts := outline :: es.parts
  unfolded := es.unfolded || !done

def outline (es : Elements) : Outline := .row es.span es.parts.reverse

/-- Adds the other cases of all letters, if they count as the same; that is known for ASCII
alone. -/
def fold (es : Elements) : Scan Elements := do
  let f ← flags
  if f.caseless && f.unicode && es.unfolded then blameLater .casesUnknown es.span
  return { es with
    all := if f.caseless then es.all.caseless else es.all
    unfolded := false }

end Elements

structure OpenClass where
  /-- Up to its first element. -/
  span : Span
  negated : Bool
  /-- What stands in front of the last operator. -/
  before : Option (SetOp × Elements) := none
  /-- What stands after it. -/
  elements : Elements

namespace OpenClass

def add (o : OpenClass) (k : Class) (span : Span) (outline : Outline := .leaf)
    (done : Bool := false) : OpenClass :=
  { o with elements := o.elements.add k span outline done }

def joined (o : OpenClass) : Scan Elements := do
  match o.before with
  | none => return o.elements
  | some (op, left) => do
    let right ← o.elements.fold
    let left ← left.fold
    let span : Span := ⟨left.span.start, right.span.stop⟩
    return {
      all := op.apply left.all right.all
      span := span
      parts := [.nest span [left.outline, right.outline]] }

def operator (o : OpenClass) (op : SetOp) : Scan OpenClass := do
  let left ← o.joined
  return { o with before := some (op, left), elements := { span := ← hereSpan } }

end OpenClass

/-- Dashes at the front of a class, which stand for themselves. -/
def leadingDashes (start : Nat) : Nat → Elements → Scan Elements
  | 0, es => return es
  | n + 1, es => do
    if (← peek) = some '-' then do
      let span ← charSpan
      if ← bumpSpace then leadingDashes start n (es.add (.char '-') span)
      else blame .classUnclosed ⟨start, start⟩
    else return es

/-- The opening bracket of a class, and what has a meaning of its own after it. -/
def openClass : Scan OpenClass := do
  let start ← index
  if !(← bumpSpace) then blame .classUnclosed (← spanFrom start)
  else do
    let negated := (← peek) = some '^'
    let more ← if negated then bumpSpace else pure true
    if !more then blame .classUnclosed (← spanFrom start)
    else do
      let dashes ← leadingDashes start (← left) { span := ← hereSpan }
      let bracket := dashes.parts.isEmpty && (← peek) = some ']'
      let span ← charSpan
      let more ← if bracket then bumpSpace else pure true
      if !more then blame .classUnclosed (← spanFrom start)
      else return {
        span := ← spanFrom start
        negated := negated
        elements := if bracket then dashes.add (.char ']') span else dashes }

/-- A class such as `[:alpha:]`, if there is one. -/
def namedClass? : Scan (Option Class) := do
  let before ← get
  if ← bumpIf "[:" then do
    let negated ← bumpIf "^"
    let name ← fun (c : Cursor) => .ok (c.rest.takeWhile (· != ':'), c)
    move name.length
    match Class.named? (String.ofList name), ← bumpIf ":]" with
    | some k, true => return some (k.complementIf negated)
    | _, _ => do
      set before
      return none
  else return none

def classAtom : Scan (Atom × Span) := do
  let start ← index
  match ← peek with
  | some '\\' => do
    let a ← escape
    return (a, ← spanFrom start)
  | some c => do
    discard bump
    return (.literal c, ← spanFrom start)
  | none => blame .classUnclosed ⟨start, start⟩

def rangeBound : Atom × Span → Scan Char
  | (.literal c byte, span) => do
    if !(← flags).unicode && !isAscii c then
      blameLater (if byte then .notText else .unicodeNotAllowed) span
    return c
  | (_, span) => blame .classRangeBound span

def classMember (o : OpenClass) : Scan (Class × Span) := do
  let first ← classAtom
  skipSpace
  if ← atEnd then blame .classUnclosed o.span
  else do
    let second ← peekSecondSpace
    if (← peek) != some '-' || second = some ']' || second = some '-' then
      match first with
      | (.literal _ _, span) => do return (.char (← rangeBound first), span)
      | (.cls k, span) => return (k, span)
      | (_, span) => blame .classEscape span
    else if !(← bumpSpace) then blame .classUnclosed o.span
    else do
      let last ← classAtom
      let a ← rangeBound first
      let b ← rangeBound last
      let span : Span := ⟨first.2.start, last.2.stop⟩
      if a ≤ b then return (.range a b, span) else blame .classRange span

def closeClass (o : OpenClass) : Scan Piece := do
  let f ← flags
  discard bump
  let span ← spanFrom o.span.start
  let inside ← o.joined
  let folded ← { inside with span := span : Elements }.fold
  let k := folded.all.complementIf o.negated
  if !f.unicode && !k.isAscii then blameLater .notText span
  return ⟨.one k, span, .nest span [inside.outline]⟩

/-- Goes on with the innermost open class; the others are around it. -/
def classBody : Nat → OpenClass → List OpenClass → Scan Piece
  | 0, o, _ => blame .classUnclosed o.span
  | n + 1, o, outer => do
    skipSpace
    let start ← index
    let second ← peekSecond
    match ← peek with
    | none => blame .classUnclosed o.span
    | some '[' => do
      match ← namedClass? with
      | some k => classBody n (o.add k (← spanFrom start)) outer
      | none => do
        let inner ← openClass
        classBody n inner (o :: outer)
    | some ']' => do
      let p ← closeClass o
      match outer with
      | [] => return p
      | around :: outer =>
        let k := p.pattern.class?.getD .nothing
        classBody n (around.add k p.span p.outline true) outer
    | some c =>
      match if second = some c then SetOp.ofChar? c else none with
      | some op => do
        move 2
        classBody n (← o.operator op) outer
      | none => do
        let (k, span) ← classMember o
        classBody n (o.add k span) outer

def bracketed : Scan Piece := do
  let o ← openClass
  classBody (← left) o []

end EdgeTiling.Pattern
