/-! How the parts of a regular expression are nested, what is wrong with it, and how that is shown. -/

namespace EdgeTiling.Pattern

/-- A part of a text: the index of its first character and the one after its last. -/
structure Span where
  start : Nat
  stop : Nat
  deriving DecidableEq, Repr

inductive Outline
  | leaf
  | nest (span : Span) (parts : List Outline)

namespace Outline

/-- The first part with more than so many around it, itself included. -/
def beyond? : Nat → Outline → Option Span
  | _, .leaf => none
  | 0, .nest span _ => some span
  | n + 1, .nest _ parts => parts.findSome? (beyond? n)

/-- Parts next to each other: one alone is what it is. -/
def row (span : Span) : List Outline → Outline
  | [] => .leaf
  | [o] => o
  | parts => .nest span parts

end Outline

inductive Problem
  | classEscape
  | classRange
  | classRangeBound
  | classUnclosed
  | decimalInvalid
  | decimalEmpty
  | hexEmpty
  | hexInvalid
  | hexDigit
  | escapeUnfinished
  | escapeUnknown
  | flagDangling
  | flagTwice (first : Span)
  | flagNegatedTwice (first : Span)
  | flagUnfinished
  | flagUnknown
  | nameTwice (first : Span)
  | nameEmpty
  | nameInvalid
  | nameUnfinished
  | groupUnclosed
  | groupUnopened
  | countInvalid
  | countUnclosed
  | nothingToRepeat
  | edgeUnclosed
  | edgeUnknown
  | edgeUnfinished
  | propertyLetter
  | backreference
  | lookAround
  | unicodeNotAllowed
  | notText
  | propertyUnknown
  | propertyValueUnknown
  | letterClassUnknown
  | casesUnknown
  | tooDeep (limit : Nat)
  deriving DecidableEq, Repr

def Problem.text : Problem → String
  | .classEscape => "invalid escape sequence found in character class"
  | .classRange => "invalid character class range, the start must be <= the end"
  | .classRangeBound => "invalid range boundary, must be a literal"
  | .classUnclosed => "unclosed character class"
  | .decimalInvalid => "decimal literal invalid"
  | .decimalEmpty => "repetition quantifier expects a valid decimal"
  | .hexEmpty => "hexadecimal literal empty"
  | .hexInvalid => "hexadecimal literal is not a Unicode scalar value"
  | .hexDigit => "invalid hexadecimal digit"
  | .escapeUnfinished => "incomplete escape sequence, reached end of pattern prematurely"
  | .escapeUnknown => "unrecognized escape sequence"
  | .flagDangling => "dangling flag negation operator"
  | .flagTwice _ => "duplicate flag"
  | .flagNegatedTwice _ => "flag negation operator repeated"
  | .flagUnfinished => "expected flag but got end of regex"
  | .flagUnknown => "unrecognized flag"
  | .nameTwice _ => "duplicate capture group name"
  | .nameEmpty => "empty capture group name"
  | .nameInvalid => "invalid capture group character"
  | .nameUnfinished => "unclosed capture group name"
  | .groupUnclosed => "unclosed group"
  | .groupUnopened => "unopened group"
  | .countInvalid => "invalid repetition count range, the start must be <= the end"
  | .countUnclosed => "unclosed counted repetition"
  | .nothingToRepeat => "repetition operator missing expression"
  | .edgeUnclosed =>
    "special word boundary assertion is either unclosed or contains an invalid character"
  | .edgeUnknown =>
    "unrecognized special word boundary assertion, valid choices are: start, end, start-half or end-half"
  | .edgeUnfinished =>
    "found either the beginning of a special word boundary or a bounded repetition on a \\b with an opening brace, but no closing brace"
  | .propertyLetter => "invalid Unicode character class"
  | .backreference => "backreferences are not supported"
  | .lookAround => "look-around, including look-ahead and look-behind, is not supported"
  | .unicodeNotAllowed => "Unicode not allowed here"
  | .notText => "pattern can match invalid UTF-8"
  | .propertyUnknown => "Unicode property not found"
  | .propertyValueUnknown => "Unicode property value not found"
  | .letterClassUnknown =>
    "Unicode-aware Perl class not found (make sure the unicode-perl feature is enabled)"
  | .casesUnknown =>
    "Unicode-aware case insensitivity matching is not available (make sure the unicode-case feature is enabled)"
  | .tooDeep limit => s!"exceed the maximum number of nested parentheses/brackets ({limit})"

def Problem.first? : Problem → Option Span
  | .flagTwice s | .flagNegatedTwice s | .nameTwice s => some s
  | _ => none

structure Fault where
  problem : Problem
  span : Span
  deriving DecidableEq, Repr

/-- The parts of the text that are wrong, in the order in which they stand there. -/
def Fault.spans (f : Fault) : List Span :=
  match f.problem.first? with
  | some s => if s.start ≤ f.span.start then [s, f.span] else [f.span, s]
  | none => [f.span]

/-- A line of a text and a place in it, both counted from one. -/
structure Position where
  line : Nat
  column : Nat
  deriving DecidableEq, Repr

def Position.ofIndex (text : List Char) (i : Nat) : Position :=
  let before := text.take i
  ⟨before.count '\n' + 1, (before.reverse.takeWhile (· != '\n')).length + 1⟩

/-- Marks under the columns of some parts, of which each has at least one. -/
def marks : Nat → List (Position × Position) → String
  | _, [] => ""
  | i, (a, b) :: rest =>
    let width := max 1 (b.column - a.column)
    "".pushn ' ' (a.column - i) ++ "".pushn '^' width ++ marks (max i a.column + width) rest

/-- The lines of a text; a line feed at the end opens no other. -/
def textLines (text : String) : List String :=
  let all := text.splitOn "\n"
  let inner := all.dropLast.map fun l => (l.dropSuffix "\r").toString
  if all.getLast? = some "" then inner else inner ++ all.getLast?.toList

/-- The text with marks under the parts that are wrong, and what is wrong with them. Several lines
are numbered and stand between rules, and parts that go on from line to line are named in words. -/
def Fault.message (text : String) (f : Fault) : String :=
  let cs := text.toList
  let lines := textLines text
  let parts := f.spans.map fun s => (Position.ofIndex cs s.start, Position.ofIndex cs s.stop)
  let long := parts.filter fun (a, b) => a.line != b.line
  let several := cs.contains '\n'
  let count := lines.length + if text.endsWith "\n" then 1 else 0
  let width := if count ≤ 1 then 0 else (toString count).length
  let label (i : Nat) : String :=
    if width = 0 then "    "
    else "".pushn ' ' (width - (toString i).length) ++ toString i ++ ": "
  let shown := (lines.zipIdx 1).flatMap fun (l, i) =>
    let here := parts.filter fun (a, b) => a.line = i ∧ b.line = i
    let under := "".pushn ' ' (if width = 0 then 4 else width + 2) ++ marks 1 here
    (label i ++ l) :: if here.isEmpty then [] else [under]
  let rule := if several then ["".pushn '~' 79] else []
  let notes := long.map fun (a, b) =>
    s!"on line {a.line} (column {a.column}) through line {b.line} (column {b.column - 1})"
  String.intercalate "\n"
    (["regex parse error:"] ++ rule ++ shown ++ rule ++ notes ++ [s!"error: {f.problem.text}"])

end EdgeTiling.Pattern
