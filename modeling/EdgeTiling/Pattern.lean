import EdgeTiling.Text.Character

/-! Regular expressions: classes of characters, patterns put together from them, and the texts that
these occur in. -/

namespace EdgeTiling

namespace Pattern

open Text (Ranges)

structure Class where
  ranges : Ranges
  deriving DecidableEq, Repr

namespace Class

/-- Joins ranges that meet or overlap; they ascend by their first code points. -/
def glue : Ranges → Ranges
  | [] => []
  | [r] => [r]
  | (a, b) :: (c, d) :: rest =>
    if c ≤ b + 1 then glue ((a, max b d) :: rest) else (a, b) :: glue ((c, d) :: rest)
termination_by rs => rs.length

/-- The code points from `start` on that are in none of the ranges. -/
def gaps (start : Nat) : Ranges → Ranges
  | [] => if start ≤ 0x10ffff then [(start, 0x10ffff)] else []
  | (a, b) :: rest => (if start < a then [(start, a - 1)] else []) ++ gaps (b + 1) rest

def nothing : Class := ⟨[]⟩

def range (first last : Char) : Class := ⟨[(first.toNat, last.toNat)]⟩

def char (c : Char) : Class := range c c

def accepts (k : Class) (c : Char) : Bool := k.ranges.holds c

def isEmpty (k : Class) : Bool := k.ranges.isEmpty

def isAscii (k : Class) : Bool := k.ranges.all fun (_, last) => last < 0x80

/-- The character of a class that has no other. -/
def single? (k : Class) : Option Char :=
  match k.ranges with
  | [(a, b)] => if a = b then some (Char.ofNat a) else none
  | _ => none

def union (k l : Class) : Class :=
  ⟨glue (k.ranges.merge l.ranges fun r s => r.1 ≤ s.1)⟩

def complement (k : Class) : Class := ⟨gaps 0 k.ranges⟩

def complementIf (negated : Bool) (k : Class) : Class := if negated then k.complement else k

def inter (k l : Class) : Class := (k.complement.union l.complement).complement

def diff (k l : Class) : Class := k.inter l.complement

def symmDiff (k l : Class) : Class := (k.union l).diff (k.inter l)

def up (k : Class) (n : Nat) : Class := ⟨k.ranges.map fun (a, b) => (a + n, b + n)⟩

def down (k : Class) (n : Nat) : Class := ⟨k.ranges.map fun (a, b) => (a - n, b - n)⟩

/-- The class with every letter of ASCII in both cases. -/
def caseless (k : Class) : Class :=
  let small := (k.inter (range 'A' 'Z')).up 0x20
  let capital := (k.inter (range 'a' 'z')).down 0x20
  (k.union small).union capital

def named? : String → Option Class
  | "alnum" => some ⟨[(0x30, 0x39), (0x41, 0x5a), (0x61, 0x7a)]⟩
  | "alpha" => some ⟨[(0x41, 0x5a), (0x61, 0x7a)]⟩
  | "ascii" => some ⟨[(0, 0x7f)]⟩
  | "blank" => some ⟨[(9, 9), (0x20, 0x20)]⟩
  | "cntrl" => some ⟨[(0, 0x1f), (0x7f, 0x7f)]⟩
  | "digit" => some ⟨[(0x30, 0x39)]⟩
  | "graph" => some ⟨[(0x21, 0x7e)]⟩
  | "lower" => some ⟨[(0x61, 0x7a)]⟩
  | "print" => some ⟨[(0x20, 0x7e)]⟩
  | "punct" => some ⟨[(0x21, 0x2f), (0x3a, 0x40), (0x5b, 0x60), (0x7b, 0x7e)]⟩
  | "space" => some ⟨[(9, 0xd), (0x20, 0x20)]⟩
  | "upper" => some ⟨[(0x41, 0x5a)]⟩
  | "word" => some ⟨[(0x30, 0x39), (0x41, 0x5a), (0x5f, 0x5f), (0x61, 0x7a)]⟩
  | "xdigit" => some ⟨[(0x30, 0x39), (0x41, 0x46), (0x61, 0x66)]⟩
  | _ => none

end Class

inductive Edge
  /-- One of them belongs to a word and the other does not. -/
  | either
  | neither
  | start
  | stop
  /-- No word before the place. -/
  | startHalf
  /-- No word after the place. -/
  | stopHalf
  deriving DecidableEq, Repr

inductive Place
  | textStart
  | textEnd
  /-- Around a line feed, and with `carriage` also around a carriage return; the two together are
  not divided. -/
  | lineStart (carriage : Bool)
  | lineEnd (carriage : Bool)
  | edge (e : Edge)
  /-- An edge of words of all scripts, which are not told apart here: it is nowhere. -/
  | wideEdge
  deriving DecidableEq, Repr

/-- Words consist of letters, digits and underscores of ASCII. -/
def isWord (c : Char) : Bool := c.isAlphanum || c == '_'

def Edge.holds (before after : Bool) : Edge → Bool
  | .either => before != after
  | .neither => before == after
  | .start => !before && after
  | .stop => before && !after
  | .startHalf => !before
  | .stopHalf => !after

/-- Whether the place is at the index `i`, in front of the character there. -/
def Place.holds (text : Array Char) (i : Nat) (p : Place) : Bool :=
  let before := if i = 0 then none else text[i - 1]?
  let after := text[i]?
  match p with
  | .textStart => before.isNone
  | .textEnd => after.isNone
  | .lineStart false => before.isNone || before == some '\n'
  | .lineEnd false => after.isNone || after == some '\n'
  | .lineStart true =>
    before.isNone || before == some '\n' || (before == some '\r' && after != some '\n')
  | .lineEnd true =>
    after.isNone || after == some '\r' || (after == some '\n' && before != some '\r')
  | .wideEdge => false
  | .edge e => e.holds ((before.map isWord).getD false) ((after.map isWord).getD false)

end Pattern

inductive Pattern
  | empty
  /-- One character of a class. -/
  | one (k : Pattern.Class)
  | seq (first second : Pattern)
  | either (left right : Pattern)
  | repeated (body : Pattern) (least : Nat) (most : Option Nat)
  /-- A part whose place in the text can be asked for. -/
  | group (body : Pattern)
  | place (p : Pattern.Place)
  deriving DecidableEq, Repr

namespace Pattern

def union : List Nat → List Nat → List Nat
  | [], bs => bs
  | as, [] => as
  | a :: as, b :: bs =>
    if a < b then a :: union as (b :: bs)
    else if b < a then b :: union (a :: as) bs
    else a :: union as bs
termination_by as bs => as.length + bs.length

/-- Repeats `step`, which has no effect any more once it changes nothing. -/
def repeatStep (step : List Nat → List Nat) : Nat → List Nat → List Nat
  | 0, ends => ends
  | n + 1, ends =>
    let next := step ends
    if next == ends then ends else repeatStep step n next

/-- What is reached from `fresh` in up to so many steps, beside what was reached before. -/
def reach (step : List Nat → List Nat) : Nat → List Nat → List Nat → List Nat
  | 0, reached, _ => reached
  | n + 1, reached, fresh =>
    let next := (step fresh).filter fun i => !reached.contains i
    if next.isEmpty then reached else reach step n (union reached next) next

/-- The indices where a match ends that starts at one of the given indices, in ascending order as
those are. -/
def ends (text : Array Char) : Pattern → List Nat → List Nat
  | .empty, starts => starts
  | .one k, starts =>
    (starts.filter fun i => (text[i]?.map k.accepts).getD false).map (· + 1)
  | .seq first second, starts => ends text second (ends text first starts)
  | .either left right, starts => union (ends text left starts) (ends text right starts)
  | .repeated body least most, starts =>
    let first := repeatStep (ends text body) least starts
    let rounds := match most with
      | some n => n - least
      | none => text.size + 1
    reach (ends text body) rounds first first
  | .group body, starts => ends text body starts
  | .place p, starts => starts.filter fun i => p.holds text i

def occursIn (p : Pattern) (s : String) : Bool :=
  let text := s.toList.toArray
  !(p.ends text (List.range (text.size + 1))).isEmpty

/-- The length of the shortest match, if there can be one. -/
def minLength? : Pattern → Option Nat
  | .empty => some 0
  | .one k => if k.isEmpty then none else some 1
  | .seq p q => do return (← p.minLength?) + (← q.minLength?)
  | .either p q => do return min (← p.minLength?) (← q.minLength?)
  | .repeated p least _ => do return (← p.minLength?) * least
  | .group p => p.minLength?
  | .place _ => some 0

/-- The length of the longest match, if there is one. -/
def maxLength? : Pattern → Option Nat
  | .empty => some 0
  | .one k => if k.isEmpty then none else some 1
  | .seq p q => do return (← p.maxLength?) + (← q.maxLength?)
  | .either p q => do return max (← p.maxLength?) (← q.maxLength?)
  | .repeated p _ most => do return (← p.maxLength?) * (← most)
  | .group p => p.maxLength?
  | .place _ => some 0

def append : Pattern → Pattern → Pattern
  | .empty, q => q
  | p, .empty => p
  | p, q => .seq p q

/-- A pattern a number of times. What takes no room in the text is the same once as often. -/
def times (p : Pattern) (least : Nat) (most : Option Nat) : Pattern :=
  let once := p.maxLength? = some 0
  let least := if once then min least 1 else least
  let most := if once then some (min (most.getD 1) 1) else most
  if most = some 0 then .empty
  else if least = 1 ∧ most = some 1 then p
  else .repeated p least most

def class? : Pattern → Option Class
  | .one k => some k
  | _ => none

/-- Patterns to choose from. A choice of characters, or of classes with more than one, is a class. -/
def choose (ps : List Pattern) : Pattern :=
  let kept := match ps with
    | [] => .one .nothing
    | p :: rest => rest.foldl .either p
  match ps.mapM class? with
  | none => kept
  | some ks =>
    let isSingle (k : Class) : Bool := k.single?.isSome
    if ks.all isSingle || ks.all fun k => !isSingle k then
      .one (ks.foldl Class.union .nothing)
    else kept

def hasWideEdge : Pattern → Bool
  | .empty | .one _ => false
  | .seq p q | .either p q => p.hasWideEdge || q.hasWideEdge
  | .repeated p _ _ | .group p => p.hasWideEdge
  | .place p => p = .wideEdge

end Pattern

end EdgeTiling
