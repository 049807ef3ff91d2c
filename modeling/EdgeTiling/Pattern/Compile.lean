import EdgeTiling.Pattern
import EdgeTiling.Number
import EdgeTiling.Pattern.Parse

/-! Regular expressions that can be looked for, by the size of the machine that looks for them in the
bytes of a text. -/

namespace EdgeTiling.Pattern

/-- Some characters in bytes: a range for the first byte, one for the second, and so on. -/
abbrev Spelling := List (Nat × Nat)

namespace Spelling

/-- Any number of the bytes that follow the first one of a character. -/
def anyTail (n : Nat) : Spelling := List.replicate n (0x80, 0xbf)

/-- The numbers from `first` to `last` as a byte above `base` and `n` bytes of six bits each. -/
def spell (base : Nat) : Nat → Nat → Nat → List Spelling
  | 0, first, last => [[(base + first, base + last)]]
  | n + 1, first, last =>
    let block := twoTo (6 * (n + 1))
    let a := first / block
    let b := last / block
    let startingWith (byte low high : Nat) : List Spelling :=
      (spell 0x80 n low high).map ((base + byte, base + byte) :: ·)
    if a = b then startingWith a (first % block) (last % block)
    else
      let fromStart := first % block = 0
      let toEnd := last % block = block - 1
      let low := if fromStart then a else a + 1
      let high := if toEnd then b + 1 else b
      (if fromStart then [] else startingWith a (first % block) (block - 1)) ++
        (if low < high then [(base + low, base + high - 1) :: anyTail (n + 1)] else []) ++
        (if toEnd then [] else startingWith b 0 (last % block))

/-- Code points that are spelled with the same number of bytes: the first and the last of them, the
number of bytes after the first, and the number that the first byte counts from. -/
def widths : List (Nat × Nat × Nat × Nat) :=
  [(0, 0x7f, 0, 0), (0x80, 0x7ff, 1, 0xc0), (0x800, 0xd7ff, 2, 0xe0), (0xe000, 0xffff, 2, 0xe0),
    (0x10000, 0x10ffff, 3, 0xf0)]

def ofClass (k : Class) : List Spelling :=
  k.ranges.flatMap fun (a, b) => widths.flatMap fun (first, last, n, base) =>
    let low := max a first
    let high := min b last
    if low ≤ high then spell base n low high else []

/-- Spellings with the same first byte, which stand next to each other. -/
def groups (ss : List Spelling) : List (List Spelling) := ss.splitBy fun s t => s.head? == t.head?

/-- What can follow at each place on the way through the spellings, the places at their ends
apart. -/
def places : Nat → List Spelling → List (List Spelling)
  | 0, _ => []
  | n + 1, ss =>
    if ss.all List.isEmpty then []
    else ss :: (groups ss).flatMap fun g => places n (g.map List.tail)

/-- The places on the way, those with the same future taken as one. -/
def distinctPlaces (ss : List Spelling) : List (List Spelling) := (places 4 ss).eraseDups

def beginnings (ss : List Spelling) : List Spelling :=
  (ss.flatMap fun s => (List.range s.length).map fun n => s.take (n + 1)).eraseDups

end Spelling

structure Machine where
  states : Nat := 0
  links : Nat := 0
  arcs : Nat := 0
  deriving DecidableEq, Repr

namespace Machine

def add (m n : Machine) : Machine := ⟨m.states + n.states, m.links + n.links, m.arcs + n.arcs⟩

instance : Add Machine := ⟨add⟩

def copies (n : Nat) (m : Machine) : Machine := ⟨n * m.states, n * m.links, n * m.arcs⟩

def bytes (m : Machine) : Nat := 32 * m.states + 4 * m.links + 8 * m.arcs

/-- A machine for one character of a class; backwards the parts of characters are shared less. -/
def ofClass (backwards : Bool) (k : Class) : Machine :=
  match k.single? with
  | some c => ⟨c.utf8Size, 0, 0⟩
  | none =>
    if k.isAscii then ⟨2, 0, if k.ranges.length = 1 then 0 else k.ranges.length⟩
    else
      let ss := Spelling.ofClass k
      if backwards then ⟨2 + (Spelling.beginnings ss).length, ss.length, 0⟩
      else
        let places := Spelling.distinctPlaces ss
        ⟨1 + places.length, 0, places.foldl (fun n p => n + (Spelling.groups p).length) 0⟩

/-- Repeats what `m` looks for; `moves` says that it takes room in the text. -/
def repeated (m : Machine) (moves : Bool) (least : Nat) : Option Nat → Machine
  | none =>
    if 0 < least then m.copies least + ⟨1, 2, 0⟩
    else if moves then m + ⟨1, 2, 0⟩
    else m + ⟨3, 4, 0⟩
  | some most =>
    if least = most then m.copies least
    else if least = 0 ∧ most = 1 then m + ⟨2, 2, 0⟩
    else
      let start : Machine := if least = 0 then ⟨1, 0, 0⟩ else m.copies least
      start + ⟨1, 0, 0⟩ + (m + ⟨1, 2, 0⟩).copies (most - least)

def joined : Nat × Machine → Machine
  | (n, m) => if n ≤ 1 then m else m + ⟨2, n, 0⟩

end Machine

def choices (backwards : Bool) : Pattern → Nat × Machine
  | .empty => (1, ⟨1, 0, 0⟩)
  | .one k => (1, .ofClass backwards k)
  | .seq p q => (1, .joined (p.choices backwards) + .joined (q.choices backwards))
  | .either p q =>
    let (m, left) := p.choices backwards
    let (n, right) := q.choices backwards
    (m + n, left + right)
  | .repeated p least most =>
    (1, (Machine.joined (p.choices backwards)).repeated (p.minLength?.any (0 < ·)) least most)
  | .group p =>
    (1, .joined (p.choices backwards) + ⟨if backwards then 0 else 2, 0, 0⟩)
  | .place _ => (1, ⟨1, 0, 0⟩)

/-- The machine for a pattern at any place of a text. -/
def machine (backwards : Bool) (p : Pattern) : Machine :=
  .joined (p.choices backwards) + ⟨if backwards then 4 else 6, 2, 0⟩

/-- The greatest number of bytes that a machine may take. -/
def sizeLimit : Nat := 10485760

def exceedsSize (backwards : Bool) (p : Pattern) : Bool := sizeLimit < (p.machine backwards).bytes

inductive Refusal
  | fault (f : Fault)
  /-- Words of all scripts are not told apart. -/
  | words
  | tooLarge
  deriving DecidableEq, Repr

def Refusal.message (text : String) : Refusal → String
  | .fault f => f.message text
  | .words => "error building NFA"
  | .tooLarge => s!"Compiled regex exceeds size limit of {sizeLimit} bytes."

/-- The pattern of an expression, if there can be machines for it, forwards and then backwards. -/
def compile (text : String) : Except Refusal Pattern :=
  match parse text with
  | .error f => .error (.fault f)
  | .ok p =>
    if p.exceedsSize false then .error .tooLarge
    else if p.hasWideEdge then .error .words
    else if p.exceedsSize true then .error .tooLarge
    else .ok p

end EdgeTiling.Pattern
