import EdgeTiling.Number

/-! A reproducible stream of random words: the key stream of a block cipher with twelve rounds,
keyed by a seed of 64 bits. -/

namespace EdgeTiling.Random

abbrev Block := Vector UInt32 16

namespace Block

def rotateLeft (x : UInt32) (n : UInt32) : UInt32 := (x <<< n) ||| (x >>> (32 - n))

def quarterRound (s : Block) (a b c d : Fin 16) : Block :=
  let s := s.set a (s.get a + s.get b)
  let s := s.set d (rotateLeft (s.get d ^^^ s.get a) 16)
  let s := s.set c (s.get c + s.get d)
  let s := s.set b (rotateLeft (s.get b ^^^ s.get c) 12)
  let s := s.set a (s.get a + s.get b)
  let s := s.set d (rotateLeft (s.get d ^^^ s.get a) 8)
  let s := s.set c (s.get c + s.get d)
  s.set b (rotateLeft (s.get b ^^^ s.get c) 7)

/-- One round over the columns and one over the diagonals. -/
def doubleRound (s : Block) : Block :=
  let s := s.quarterRound 0 4 8 12
  let s := s.quarterRound 1 5 9 13
  let s := s.quarterRound 2 6 10 14
  let s := s.quarterRound 3 7 11 15
  let s := s.quarterRound 0 5 10 15
  let s := s.quarterRound 1 6 11 12
  let s := s.quarterRound 2 7 8 13
  s.quarterRound 3 4 9 14

/-- Twelve rounds, then the starting block is added word by word. -/
def mix (s : Block) : Block :=
  let rounds := s.doubleRound.doubleRound.doubleRound.doubleRound.doubleRound.doubleRound
  rounds.zipWith (· + ·) s

end Block

abbrev Key := Vector UInt32 8

namespace Key

/-- The block with the given number, before mixing. -/
def block (k : Key) (counter : Nat) : Block :=
  #v[0x61707865, 0x3320646e, 0x79622d32, 0x6b206574,
    k.get 0, k.get 1, k.get 2, k.get 3, k.get 4, k.get 5, k.get 6, k.get 7,
    UInt32.ofNat counter, UInt32.ofNat (counter / twoTo 32), 0, 0]

/-- One step of the generator that stretches a seed into a key. -/
def advance (s : UInt64) : UInt64 := s * 6364136223846793005 + 11634580027462260723

/-- The word that a state of that generator yields. -/
def output (s : UInt64) : UInt32 :=
  let x := (((s >>> 18) ^^^ s) >>> 27).toUInt32
  let r := (s >>> 59).toUInt32
  (x >>> r) ||| (x <<< ((32 - r) % 32))

def words : Nat → UInt64 → List UInt32
  | 0, _ => []
  | n + 1, s => output (advance s) :: words n (advance s)

theorem length_words (n : Nat) (s : UInt64) : (words n s).length = n := by
  induction n generalizing s with
  | zero => rfl
  | succ n ih => simp [words, ih]

def ofSeed (seed : UInt64) : Key := ⟨(words 8 seed).toArray, by simp [length_words]⟩

end Key

structure Stream where
  key : Key
  used : Nat
  deriving DecidableEq

namespace Stream

def ofSeed (seed : UInt64) : Stream := ⟨.ofSeed seed, 0⟩

def word (key : Key) (i : Nat) : UInt32 :=
  (key.block (i / 16)).mix.get ⟨i % 16, Nat.mod_lt _ (by decide)⟩

def next32 (s : Stream) : UInt32 × Stream := (word s.key s.used, { s with used := s.used + 1 })

/-- Two words, the low one first. -/
def next64 (s : Stream) : UInt64 × Stream :=
  let low := (word s.key s.used).toUInt64
  let high := (word s.key (s.used + 1)).toUInt64
  (low ||| (high <<< 32), { s with used := s.used + 2 })

/-- How many pairs of words the stream has before its block counter starts again. -/
def period : Nat := twoTo 67

/-- Looks through `tries` numbers of 64 bits for one that gives every value below `n` the same
chance, and gives up with zero. -/
def belowWithin (n : Nat) : Nat → Stream → Nat × Stream
  | 0, s => (0, s)
  | tries + 1, s =>
    let (v, s) := s.next64
    let product := v.toNat * n
    if product % wordLimit < n * twoTo (63 - n.log2) then (product / wordLimit, s)
    else belowWithin n tries s

def below (n : Nat) (s : Stream) : Nat × Stream := s.belowWithin n period

theorem belowWithin_lt {n : Nat} (h : 0 < n) : ∀ (tries : Nat) (s : Stream),
    (s.belowWithin n tries).1 < n
  | 0, _ => h
  | tries + 1, s => by
    unfold belowWithin
    dsimp only
    split
    · exact Nat.div_lt_of_lt_mul (Nat.mul_lt_mul_of_pos_right s.next64.1.toNat_lt h)
    · exact belowWithin_lt h tries _

theorem below_lt {n : Nat} (h : 0 < n) (s : Stream) : (s.below n).1 < n := belowWithin_lt h _ s

end Stream

end EdgeTiling.Random
