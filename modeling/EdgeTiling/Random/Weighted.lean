import EdgeTiling.Random.Stream

/-! Drawing an index with chances in proportion to given weights, in single precision. -/

namespace EdgeTiling.Random

inductive WeightError
  | noItem
  | invalidWeight
  | allWeightsZero
  /-- The weights add up to infinity. -/
  | infiniteTotal
  deriving DecidableEq, Repr

def WeightError.message : WeightError → String
  | .noItem => "No weights provided in distribution"
  | .invalidWeight => "A weight is invalid in distribution"
  | .allWeightsZero => "All weights are zero in distribution"
  | .infiniteTotal => "The weights have no finite total."

/-- Weights ready for drawing: the sums up to every item but the last, and the width of the range
from which a point is drawn. -/
structure Weighted where
  sums : List Float32
  scale : Float32
  deriving DecidableEq

namespace Weighted

/-- The largest fraction that is drawn, one unit in the last place below one. -/
def largestFraction : Float32 := Float32.ofBits 0x3f7ffffe

/-- The largest number, at most the one with the given bits, whose product with every fraction
stays below `total`. -/
def scaleFrom (total : Float32) : Nat → Float32
  | 0 => Float32.ofBits 0
  | bits + 1 =>
    let scale := Float32.ofBits (UInt32.ofNat (bits + 1))
    if scale * largestFraction ≥ total then scaleFrom total bits else scale

/-- The running sums of the weights after `total`, without the last, and the last sum. -/
def accumulate (total : Float32) : List Float32 → Except WeightError (List Float32 × Float32)
  | [] => .ok ([], total)
  | w :: rest =>
    if w ≥ 0 then
      match accumulate (total + w) rest with
      | .error e => .error e
      | .ok (sums, last) => .ok (total :: sums, last)
    else .error .invalidWeight

def ofWeights : List Float32 → Except WeightError Weighted
  | [] => .error .noItem
  | w :: rest =>
    if w ≥ 0 then
      match accumulate w rest with
      | .error e => .error e
      | .ok (sums, total) =>
        if total == 0 then .error .allWeightsZero
        else if total.isInf then .error .infiniteTotal
        else .ok ⟨sums, scaleFrom total total.toBits.toNat⟩
    else .error .invalidWeight

/-- The fraction in `[0, 1)` that the upper 23 bits of a word stand for. -/
def fraction (word : UInt32) : Float32 := Float32.ofBits ((0x3f800000 : UInt32) ||| (word >>> 9)) - 1.0

/-- The item whose stretch of the range holds the drawn point. -/
def sample (w : Weighted) (s : Stream) : Nat × Stream :=
  let (word, s) := s.next32
  let point := fraction word * w.scale
  (w.sums.countP fun sum => sum ≤ point, s)

theorem length_accumulate {total last : Float32} {sums : List Float32} : ∀ {ws : List Float32},
    accumulate total ws = .ok (sums, last) → sums.length = ws.length := by
  intro ws h
  induction ws generalizing total last sums with
  | nil =>
    simp only [accumulate, Except.ok.injEq, Prod.mk.injEq] at h
    simp [← h.1]
  | cons w rest ih =>
    unfold accumulate at h
    split at h
    · split at h
      · cases h
      · rename_i sums' last' h'
        simp only [Except.ok.injEq, Prod.mk.injEq] at h
        simp [← h.1, ih h']
    · cases h

theorem sample_lt {ws : List Float32} {w : Weighted} (h : ofWeights ws = .ok w) (s : Stream) :
    (w.sample s).1 < ws.length := by
  cases ws with
  | nil => cases h
  | cons x rest =>
    rw [ofWeights] at h
    split at h
    · split at h
      · cases h
      · rename_i sums total hacc
        split at h
        · cases h
        · split at h
          · cases h
          · cases h
            have hlen := length_accumulate hacc
            exact Nat.lt_succ_of_le (Nat.le_trans List.countP_le_length (Nat.le_of_eq hlen))
    · cases h

end Weighted

end EdgeTiling.Random
