import EdgeTiling.Proofs.SinglePrecision

/-! Sizes of positive numbers in single precision. A positive number is a whole multiple of the
smallest one, and how often it has that one in it is its magnitude. The magnitude of a sum is the sum
of the magnitudes, rounded to the digits of the format and taken for infinite beyond its range. So a
sum grows with its summands, although it is rounded. -/

namespace EdgeTiling.SinglePrecision

open Float.Model (Format UnpackedFloat totalExponent)
open Float.Model.UnpackedFloat

section Nearest

/-- The multiple of `2 ^ k` nearest to `n`, by its factor; of two the one with the even factor. -/
def nearest (n k : Nat) : Nat :=
  match compare (2 * (n % 2 ^ k)) (2 ^ k) with
  | .lt => n / 2 ^ k
  | .eq => n / 2 ^ k + n / 2 ^ k % 2
  | .gt => n / 2 ^ k + 1

theorem nearest_error (n k : Nat) :
    2 * (nearest n k * 2 ^ k) ≤ 2 * n + 2 ^ k ∧ 2 * n ≤ 2 * (nearest n k * 2 ^ k) + 2 ^ k := by
  have hn := Nat.div_add_mod' n (2 ^ k)
  have hlt := Nat.mod_lt n (Nat.two_pow_pos k)
  unfold nearest
  split
  · next h =>
    rw [Nat.compare_eq_lt] at h
    omega
  · next h =>
    rw [Nat.compare_eq_eq] at h
    rcases Nat.mod_two_eq_zero_or_one (n / 2 ^ k) with h2 | h2 <;> rw [h2, Nat.add_mul] <;> omega
  · next h =>
    rw [Nat.compare_eq_gt] at h
    rw [Nat.add_mul]
    omega

/-- Two multiples that are out of order would both be farther than half a step from their numbers. -/
theorem nearest_mono {n n' : Nat} (h : n ≤ n') (k : Nat) : nearest n k ≤ nearest n' k := by
  by_contra hgt
  obtain ⟨hup, -⟩ := nearest_error n k
  obtain ⟨-, hdown⟩ := nearest_error n' k
  have hstep : (nearest n' k + 1) * 2 ^ k ≤ nearest n k * 2 ^ k :=
    Nat.mul_le_mul_right _ (by omega)
  rw [Nat.add_mul] at hstep
  obtain rfl : n = n' := by omega
  exact hgt le_rfl

theorem nearest_mul (n k a : Nat) : nearest (n * 2 ^ a) (k + a) = nearest n k := by
  have hpos := Nat.two_pow_pos a
  have hmod : 2 * (n * 2 ^ a % 2 ^ (k + a)) = 2 * (n % 2 ^ k) * 2 ^ a := by
    rw [Nat.pow_add, Nat.mul_mod_mul_right, Nat.mul_assoc]
  have hdiv : n * 2 ^ a / 2 ^ (k + a) = n / 2 ^ k := by
    rw [Nat.pow_add, Nat.mul_div_mul_right _ _ hpos]
  have hcmp : compare (2 * (n % 2 ^ k) * 2 ^ a) (2 ^ k * 2 ^ a) =
      compare (2 * (n % 2 ^ k)) (2 ^ k) := by
    simp only [compare, compareOfLessAndEq, Nat.mul_lt_mul_right hpos,
      Nat.mul_left_inj (Nat.ne_of_gt hpos)]
  unfold nearest
  rw [hmod, hdiv, Nat.pow_add, hcmp]

theorem nearest_of_dvd {n k : Nat} (h : 2 ^ k ∣ n) : nearest n k * 2 ^ k = n := by
  have hlt : compare (2 * (n % 2 ^ k)) (2 ^ k) = .lt := by
    rw [Nat.compare_eq_lt, Nat.mod_eq_zero_of_dvd h]
    exact Nat.two_pow_pos k
  simp only [nearest, hlt]
  exact Nat.div_mul_cancel h

@[simp] theorem nearest_zero (n : Nat) : nearest n 0 = n := by
  simpa using nearest_of_dvd (n := n) (k := 0) (by simp)

theorem nearest_two_pow (b k : Nat) : nearest (2 ^ (b + k)) k = 2 ^ b := by
  have h := nearest_of_dvd (n := 2 ^ (b + k)) (Nat.pow_dvd_pow 2 (Nat.le_add_left k b))
  rw [Nat.pow_add] at h ⊢
  exact Nat.eq_of_mul_eq_mul_right (Nat.two_pow_pos k) h

end Nearest

section Digits

theorem log2_mul_two_pow {m : Nat} (hm : 0 < m) (a : Nat) : (m * 2 ^ a).log2 = m.log2 + a := by
  have hne : m * 2 ^ a ≠ 0 := Nat.ne_of_gt (Nat.mul_pos hm (Nat.two_pow_pos a))
  rw [Nat.log2_eq_iff hne, Nat.add_right_comm, Nat.pow_add, Nat.pow_add]
  constructor
  · exact Nat.mul_le_mul_right _ (Nat.log2_self_le (by omega))
  · exact Nat.mul_lt_mul_of_pos_right Nat.lt_log2_self (Nat.two_pow_pos a)

theorem log2_mono {n n' : Nat} (hn : 0 < n) (h : n ≤ n') : n.log2 ≤ n'.log2 := by
  rw [Nat.le_log2 (by omega)]
  exact (Nat.log2_self_le (by omega)).trans h

/-- The number of binary digits that `n` has beyond the first `p`. -/
def excess (p n : Nat) : Nat := n.log2 + 1 - p

/-- The number nearest to `n` that has no other digits than zero after the first `p`. -/
def rounded (p n : Nat) : Nat := nearest n (excess p n) * 2 ^ excess p n

theorem rounded_mono {p : Nat} (hp : 0 < p) : Monotone (rounded p) := by
  intro n n' h
  rcases Nat.eq_zero_or_pos n with rfl | hn
  · have hzero : rounded p 0 = 0 := by
      have hexc : excess p 0 = 0 := by simp [excess]; omega
      simp [rounded, hexc]
    rw [hzero]
    exact Nat.zero_le _
  rcases Nat.eq_or_lt_of_le (log2_mono hn h) with heq | hlt
  · have hexc : excess p n = excess p n' := by rw [excess, excess, heq]
    rw [rounded, rounded, hexc]
    exact Nat.mul_le_mul_right _ (nearest_mono h _)
  · -- a power of two lies between the two numbers, and both roundings stay on their side of it
    have hup : rounded p n ≤ 2 ^ (n.log2 + 1) := by
      have hdvd : 2 ^ excess p n ∣ 2 ^ (n.log2 + 1) := Nat.pow_dvd_pow 2 (Nat.sub_le _ _)
      rw [← nearest_of_dvd hdvd]
      exact Nat.mul_le_mul_right _ (nearest_mono (Nat.le_of_lt Nat.lt_log2_self) _)
    have hdown : 2 ^ n'.log2 ≤ rounded p n' := by
      have hdvd : 2 ^ excess p n' ∣ 2 ^ n'.log2 := Nat.pow_dvd_pow 2 (by unfold excess; omega)
      rw [← nearest_of_dvd hdvd]
      exact Nat.mul_le_mul_right _ (nearest_mono (Nat.log2_self_le (by omega)) _)
    exact hup.trans ((Nat.pow_le_pow_right (by decide) hlt).trans hdown)

theorem rounded_of_lt {p m : Nat} (hm : 0 < m) (hlt : m < 2 ^ p) (a : Nat) :
    rounded p (m * 2 ^ a) = m * 2 ^ a := by
  have hlog : m.log2 < p := (Nat.log2_lt (by omega)).mpr hlt
  apply nearest_of_dvd
  apply Dvd.dvd.mul_left
  apply Nat.pow_dvd_pow
  rw [excess, log2_mul_two_pow hm]
  omega

end Digits

section Rounding

variable {spec : Format} {m a : Nat}

/-- The digits that a shift drops: the first of them, and whether there are others. -/
theorem shiftRight_succ (m j : Nat) :
    ExtendedMantissa.ofMantissaAndAccuracy m .exact >>> (j + 1) =
      ⟨m / 2 ^ (j + 1), m / 2 ^ j % 2 != 0, m % 2 ^ j != 0⟩ := by
  induction j with
  | zero =>
    change ExtendedMantissa.shiftRightOne ⟨m, false, false⟩ = _
    simp [ExtendedMantissa.shiftRightOne, Nat.mod_one]
  | succ j ih =>
    change ExtendedMantissa.shiftRightOne
      (ExtendedMantissa.ofMantissaAndAccuracy m .exact >>> (j + 1)) = _
    rw [ih]
    have hsticky : (m / 2 ^ j % 2 != 0 || m % 2 ^ j != 0) = (m % 2 ^ (j + 1) != 0) := by
      have hpos := Nat.two_pow_pos j
      rw [Nat.mod_pow_succ, Bool.eq_iff_iff]
      rcases Nat.mod_two_eq_zero_or_one (m / 2 ^ j) with h | h <;> simp [h]
    simp only [ExtendedMantissa.shiftRightOne, hsticky, Nat.div_div_eq_div_mul, ← Nat.pow_succ]

theorem roundedMantissa_shiftRight (m k : Nat) :
    (ExtendedMantissa.ofMantissaAndAccuracy m .exact >>> k).roundedMantissa = nearest m k := by
  cases k with
  | zero =>
    rw [nearest_zero]
    rfl
  | succ j =>
    have hpos := Nat.two_pow_pos j
    have hlt := Nat.mod_lt m hpos
    rw [shiftRight_succ, nearest, Nat.mod_pow_succ, Nat.pow_succ 2 j, Nat.mul_comm (2 ^ j) 2]
    rcases Nat.mod_two_eq_zero_or_one (m / 2 ^ j) with hround | hround
    · have hcmp : compare (2 * (m % 2 ^ j + 2 ^ j * (m / 2 ^ j % 2))) (2 * 2 ^ j) = .lt := by
        rw [Nat.compare_eq_lt, hround]
        omega
      rw [hcmp, hround]
      cases (m % 2 ^ j != 0) <;> rfl
    · by_cases hsticky : m % 2 ^ j = 0
      · have hcmp : compare (2 * (m % 2 ^ j + 2 ^ j * (m / 2 ^ j % 2))) (2 * 2 ^ j) = .eq := by
          rw [Nat.compare_eq_eq, hround, hsticky]
          omega
        rw [hcmp, hround, hsticky]
        rfl
      · have hcmp : compare (2 * (m % 2 ^ j + 2 ^ j * (m / 2 ^ j % 2))) (2 * 2 ^ j) = .gt := by
          rw [Nat.compare_eq_gt, hround]
          omega
        have hne : (m % 2 ^ j != 0) = true := by simpa using hsticky
        rw [hcmp, hround, hne]
        rfl

theorem targetExponent_eq (hm : 0 < m) (a : Nat) :
    spec.targetExponent (totalExponent m (spec.minExponent + a)) =
      spec.minExponent + (excess spec.mantissaBits (m * 2 ^ a) : Nat) := by
  rw [excess, log2_mul_two_pow hm]
  unfold Format.targetExponent totalExponent
  omega

theorem shiftToTargetExponent_eq (hm : 0 < m) (a : Nat) :
    shiftToTargetExponent spec m (spec.minExponent + a) .exact =
      (ExtendedMantissa.ofMantissaAndAccuracy m .exact >>>
          (excess spec.mantissaBits (m * 2 ^ a) - a),
        spec.minExponent + (max a (excess spec.mantissaBits (m * 2 ^ a)) : Nat)) := by
  unfold shiftToTargetExponent shiftToExponent
  rw [targetExponent_eq hm]
  generalize excess spec.mantissaBits (m * 2 ^ a) = u
  have hshift : (spec.minExponent + (u : Int) - (spec.minExponent + (a : Int))).toNat = u - a := by
    omega
  dsimp only
  rw [hshift]
  congr 1
  omega

theorem mantissaBits_pos (spec : Format) : 0 < spec.mantissaBits := by
  unfold Format.mantissaBits
  omega

/-- What is left of a mantissa has the digits of the format, unless rounding adds one. -/
theorem nearest_bounds (hm : 0 < m) {p s : Nat} (hp : 0 < p) (hs : excess p (m * 2 ^ a) = s + a) :
    0 < nearest m s ∧ nearest m s ≤ 2 ^ p ∧ (0 < s + a → 2 ^ (p - 1) ≤ nearest m s) := by
  rw [excess, log2_mul_two_pow hm] at hs
  have hlow : 2 ^ m.log2 ≤ m := Nat.log2_self_le (by omega)
  have hhigh : m < 2 ^ (m.log2 + 1) := Nat.lt_log2_self
  have hupper : nearest m s ≤ 2 ^ p := by
    rw [← nearest_two_pow p s]
    exact nearest_mono (hhigh.le.trans (Nat.pow_le_pow_right (by decide) (by omega))) s
  have hlower : 0 < s + a → 2 ^ (p - 1) ≤ nearest m s := by
    intro hpos
    rw [← nearest_two_pow (p - 1) s]
    exact nearest_mono ((Nat.pow_le_pow_right (by decide) (by omega)).trans hlow) s
  refine ⟨?_, hupper, hlower⟩
  rcases Nat.eq_zero_or_pos (s + a) with h0 | hpos
  · obtain rfl : s = 0 := by omega
    rwa [nearest_zero]
  · exact (Nat.two_pow_pos _).trans_le (hlower hpos)

/-- A shift that drops nothing but the zero that rounding may have added. -/
theorem exists_shiftToTargetExponent {r u : Nat} (hr : 0 < r) (hle : r ≤ 2 ^ spec.mantissaBits)
    (hlower : 0 < u → 2 ^ (spec.mantissaBits - 1) ≤ r) :
    ∃ m a : Nat, (shiftToTargetExponent spec r (spec.minExponent + u) .exact).1.mantissa = m ∧
      (shiftToTargetExponent spec r (spec.minExponent + u) .exact).2 = spec.minExponent + a ∧
      0 < m ∧ m < 2 ^ spec.mantissaBits ∧ (m.log2 + 1 = spec.mantissaBits ∨ a = 0) ∧
      m * 2 ^ a = r * 2 ^ u := by
  have hp := mantissaBits_pos spec
  rw [shiftToTargetExponent_eq hr, excess, log2_mul_two_pow hr]
  dsimp only
  rw [mantissa_shiftRight]
  rcases Nat.lt_or_eq_of_le hle with hlt | heq
  · have hlog : r.log2 < spec.mantissaBits := (Nat.log2_lt (by omega)).mpr hlt
    have hnone : r.log2 + u + 1 - spec.mantissaBits - u = 0 := by omega
    rw [hnone, Nat.max_eq_left (by omega)]
    refine ⟨r, u, Nat.div_one r, rfl, hr, hlt, ?_, rfl⟩
    rcases Nat.eq_zero_or_pos u with h0 | hpos
    · exact .inr h0
    · have hlog' := (Nat.le_log2 (by omega)).mpr (hlower hpos)
      omega
  · obtain ⟨b, hb⟩ : ∃ b, spec.mantissaBits = b + 1 := ⟨_, (Nat.sub_add_cancel hp).symm⟩
    have hlog : r.log2 = b + 1 := by rw [heq, hb, Nat.log2_two_pow]
    have hone : r.log2 + u + 1 - spec.mantissaBits = u + 1 := by omega
    rw [hone, Nat.max_eq_right (by omega), Nat.add_sub_cancel_left, heq, hb]
    refine ⟨2 ^ b, u + 1, ?_, rfl, Nat.two_pow_pos b, Nat.pow_lt_pow_right (by decide) (by omega),
      .inl (by rw [Nat.log2_two_pow]), ?_⟩
    · exact Nat.mul_div_cancel _ (by decide)
    · rw [Nat.pow_succ, Nat.pow_succ, Nat.mul_assoc, Nat.mul_comm 2]

theorem roundWithAccuracy_eq (hm : 0 < m) {s : Nat}
    (hs : excess spec.mantissaBits (m * 2 ^ a) = s + a) :
    ∃ m' a' hm', roundWithAccuracy spec .positive m (spec.minExponent + a) .exact =
        .finite .positive m' (spec.minExponent + (a' : Nat)) hm' ∧
      m' < 2 ^ spec.mantissaBits ∧ (m'.log2 + 1 = spec.mantissaBits ∨ a' = 0) ∧
      m' * 2 ^ a' = rounded spec.mantissaBits (m * 2 ^ a) := by
  obtain ⟨hr, hupper, hlower⟩ := nearest_bounds hm (mantissaBits_pos spec) hs
  have hfirst : shiftToTargetExponent spec m (spec.minExponent + a) .exact =
      (ExtendedMantissa.ofMantissaAndAccuracy m .exact >>> s,
        spec.minExponent + ((s + a : Nat) : Int)) := by
    rw [shiftToTargetExponent_eq hm, hs, Nat.add_sub_cancel, Nat.max_eq_right (Nat.le_add_left a s)]
  obtain ⟨m', a', hman, hexp, hpos, hlt, hnormal, hvalue⟩ :=
    exists_shiftToTargetExponent hr hupper hlower
  refine ⟨m', a', hpos, ?_, hlt, hnormal, ?_⟩
  · unfold roundWithAccuracy
    rw [hfirst]
    dsimp only
    simp only [roundedMantissa_shiftRight, hman, hexp, dif_neg (Nat.ne_of_gt hpos)]
  · rw [hvalue, rounded, hs, nearest_mul]

/-- Rounding a positive number gives the one nearest to it, in its only form. -/
theorem round_eq (hm : 0 < m) (a : Nat) :
    ∃ m' a' hm', UnpackedFloat.round spec .positive m (spec.minExponent + a) =
        .finite .positive m' (spec.minExponent + (a' : Nat)) hm' ∧
      m' < 2 ^ spec.mantissaBits ∧ (m'.log2 + 1 = spec.mantissaBits ∨ a' = 0) ∧
      m' * 2 ^ a' = rounded spec.mantissaBits (m * 2 ^ a) := by
  -- an exponent above that of the result is lowered first, which adds zeros to the mantissa
  obtain ⟨u, hu⟩ : ∃ u, excess spec.mantissaBits (m * 2 ^ a) = u := ⟨_, rfl⟩
  have hlowered : m * 2 ^ (a - u) * 2 ^ min a u = m * 2 ^ a := by
    rw [Nat.mul_assoc, ← Nat.pow_add]
    congr 2
    omega
  have hexp : decreaseExponent m (spec.minExponent + a) (spec.minExponent + u) =
      (m * 2 ^ (a - u), spec.minExponent + (min a u : Nat)) := by
    have hshift : (spec.minExponent + (a : Int) - (spec.minExponent + (u : Int))).toNat = a - u := by
      omega
    unfold decreaseExponent
    dsimp only
    rw [hshift, Nat.shiftLeft_eq]
    congr 1
    omega
  have hs : excess spec.mantissaBits (m * 2 ^ (a - u) * 2 ^ min a u) = u - min a u + min a u := by
    rw [hlowered, hu]
    omega
  have hround := roundWithAccuracy_eq (Nat.mul_pos hm (Nat.two_pow_pos (a - u))) hs
  rw [hlowered] at hround
  unfold UnpackedFloat.round
  rw [targetExponent_eq hm, hu]
  dsimp only
  rwa [hexp]

end Rounding

section Packing

variable {spec : Format} {m a : Nat} {x y : UnpackedFloat}

/-- How often the smallest positive number is contained in a positive number. -/
def magnitude (spec : Format) : UnpackedFloat → ℕ∞
  | .infinity .positive => ⊤
  | .finite .positive m e _ => (m * 2 ^ (e - spec.minExponent).toNat : ℕ)
  | _ => 0

theorem magnitude_finite (hm : 0 < m) (a : Nat) :
    magnitude spec (.finite .positive m (spec.minExponent + a) hm) = (m * 2 ^ a : ℕ) := by
  simp [magnitude]

theorem finite_congr {m' : Nat} {e e' : Int} {hm : 0 < m} {hm' : 0 < m'} (h : m = m') (he : e = e') :
    UnpackedFloat.finite .positive m e hm = .finite .positive m' e' hm' := by
  subst h he
  rfl

theorem unpack_packedInfinity :
    unpack spec (packedInfinity spec .positive) = .infinity .positive := by
  simp [unpack, packedInfinity]

theorem unpack_packComponents_normal (hm : 0 < m) (hdigits : m.log2 + 1 = spec.mantissaBits)
    (ha : a + 2 < 2 ^ spec.exponentBits) :
    unpack spec (packComponents spec .positive (BitVec.ofNat spec.exponentBits (a + 1))
        (BitVec.ofNat spec.mantissaBitsWithoutImplicit m)) =
      .finite .positive m (spec.minExponent + a) hm := by
  have hmin := minExponent_eq spec
  have hexp : (BitVec.ofNat spec.exponentBits (a + 1)).toNat = a + 1 := by
    rw [BitVec.toNat_ofNat, Nat.mod_eq_of_lt (by omega)]
  have hinf : BitVec.ofNat spec.exponentBits (a + 1) ≠ -1#_ := by
    intro h
    rw [h, BitVec.neg_one_eq_allOnes, BitVec.toNat_allOnes] at hexp
    omega
  have hzero : BitVec.ofNat spec.exponentBits (a + 1) ≠ 0#_ := by
    intro h
    simp [h] at hexp
  have hman : (1#1 ++ BitVec.ofNat spec.mantissaBitsWithoutImplicit m).toNat = m := by
    have hlow : 2 ^ spec.mantissaBitsWithoutImplicit ≤ m := by
      rw [← Nat.le_log2 (by omega)]
      unfold Format.mantissaBits at hdigits
      omega
    have hhigh : m < 2 ^ (spec.mantissaBitsWithoutImplicit + 1) := by
      rw [← Nat.log2_lt (by omega)]
      unfold Format.mantissaBits at hdigits
      omega
    rw [toNat_one_append, BitVec.toNat_ofNat]
    rw [Nat.two_pow_succ] at hhigh
    have hmod : m % 2 ^ spec.mantissaBitsWithoutImplicit =
        m - 2 ^ spec.mantissaBitsWithoutImplicit := by
      rw [Nat.mod_eq_sub_mod hlow, Nat.mod_eq_of_lt (by omega)]
    omega
  unfold unpack
  simp only [unpackMantissa_packComponents, unpackExponent_packComponents, hinf, hzero, if_false]
  rw [unpackSign_packComponents]
  exact finite_congr hman (by rw [hexp]; omega)

theorem unpack_packComponents_subnormal (hm : 0 < m)
    (hlt : m < 2 ^ spec.mantissaBitsWithoutImplicit) :
    unpack spec (packComponents spec .positive (BitVec.ofNat spec.exponentBits 0)
        (BitVec.ofNat spec.mantissaBitsWithoutImplicit m)) =
      .finite .positive m spec.minExponent hm := by
  have hmin := minExponent_eq spec
  have he := spec.he
  have hman : (BitVec.ofNat spec.mantissaBitsWithoutImplicit m).toNat = m := by
    rw [BitVec.toNat_ofNat, Nat.mod_eq_of_lt hlt]
  have hzero : BitVec.ofNat spec.mantissaBitsWithoutImplicit m ≠ 0#_ := by
    intro h
    simp [h] at hman
    omega
  have hinf : BitVec.ofNat spec.exponentBits 0 ≠ -1#_ := by simp [Nat.ne_of_gt he]
  unfold unpack
  simp only [unpackMantissa_packComponents, unpackExponent_packComponents, hinf, hzero, if_false,
    if_true, dif_neg, not_false_eq_true]
  rw [unpackSign_packComponents]
  exact finite_congr hman (by simp; omega)

/-- A number beyond the range of the format becomes infinite when it is packed, and any other stays
what it is. -/
theorem unpack_pack_finite (hm : 0 < m) (hlt : m < 2 ^ spec.mantissaBits)
    (hnormal : m.log2 + 1 = spec.mantissaBits ∨ a = 0) :
    unpack spec (pack spec (.finite .positive m (spec.minExponent + a) hm)) =
      if 2 ^ spec.exponentBits ≤ a + 2 then .infinity .positive
      else .finite .positive m (spec.minExponent + a) hm := by
  have hmin := minExponent_eq spec
  have hbiased : (spec.minExponent + (a : Int) + spec.exponentBias +
      spec.mantissaBitsWithoutImplicit).toNat = a + 1 := by omega
  unfold pack
  dsimp only
  rw [hbiased]
  by_cases hinf : 2 ^ spec.exponentBits ≤ a + 2
  · rw [if_pos hinf, if_pos hinf, unpack_packedInfinity]
  · rw [if_neg hinf, if_neg hinf]
    by_cases hdigits : m.log2 + 1 = spec.mantissaBits
    · rw [if_pos hdigits]
      exact unpack_packComponents_normal hm hdigits (by omega)
    · obtain rfl := hnormal.resolve_left hdigits
      rw [if_neg hdigits, unpack_packComponents_subnormal hm]
      · exact finite_congr rfl (by simp)
      · have hlog := (Nat.log2_lt (by omega)).mpr hlt
        rw [← Nat.log2_lt (by omega)]
        unfold Format.mantissaBits at hlog hdigits
        omega

theorem exponent_le {p m' a' : Nat} (hm : 0 < m) (hnormal : m.log2 + 1 = p ∨ a = 0)
    (hlt' : m' < 2 ^ p) (h : m * 2 ^ a ≤ m' * 2 ^ a') : a ≤ a' := by
  by_contra hgt
  have hdigits : m.log2 + 1 = p := hnormal.resolve_right (by omega)
  have hlow : 2 ^ m.log2 ≤ m := Nat.log2_self_le (by omega)
  apply Nat.lt_irrefl (m * 2 ^ a)
  calc m * 2 ^ a ≤ m' * 2 ^ a' := h
    _ < 2 ^ p * 2 ^ a' := Nat.mul_lt_mul_of_pos_right hlt' (Nat.two_pow_pos a')
    _ = 2 ^ (p + a') := (Nat.pow_add 2 p a').symm
    _ ≤ 2 ^ (m.log2 + a) := Nat.pow_le_pow_right (by decide) (by omega)
    _ = 2 ^ m.log2 * 2 ^ a := Nat.pow_add 2 m.log2 a
    _ ≤ m * 2 ^ a := Nat.mul_le_mul_right _ hlow

/-- Packing keeps the order of numbers, since a larger one has no smaller exponent. -/
theorem magnitude_unpack_pack_le (hx : Canonical spec x) (hy : Canonical spec y)
    (h : magnitude spec x ≤ magnitude spec y) :
    magnitude spec (unpack spec (pack spec x)) ≤ magnitude spec (unpack spec (pack spec y)) := by
  rcases hy.cases with rfl | ⟨m', a', hm', rfl, hlt', hnormal'⟩
  · change _ ≤ magnitude spec (unpack spec (packedInfinity spec .positive))
    rw [unpack_packedInfinity]
    exact le_top
  rcases hx.cases with rfl | ⟨m, a, hm, rfl, hlt, hnormal⟩
  · rw [magnitude_finite] at h
    exact absurd (top_le_iff.mp h) (ENat.natCast_ne_top _)
  rw [unpack_pack_finite hm hlt hnormal, unpack_pack_finite hm' hlt' hnormal']
  by_cases hinf' : 2 ^ spec.exponentBits ≤ a' + 2
  · rw [if_pos hinf']
    exact le_top
  · have hvalue : m * 2 ^ a ≤ m' * 2 ^ a' := by
      rw [magnitude_finite, magnitude_finite] at h
      exact_mod_cast h
    have hle : a ≤ a' := exponent_le hm hnormal hlt' hvalue
    rwa [if_neg (by omega), if_neg hinf']

end Packing

section Sums

variable {spec : Format} {x y : UnpackedFloat}

theorem add_finite {m₁ a₁ m₂ a₂ : Nat} (hm₁ : 0 < m₁) (hm₂ : 0 < m₂) :
    ∃ m a hm, UnpackedFloat.add spec (.finite .positive m₁ (spec.minExponent + a₁) hm₁)
        (.finite .positive m₂ (spec.minExponent + a₂) hm₂) =
          .finite .positive m (spec.minExponent + (a : Nat)) hm ∧
      m < 2 ^ spec.mantissaBits ∧ (m.log2 + 1 = spec.mantissaBits ∨ a = 0) ∧
      m * 2 ^ a = rounded spec.mantissaBits (m₁ * 2 ^ a₁ + m₂ * 2 ^ a₂) := by
  obtain ⟨b, hb⟩ : ∃ b, min a₁ a₂ = b := ⟨_, rfl⟩
  have hmin : min (spec.minExponent + (a₁ : Int)) (spec.minExponent + (a₂ : Int)) =
      spec.minExponent + (b : Int) := by omega
  have hshift : ∀ a : Nat,
      (spec.minExponent + (a : Int) - (spec.minExponent + (b : Int))).toNat = a - b := by omega
  have hvalue : (m₁ * 2 ^ (a₁ - b) + m₂ * 2 ^ (a₂ - b)) * 2 ^ b =
      m₁ * 2 ^ a₁ + m₂ * 2 ^ a₂ := by
    rw [Nat.add_mul, Nat.mul_assoc, Nat.mul_assoc, ← Nat.pow_add, ← Nat.pow_add,
      Nat.sub_add_cancel (by omega), Nat.sub_add_cancel (by omega)]
  have hsum : 0 < m₁ * 2 ^ (a₁ - b) + m₂ * 2 ^ (a₂ - b) :=
    Nat.add_pos_left (Nat.mul_pos hm₁ (Nat.two_pow_pos _)) _
  have hround := @round_eq spec _ hsum b
  rw [hvalue, ← normalize_of_pos hsum .positive] at hround
  unfold UnpackedFloat.add
  simp only [decreaseExponent, hmin, hshift, Nat.shiftLeft_eq]
  exact_mod_cast hround

/-- The magnitude of a sum is the sum of the magnitudes, rounded. -/
theorem Canonical.add (hx : Canonical spec x) (hy : Canonical spec y) :
    Canonical spec (UnpackedFloat.add spec x y) ∧
      magnitude spec (UnpackedFloat.add spec x y) =
        WithTop.map (rounded spec.mantissaBits) (magnitude spec x + magnitude spec y) := by
  rcases hx.cases with rfl | ⟨m₁, a₁, hm₁, rfl, -, -⟩
  · rcases hy.cases with rfl | ⟨m₂, a₂, hm₂, rfl, -, -⟩
    · exact ⟨trivial, rfl⟩
    · exact ⟨trivial, rfl⟩
  · rcases hy.cases with rfl | ⟨m₂, a₂, hm₂, rfl, -, -⟩
    · exact ⟨trivial, rfl⟩
    · obtain ⟨m, a, hm, hadd, hlt, hnormal, hvalue⟩ :=
        @add_finite spec m₁ a₁ m₂ a₂ hm₁ hm₂
      rw [hadd, magnitude_finite, magnitude_finite, magnitude_finite, hvalue]
      refine ⟨⟨a, rfl, hlt, hnormal⟩, ?_⟩
      rfl

theorem Canonical.map_rounded (hx : Canonical spec x) :
    WithTop.map (rounded spec.mantissaBits) (magnitude spec x) = magnitude spec x := by
  rcases hx.cases with rfl | ⟨m, a, hm, rfl, hlt, -⟩
  · rfl
  · rw [magnitude_finite]
    exact congrArg ((↑) : ℕ → ℕ∞) (rounded_of_lt hm hlt a)

end Sums

section Numbers

variable {v w v' w' : Float32}

def mag (v : Float32) : ℕ∞ := magnitude .binary32 v.toModel.unpack

theorem canonical_of_pos (h : 0 < v) : Canonical .binary32 v.toModel.unpack :=
  canonical_unpack (pos_iff.mp h)

theorem isFinite_iff (h : 0 < v) : v.isFinite = true ↔ mag v ≠ ⊤ := by
  change v.toModel.unpack.isFinite = true ↔ magnitude .binary32 v.toModel.unpack ≠ ⊤
  rcases (canonical_of_pos h).cases with heq | ⟨m, a, hm, heq, -, -⟩ <;> rw [heq]
  · exact iff_of_false Bool.false_ne_true (fun hne => hne rfl)
  · rw [magnitude_finite]
    exact iff_of_true rfl (ENat.natCast_ne_top _)

theorem mag_add_le_add (hv : 0 < v) (hw : 0 < w) (hv' : 0 < v') (hw' : 0 < w')
    (h : mag v ≤ mag v') (h' : mag w ≤ mag w') : mag (v + w) ≤ mag (v' + w') := by
  obtain ⟨hcanon, hsum⟩ := (canonical_of_pos hv).add (canonical_of_pos hw)
  obtain ⟨hcanon', hsum'⟩ := (canonical_of_pos hv').add (canonical_of_pos hw')
  have hle : magnitude .binary32 v.toModel.unpack + magnitude .binary32 w.toModel.unpack ≤
      magnitude .binary32 v'.toModel.unpack + magnitude .binary32 w'.toModel.unpack :=
    add_le_add h h'
  refine magnitude_unpack_pack_le hcanon hcanon' ?_
  rw [hsum, hsum']
  exact (rounded_mono (by decide)).withTop_map hle

theorem mag_le_add {u : Float32} (hu : 0 < u) (hv : 0 < v) (hw : 0 < w)
    (h : mag u ≤ mag v + mag w) : mag u ≤ mag (v + w) := by
  have hcanon := canonical_of_pos hu
  obtain ⟨hcanon', hsum⟩ := (canonical_of_pos hv).add (canonical_of_pos hw)
  have hstays : unpack .binary32 (pack .binary32 u.toModel.unpack) = u.toModel.unpack :=
    congrArg (unpack .binary32) (pack_unpack_of_valid u.toModel.valid)
  have hgrows : magnitude .binary32 u.toModel.unpack ≤
      magnitude .binary32 (UnpackedFloat.add .binary32 v.toModel.unpack w.toModel.unpack) := by
    rw [hsum, ← hcanon.map_rounded]
    exact (rounded_mono (by decide)).withTop_map h
  have hpacked := magnitude_unpack_pack_le hcanon hcanon' hgrows
  rwa [hstays] at hpacked

theorem mag_le_add_left (hv : 0 < v) (hw : 0 < w) : mag v ≤ mag (v + w) :=
  mag_le_add hv hv hw le_self_add

theorem mag_le_add_right (hv : 0 < v) (hw : 0 < w) : mag w ≤ mag (v + w) :=
  mag_le_add hw hv hw le_add_self

end Numbers

end EdgeTiling.SinglePrecision
