import Mathlib

/-! Positive numbers in single precision. Rounding may bring a sum of positive numbers up to infinity
but never down to zero, because the exponents of the summands are already those of the format. -/

namespace EdgeTiling.SinglePrecision

open Float.Model (Format UnpackedFloat totalExponent)
open Float.Model.UnpackedFloat

section Rounding

variable {spec : Format} {m : Nat} {e : Int}

theorem mantissa_shiftRight (em : ExtendedMantissa) (k : Nat) :
    (em >>> k).mantissa = em.mantissa / 2 ^ k := by
  induction k with
  | zero => exact (Nat.div_one _).symm
  | succ k ih =>
    change (em >>> k).mantissa / 2 = _
    rw [ih, Nat.div_div_eq_div_mul, Nat.pow_succ]

theorem mantissa_le_roundedMantissa (em : ExtendedMantissa) : em.mantissa ≤ em.roundedMantissa := by
  obtain ⟨m, _ | _, _ | _⟩ := em <;>
    simp [ExtendedMantissa.roundedMantissa, ExtendedMantissa.accuracy,
      Accuracy.roundToNearestEven]

def shiftAmount (spec : Format) (m : Nat) (e : Int) : Nat :=
  (spec.targetExponent (totalExponent m e) - e).toNat

/-- The shift leaves the leading digit and not more digits than the format has. -/
theorem shiftAmount_bounds (he : spec.minExponent ≤ e) :
    shiftAmount spec m e ≤ m.log2 ∧ m.log2 < shiftAmount spec m e + spec.mantissaBits := by
  have hbits : 0 < spec.mantissaBits := by
    unfold Format.mantissaBits
    omega
  unfold shiftAmount Format.targetExponent totalExponent
  omega

theorem shiftToTargetExponent_bounds (hm : 0 < m) (he : spec.minExponent ≤ e) :
    0 < (shiftToTargetExponent spec m e .exact).1.mantissa ∧
      (shiftToTargetExponent spec m e .exact).1.mantissa < 2 ^ spec.mantissaBits ∧
      spec.minExponent ≤ (shiftToTargetExponent spec m e .exact).2 := by
  obtain ⟨hle, hlt⟩ := shiftAmount_bounds (m := m) he
  have hman : (shiftToTargetExponent spec m e .exact).1.mantissa =
      m / 2 ^ shiftAmount spec m e := mantissa_shiftRight _ _
  have hexp : (shiftToTargetExponent spec m e .exact).2 = e + shiftAmount spec m e := rfl
  rw [hman, hexp]
  refine ⟨?_, ?_, by omega⟩
  · apply Nat.div_pos _ (Nat.two_pow_pos _)
    calc 2 ^ shiftAmount spec m e ≤ 2 ^ m.log2 := Nat.pow_le_pow_right (by decide) hle
      _ ≤ m := Nat.log2_self_le (by omega)
  · rw [Nat.div_lt_iff_lt_mul (Nat.two_pow_pos _), ← Nat.pow_add]
    calc m < 2 ^ (m.log2 + 1) := Nat.lt_log2_self
      _ ≤ 2 ^ (spec.mantissaBits + shiftAmount spec m e) :=
        Nat.pow_le_pow_right (by decide) (by omega)

/-- A positive number with no more digits and no smaller exponent than the format has. -/
def Fitting (spec : Format) : UnpackedFloat → Prop
  | .infinity .positive => True
  | .finite .positive m e _ => m < 2 ^ spec.mantissaBits ∧ spec.minExponent ≤ e
  | _ => False

theorem fitting_roundWithAccuracy (hm : 0 < m) (he : spec.minExponent ≤ e) :
    Fitting spec (roundWithAccuracy spec .positive m e .exact) := by
  obtain ⟨hpos, -, hmin⟩ := shiftToTargetExponent_bounds hm he
  unfold roundWithAccuracy
  generalize shiftToTargetExponent spec m e .exact = first at hpos hmin ⊢
  -- rounding up may have added a digit, so the mantissa is shifted once more
  obtain ⟨hpos', hlt', hmin'⟩ := shiftToTargetExponent_bounds
    (Nat.lt_of_lt_of_le hpos (mantissa_le_roundedMantissa first.1)) hmin
  dsimp only
  split
  · omega
  · exact ⟨hlt', hmin'⟩

theorem shiftLeft_pos (hm : 0 < m) (k : Nat) : 0 < m <<< k := by
  rw [Nat.shiftLeft_eq]
  exact Nat.mul_pos hm (Nat.two_pow_pos k)

theorem fitting_round (hm : 0 < m) (he : spec.minExponent ≤ e) :
    Fitting spec (UnpackedFloat.round spec .positive m e) := by
  apply fitting_roundWithAccuracy
  · exact shiftLeft_pos hm _
  · unfold Format.targetExponent
    omega

theorem normalize_of_pos (hm : 0 < m) (zeroSign : Sign) :
    UnpackedFloat.normalize spec m e zeroSign = UnpackedFloat.round spec .positive m e := by
  have hgt : compare (m : Int) 0 = .gt := Int.compare_eq_gt.mpr (by omega)
  simp [UnpackedFloat.normalize, hgt]

theorem Fitting.add {x y : UnpackedFloat} (hx : Fitting spec x) (hy : Fitting spec y) :
    Fitting spec (UnpackedFloat.add spec x y) := by
  rcases x with (_ | _) | _ | _ | ⟨_ | _, m₁, e₁, hm₁⟩ <;> try exact hx.elim
  all_goals rcases y with (_ | _) | _ | _ | ⟨_ | _, m₂, e₂, hm₂⟩ <;> try exact hy.elim
  · trivial
  · trivial
  · trivial
  · obtain ⟨-, he₁⟩ := hx
    obtain ⟨-, he₂⟩ := hy
    have hsum : 0 < m₁ <<< (e₁ - min e₁ e₂).toNat + m₂ <<< (e₂ - min e₁ e₂).toNat :=
      Nat.add_pos_left (shiftLeft_pos hm₁ _) _
    have hround := fitting_round hsum (show spec.minExponent ≤ min e₁ e₂ by omega)
    rwa [← normalize_of_pos hsum .positive, Int.natCast_add] at hround

end Rounding

section Packing

variable {spec : Format} {x : UnpackedFloat}

theorem minExponent_eq (spec : Format) :
    spec.minExponent = 1 - (spec.exponentBias + spec.mantissaBitsWithoutImplicit : Int) := by
  have hpow : 0 < 2 ^ (spec.exponentBits - 1) := Nat.two_pow_pos _
  have hbias : (spec.exponentBias : Int) = 2 ^ (spec.exponentBits - 1) - 1 := by
    rw [Format.exponentBias, Int.natCast_sub hpow]
    simp
  unfold Format.minExponent Format.mantissaBits
  omega

theorem unpackSign_packComponents {sign : Sign} {e : BitVec spec.exponentBits}
    {m : BitVec spec.mantissaBitsWithoutImplicit} :
    unpackSign (packComponents spec sign e m) = sign.toBitVec := by
  ext i hi
  obtain rfl : i = 0 := by omega
  simp [unpackSign, packComponents, BitVec.getLsbD_append, BitVec.getElem_append]

def IsPositive : UnpackedFloat → Prop
  | .infinity .positive => True
  | .finite .positive _ _ _ => True
  | _ => False

/-- A positive number in the form in which the format keeps it: with all its digits, unless the
exponent is the least one. -/
def Canonical (spec : Format) : UnpackedFloat → Prop
  | .infinity .positive => True
  | .finite .positive m e _ => ∃ a : Nat, e = spec.minExponent + a ∧ m < 2 ^ spec.mantissaBits ∧
      (m.log2 + 1 = spec.mantissaBits ∨ a = 0)
  | _ => False

theorem Canonical.cases (h : Canonical spec x) : x = .infinity .positive ∨
    ∃ m a hm, x = .finite .positive m (spec.minExponent + (a : Nat)) hm ∧
      m < 2 ^ spec.mantissaBits ∧ (m.log2 + 1 = spec.mantissaBits ∨ a = 0) := by
  rcases x with (_ | _) | _ | _ | ⟨_ | _, m, e, hm⟩ <;> try exact h.elim
  · exact .inl rfl
  · obtain ⟨a, rfl, hlt, hnormal⟩ := h
    exact .inr ⟨m, a, hm, rfl, hlt, hnormal⟩

theorem Canonical.fitting (h : Canonical spec x) : Fitting spec x := by
  obtain rfl | ⟨m, a, hm, rfl, hlt, -⟩ := h.cases
  · trivial
  · exact ⟨hlt, by omega⟩

theorem toNat_one_append {k : Nat} (v : BitVec k) : (1#1 ++ v).toNat = 2 ^ k + v.toNat := by
  have h := Nat.two_pow_add_eq_or_of_lt v.isLt 1
  rw [Nat.mul_one] at h
  rw [h, BitVec.toNat_append, Nat.shiftLeft_eq]
  simp

theorem log2_one_append {k : Nat} (v : BitVec k) : (1#1 ++ v).toNat.log2 = k := by
  have hlt := v.isLt
  have hpos := Nat.two_pow_pos k
  rw [toNat_one_append, Nat.log2_eq_iff (by omega), Nat.two_pow_succ]
  omega

/-- What is unpacked has the digits and the exponents of the format. -/
theorem canonical_unpack {b : BitVec spec.numBits} (h : IsPositive (unpack spec b)) :
    Canonical spec (unpack spec b) := by
  have hmin := minExponent_eq spec
  revert h
  fun_cases unpack spec b with
  | case1 mantissa exponent signBit sign =>
    cases sign with
    | positive => exact id
    | negative => exact False.elim
  | case2 => exact False.elim
  | case3 => exact False.elim
  | case4 mantissa exponentBits exponent signBit sign hinf hzero hm =>
    cases sign with
    | negative => exact False.elim
    | positive =>
      have hzero' : exponentBits.toNat = 0 := by simp [hzero]
      refine fun _ => ⟨0, by omega, ?_, .inr rfl⟩
      calc mantissa.toNat < 2 ^ spec.mantissaBitsWithoutImplicit := mantissa.isLt
        _ ≤ 2 ^ spec.mantissaBits :=
          Nat.pow_le_pow_right (by decide) (by unfold Format.mantissaBits; omega)
  | case5 mantissa exponentBits exponent signBit sign hinf hzero =>
    cases sign with
    | negative => exact False.elim
    | positive =>
      have hpos : exponentBits.toNat ≠ 0 := by
        intro h0
        exact hzero (BitVec.eq_of_toNat_eq (by simpa using h0))
      refine fun _ => ⟨exponentBits.toNat - 1, by omega, (1#1 ++ mantissa).isLt, .inl ?_⟩
      rw [log2_one_append, Format.mantissaBits, Nat.add_comm]

theorem isPositive_unpack_packComponents {e : BitVec spec.exponentBits}
    {m : BitVec spec.mantissaBitsWithoutImplicit} (hne : e = 0#_ → m ≠ 0#_)
    (hnum : e = -1#_ → m = 0#_) :
    IsPositive (unpack spec (packComponents spec .positive e m)) := by
  unfold unpack
  simp only [unpackMantissa_packComponents, unpackExponent_packComponents,
    unpackSign_packComponents]
  by_cases he : e = -1#_
  · rw [if_pos he, if_pos (hnum he)]
    trivial
  · rw [if_neg he]
    by_cases h0 : e = 0#_
    · rw [if_pos h0, dif_neg (hne h0)]
      trivial
    · rw [if_neg h0]
      trivial

theorem Fitting.isPositive_unpack_pack (hx : Fitting spec x) :
    IsPositive (unpack spec (pack spec x)) := by
  have he := spec.he
  have hexp : (-1#_ : BitVec spec.exponentBits) ≠ 0#_ := by simp [Nat.ne_of_gt he]
  revert hx
  fun_cases pack spec x with
  | case1 => exact False.elim
  | case2 s =>
    cases s with
    | negative => exact False.elim
    | positive => exact fun _ => isPositive_unpack_packComponents (absurd · hexp) fun _ => rfl
  | case3 => exact False.elim
  | case4 s m e hm biased hinf =>
    cases s with
    | negative => exact False.elim
    | positive => exact fun _ => isPositive_unpack_packComponents (absurd · hexp) fun _ => rfl
  | case5 s m e hm digits biased hinf hnormal =>
    cases s with
    | negative => exact False.elim
    | positive =>
      rintro ⟨-, hmin⟩
      rw [minExponent_eq] at hmin
      have hval : (BitVec.ofNat spec.exponentBits biased).toNat = biased := by
        rw [BitVec.toNat_ofNat, Nat.mod_eq_of_lt (by omega)]
      refine isPositive_unpack_packComponents (fun h0 => ?_) fun h1 => ?_
      · rw [h0] at hval
        simp at hval
        omega
      · rw [h1, BitVec.neg_one_eq_allOnes, BitVec.toNat_allOnes] at hval
        omega
  | case6 s m e hm digits biased hinf hnormal =>
    cases s with
    | negative => exact False.elim
    | positive =>
      rintro ⟨hlt, -⟩
      have hlog : m.log2 < spec.mantissaBits := (Nat.log2_lt (by omega)).mpr hlt
      have hsmall : m < 2 ^ spec.mantissaBitsWithoutImplicit := by
        apply (Nat.log2_lt (by omega)).mp
        unfold Format.mantissaBits at hlog hnormal
        omega
      refine isPositive_unpack_packComponents (fun _ h0 => ?_) fun h1 => absurd h1.symm hexp
      have hval := congrArg BitVec.toNat h0
      rw [BitVec.toNat_ofNat, Nat.mod_eq_of_lt hsmall] at hval
      simp at hval
      omega

end Packing

section Numbers

variable {v w : Float32}

theorem unpack_zero : (0 : Float32).toModel.unpack = .zero .positive := by
  rfl

theorem lt_iff : v < w ↔ v.toModel.unpack.lt w.toModel.unpack = true :=
  decide_eq_true_iff

theorem le_iff : v ≤ w ↔ v.toModel.unpack.le w.toModel.unpack = true :=
  decide_eq_true_iff

theorem pos_iff : 0 < w ↔ IsPositive w.toModel.unpack := by
  rw [lt_iff, unpack_zero]
  generalize w.toModel.unpack = x
  rcases x with (_ | _) | _ | _ | ⟨_ | _, m, e, hm⟩ <;>
    simp [UnpackedFloat.lt, UnpackedFloat.compare, IsPositive]

theorem le_of_pos (h : 0 < w) : 0 ≤ w := by
  rw [pos_iff] at h
  rw [le_iff, unpack_zero]
  generalize w.toModel.unpack = x at h
  rcases x with (_ | _) | _ | _ | ⟨_ | _, m, e, hm⟩
  case infinity.positive => rfl
  case finite.positive => rfl
  all_goals exact h.elim

theorem beq_zero_of_pos (h : 0 < w) : (w == 0) = false := by
  rw [pos_iff] at h
  change w.toModel.unpack.beq (0 : Float32).toModel.unpack = false
  rw [unpack_zero]
  generalize w.toModel.unpack = x at h
  rcases x with (_ | _) | _ | _ | ⟨_ | _, m, e, hm⟩
  case infinity.positive => rfl
  case finite.positive => rfl
  all_goals exact h.elim

theorem isFinite_of_pos (h : 0 < w) : w.isFinite = !w.isInf := by
  rw [pos_iff] at h
  change w.toModel.unpack.isFinite = !w.toModel.unpack.isInf
  generalize w.toModel.unpack = x at h
  rcases x with (_ | _) | _ | _ | ⟨_ | _, m, e, hm⟩
  case infinity.positive => rfl
  case finite.positive => rfl
  all_goals exact h.elim

theorem pos_of_not_le (hnum : w.isNaN = false) (h : ¬ w ≤ 0) : 0 < w := by
  rw [le_iff, unpack_zero] at h
  rw [pos_iff]
  change w.toModel.unpack.isNaN = false at hnum
  generalize w.toModel.unpack = x at h hnum
  rcases x with (_ | _) | _ | _ | ⟨_ | _, m, e, hm⟩
  case infinity.positive => trivial
  case finite.positive => trivial
  case notANumber => contradiction
  all_goals exact absurd rfl h

theorem add_pos (hv : 0 < v) (hw : 0 < w) : 0 < v + w := by
  rw [pos_iff] at hv hw ⊢
  exact ((canonical_unpack hv).fitting.add (canonical_unpack hw).fitting).isPositive_unpack_pack

end Numbers

end EdgeTiling.SinglePrecision
