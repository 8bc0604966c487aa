import Mathlib
import CatalogReport.Decimal.Scale

/-!
# How far rounding can carry a float

In the logical model of floats a result is computed exactly and then cut down to 53 bits; rounding
moves it up by half a unit in the last place at most (`roundWithAccuracy_exact`). Hence whole
numbers and powers of ten become floats that are hardly larger (`AtMost`), and the product of two
such floats is no infinity as long as the product of their bounds stays below the overflow
(`AtMost.isInf_mul`). A decimal is read as such a product, and `isInf_mul_powerOfTen` says up to
where this is safe. Near the top of the range that depends on how the powers of ten happen to be
rounded, so these are evaluated.
-/

namespace CatalogReport.Decimal

open Float.Model Float.Model.UnpackedFloat

/-! ## Shifting out bits -/

theorem shiftRight_succ (em : ExtendedMantissa) (k : Nat) :
    em >>> (k + 1) = (em >>> k).shiftRightOne :=
  rfl

theorem shiftRight_mantissa (em : ExtendedMantissa) (k : Nat) :
    (em >>> k).mantissa = em.mantissa / 2 ^ k := by
  induction k with
  | zero => simp [HShiftRight.hShiftRight, Nat.repeat]
  | succ k ih =>
    rw [shiftRight_succ, ExtendedMantissa.shiftRightOne, ih, Nat.div_div_eq_div_mul, Nat.pow_succ]

/-- What is left of a mantissa, with the first bit that fell off as a half. -/
theorem shiftRight_le (n k : Nat) :
    (2 * ((⟨n, false, false⟩ : ExtendedMantissa) >>> k).mantissa +
      ((⟨n, false, false⟩ : ExtendedMantissa) >>> k).roundBit.toNat) * 2 ^ k ≤ 2 * n := by
  induction k with
  | zero => simp [HShiftRight.hShiftRight, Nat.repeat]
  | succ k ih =>
    rw [shiftRight_succ, ExtendedMantissa.shiftRightOne]
    set em := (⟨n, false, false⟩ : ExtendedMantissa) >>> k
    have halves : 2 * (em.mantissa / 2) + (em.mantissa % 2 != 0).toNat = em.mantissa := by
      rcases Nat.mod_two_eq_zero_or_one em.mantissa with h | h <;> simp [h] <;> omega
    calc (2 * (em.mantissa / 2) + (em.mantissa % 2 != 0).toNat) * 2 ^ (k + 1)
        = 2 * em.mantissa * 2 ^ k := by rw [halves]; ring
      _ ≤ (2 * em.mantissa + em.roundBit.toNat) * 2 ^ k := Nat.mul_le_mul_right _ (by omega)
      _ ≤ 2 * n := ih

theorem roundedMantissa_bounds (em : ExtendedMantissa) :
    em.mantissa ≤ em.roundedMantissa ∧ em.roundedMantissa ≤ em.mantissa + em.roundBit.toNat := by
  obtain ⟨n, round, sticky⟩ := em
  cases round <;> cases sticky <;>
    simp [ExtendedMantissa.roundedMantissa, ExtendedMantissa.accuracy,
      Accuracy.roundToNearestEven]
  omega

theorem targetExponent_binary64 (n : Nat) (e : Int) :
    Format.binary64.targetExponent (totalExponent n e) = max (n.log2 + e - 52) (-1074) := by
  simp only [Format.targetExponent, totalExponent, Format.mantissaBits, Format.minExponent]
  norm_num
  omega

/-- A mantissa with at least 53 bits that is not too small is cut down to 53. -/
theorem shiftToTargetExponent_cut {n : Nat} {e : Int} (bits : 52 ≤ n.log2)
    (normal : -1022 ≤ n.log2 + e) :
    shiftToTargetExponent Format.binary64 n e .exact =
      ((⟨n, false, false⟩ : ExtendedMantissa) >>> (n.log2 - 52), e + (n.log2 - 52 : Nat)) := by
  have amount : (Format.binary64.targetExponent (totalExponent n e) - e).toNat = n.log2 - 52 := by
    rw [targetExponent_binary64]
    omega
  simp only [shiftToTargetExponent, shiftToExponent, amount, ExtendedMantissa.ofMantissaAndAccuracy]

/-- A mantissa of 53 bits stays as it is. -/
theorem shiftToTargetExponent_keep {n : Nat} {e : Int} (bits : n.log2 = 52) (normal : -1074 ≤ e) :
    shiftToTargetExponent Format.binary64 n e .exact = (⟨n, false, false⟩, e) := by
  rw [shiftToTargetExponent_cut (by omega) (by omega), bits]
  simp [HShiftRight.hShiftRight, Nat.repeat]

/-- A mantissa that was rounded up to 54 bits loses its last one, a zero. -/
theorem shiftToTargetExponent_carry {e : Int} (normal : -1074 ≤ e) :
    shiftToTargetExponent Format.binary64 (2 ^ 53) e .exact = (⟨2 ^ 52, false, false⟩, e + 1) := by
  rw [shiftToTargetExponent_cut (by rw [Nat.log2_two_pow]; omega) (by rw [Nat.log2_two_pow]; omega),
    Nat.log2_two_pow]
  simp [HShiftRight.hShiftRight, Nat.repeat, ExtendedMantissa.shiftRightOne]

/-- The mantissa that is left when one is cut down to 53 bits. -/
theorem shiftRight_bounds {n : Nat} (bits : 52 ≤ n.log2) :
    2 ^ 52 ≤ n / 2 ^ (n.log2 - 52) ∧ n / 2 ^ (n.log2 - 52) < 2 ^ 53 := by
  have split : n.log2 = 52 + (n.log2 - 52) := by omega
  have nonzero : n ≠ 0 := by
    rintro rfl
    simp at bits
  rw [Nat.le_div_iff_mul_le (Nat.two_pow_pos _), Nat.div_lt_iff_lt_mul (Nat.two_pow_pos _),
    ← Nat.pow_add, ← Nat.pow_add]
  constructor
  · rw [← split]
    exact Nat.log2_self_le nonzero
  · rw [show 53 + (n.log2 - 52) = n.log2 + 1 by omega]
    exact Nat.lt_log2_self

/-- Rounding a whole number to 53 bits moves it up by half a unit in the last place at most. -/
theorem roundedMantissa_le (n : Nat) (k : Nat) :
    2 * (((⟨n, false, false⟩ : ExtendedMantissa) >>> k).roundedMantissa * 2 ^ k) ≤
      2 * n + 2 ^ k := by
  have exact := shiftRight_le n k
  set em := (⟨n, false, false⟩ : ExtendedMantissa) >>> k
  have rounded := (roundedMantissa_bounds em).2
  have bit : em.roundBit.toNat ≤ 1 := Bool.toNat_le _
  calc 2 * (em.roundedMantissa * 2 ^ k)
      ≤ 2 * ((em.mantissa + em.roundBit.toNat) * 2 ^ k) := by gcongr
    _ = (2 * em.mantissa + em.roundBit.toNat) * 2 ^ k + em.roundBit.toNat * 2 ^ k := by ring
    _ ≤ 2 * n + 1 * 2 ^ k := by gcongr
    _ = 2 * n + 2 ^ k := by rw [Nat.one_mul]

theorem roundedMantissa_value_le (n : Nat) (e : Int) (k : Nat) :
    (((⟨n, false, false⟩ : ExtendedMantissa) >>> k).roundedMantissa : ℚ) * 2 ^ (e + k) ≤
      n * 2 ^ e + 2 ^ (e + k - 1) := by
  have up : 2 * ((((⟨n, false, false⟩ : ExtendedMantissa) >>> k).roundedMantissa : ℚ) * 2 ^ k) ≤
      2 * n + 2 ^ k := by
    exact_mod_cast roundedMantissa_le n k
  have half : (2 : ℚ) ^ (e + k - 1) = 2 ^ k * 2 ^ e / 2 := by
    rw [zpow_sub₀ (by norm_num), zpow_add₀ (by norm_num), zpow_natCast, zpow_one, mul_comm]
  rw [zpow_add₀ (by norm_num), zpow_natCast, half]
  have unit : (0 : ℚ) < 2 ^ e := by positivity
  nlinarith

theorem roundWithAccuracy_exact (s : Sign) {n : Nat} {e : Int} (bits : 52 ≤ n.log2)
    (normal : -1022 ≤ n.log2 + e) :
    ∃ m q h, roundWithAccuracy Format.binary64 s n e .exact = .finite s m q h ∧ m.log2 = 52 ∧
      n.log2 + e - 52 ≤ q ∧ (m : ℚ) * 2 ^ q ≤ n * 2 ^ e + 2 ^ (n.log2 + e - 53) := by
  have cut := shiftToTargetExponent_cut bits normal
  have value := roundedMantissa_value_le n e (n.log2 - 52)
  obtain ⟨low, high⟩ := shiftRight_bounds bits
  generalize hk : n.log2 - 52 = k at *
  set em := (⟨n, false, false⟩ : ExtendedMantissa) >>> k with hem
  have mantissa : em.mantissa = n / 2 ^ k := shiftRight_mantissa _ k
  obtain ⟨below, above⟩ := roundedMantissa_bounds em
  have bit : em.roundBit.toNat ≤ 1 := Bool.toNat_le _
  set r := em.roundedMantissa
  rw [show e + k - 1 = n.log2 + e - 53 by omega] at value
  unfold roundWithAccuracy
  rw [cut]
  by_cases carry : r = 2 ^ 53
  · refine ⟨2 ^ 52, e + k + 1, by decide, ?_, Nat.log2_two_pow, by omega, ?_⟩
    · simp only [show em.roundedMantissa = 2 ^ 53 from carry,
        shiftToTargetExponent_carry (show -1074 ≤ e + k by omega)]
      rfl
    · refine le_of_eq_of_le ?_ value
      rw [carry, zpow_add₀ (by norm_num), zpow_one]
      push_cast
      ring
  · have pos : r ≠ 0 := by omega
    have normalized : r.log2 = 52 := (Nat.log2_eq_iff pos).2 ⟨by omega, by omega⟩
    refine ⟨r, e + k, Nat.pos_of_ne_zero pos, ?_, normalized, by omega, value⟩
    simp only [shiftToTargetExponent_keep (show em.roundedMantissa.log2 = 52 from normalized)
      (show -1074 ≤ e + k by omega)]
    rw [dif_neg pos]

theorem roundWithAccuracy_keep (s : Sign) {n : Nat} {e : Int} (h : 0 < n) (bits : n.log2 = 52)
    (normal : -1074 ≤ e) :
    roundWithAccuracy Format.binary64 s n e .exact = .finite s n e h := by
  have kept := shiftToTargetExponent_keep bits normal
  have rounded : (⟨n, false, false⟩ : ExtendedMantissa).roundedMantissa = n := rfl
  simp only [roundWithAccuracy, kept, rounded]
  rw [dif_neg h.ne']

/-! ## Packing -/

theorem exponentField_toNat {q : Int} (low : -1074 ≤ q) (high : q ≤ 971) :
    (BitVec.ofNat 11 (q + Format.binary64.exponentBias + (52 : Nat)).toNat).toNat =
      (q + 1075).toNat := by
  change (q + 1023 + 52).toNat % 2048 = (q + 1075).toNat
  omega

theorem mantissaField_toNat {m : Nat} (bits : m.log2 = 52) :
    (1#1 ++ BitVec.ofNat 52 m).toNat = m := by
  have nonzero : m ≠ 0 := by
    rintro rfl
    simp at bits
  obtain ⟨low, high⟩ := (Nat.log2_eq_iff nonzero).1 bits
  rw [BitVec.toNat_append, ← Nat.shiftLeft_add_eq_or_of_lt (BitVec.isLt _), BitVec.toNat_ofNat,
    Nat.shiftLeft_eq]
  simp only [BitVec.toNat_ofNat]
  omega

/-- A number of 53 bits in the range of the exponents is packed without loss. -/
theorem unpack_pack (s : Sign) {m : Nat} {q : Int} (h : 0 < m) (bits : m.log2 = 52)
    (low : -1074 ≤ q) (high : q ≤ 971) :
    ∃ s', (Float.Model.pack (.finite s m q h)).unpack = .finite s' m q h := by
  have field := exponentField_toNat low high
  have fits : ¬2 ^ Format.binary64.exponentBits ≤
      (q + Format.binary64.exponentBias +
        (Format.binary64.mantissaBitsWithoutImplicit : Nat)).toNat + 1 := by
    change ¬2048 ≤ (q + 1023 + 52).toNat + 1
    omega
  have full : m.log2 + 1 = Format.binary64.mantissaBits := by
    rw [bits]
    rfl
  generalize he :
    BitVec.ofNat 11 (q + Format.binary64.exponentBias + (52 : Nat)).toNat = exponent at field
  have notAll : exponent ≠ -1#11 := by
    rintro rfl
    change 2047 = (q + 1075).toNat at field
    omega
  have notZero : exponent ≠ 0#11 := by
    rintro rfl
    change 0 = (q + 1075).toNat at field
    omega
  simp only [Float.Model.pack, UnpackedFloat.pack, if_neg fits, if_pos full, Float.Model.unpack,
    UnpackedFloat.unpack, unpackMantissa_packComponents, unpackExponent_packComponents]
  simp only [he, if_neg notAll, if_neg notZero, field, mantissaField_toNat bits]
  have restored : ((q + 1075).toNat : Int) - (Format.binary64.exponentBias + (52 : Nat)) = q := by
    change ((q + 1075).toNat : Int) - 1075 = q
    omega
  simp only [restored]
  exact ⟨_, rfl⟩

/-! ## Products -/

/-- The float is a positive or negative number of 53 bits that is at most `bound`. -/
def AtMost (x : Float) (bound : ℚ) : Prop :=
  ∃ s m q h, x.toModel.unpack = .finite s m q h ∧ m.log2 = 52 ∧ -52 ≤ q ∧
    (m : ℚ) * 2 ^ q ≤ bound

def overflow : Nat :=
  2 ^ 1024 - 2 ^ 970

theorem overflow_eq : (overflow : ℚ) = 2 ^ (1024 : Int) - 2 ^ (970 : Int) := by
  have le : 2 ^ 970 ≤ 2 ^ 1024 := by decide +kernel
  rw [overflow, Nat.cast_sub le, Nat.cast_pow, Nat.cast_pow]
  rfl

theorem exponent_le_of_lt_overflow {n m : Nat} {e q : Int} (positive : n ≠ 0) (bits : m.log2 = 52)
    (up : (m : ℚ) * 2 ^ q ≤ n * 2 ^ e + 2 ^ (n.log2 + e - 53))
    (below : (n : ℚ) * 2 ^ e < overflow) :
    q ≤ 971 := by
  by_contra! large
  have nonzero : m ≠ 0 := by
    rintro rfl
    simp at bits
  have mantissa : (2 : ℚ) ^ (52 : Nat) ≤ m := by
    exact_mod_cast ((Nat.log2_eq_iff nonzero).1 bits).1
  have leading : (2 : ℚ) ^ n.log2 ≤ n := by exact_mod_cast Nat.log2_self_le positive
  have grows {a b : Int} (h : a ≤ b) : (2 : ℚ) ^ a ≤ 2 ^ b := zpow_le_zpow_right₀ (by norm_num) h
  have value : (2 : ℚ) ^ (1024 : Int) ≤ m * 2 ^ q := by
    calc (2 : ℚ) ^ (1024 : Int) ≤ 2 ^ ((52 : Nat) + q) := grows (by omega)
      _ = 2 ^ (52 : Nat) * 2 ^ q := by rw [zpow_add₀ (by norm_num), zpow_natCast]
      _ ≤ m * 2 ^ q := by gcongr
  have exact : (2 : ℚ) ^ (n.log2 + e) ≤ n * 2 ^ e := by
    rw [zpow_add₀ (by norm_num), zpow_natCast]
    gcongr
  rw [overflow_eq] at below
  rcases le_or_gt 1024 (n.log2 + e : Int) with high | small
  · have past := grows high
    have unit : (0 : ℚ) < 2 ^ (970 : Int) := zpow_pos (by norm_num) _
    exact absurd (le_trans past exact) (not_le.2 (lt_trans below (sub_lt_self _ unit)))
  · have half := grows (show (n.log2 + e - 53 : Int) ≤ 970 by omega)
    exact absurd (le_trans value up) (by linarith only [below, half])

theorem exists_round {x : Float} {s : Sign} {n : Nat} {e : Int}
    (h : x.toModel = .pack (roundWithAccuracy Format.binary64 s n e .exact)) (bits : 52 ≤ n.log2)
    (large : 0 ≤ n.log2 + e) (below : (n : ℚ) * 2 ^ e < overflow) :
    ∃ s m q h, x.toModel.unpack = .finite s m q h ∧ m.log2 = 52 ∧ n.log2 + e - 52 ≤ q ∧
      (m : ℚ) * 2 ^ q ≤ n * 2 ^ e + n * 2 ^ e / 2 ^ 53 := by
  have nonzero : n ≠ 0 := by
    rintro rfl
    simp at bits
  obtain ⟨m, q, hm, rounded, normal, low, up⟩ :=
    roundWithAccuracy_exact s (e := e) bits (by omega)
  obtain ⟨s', packed⟩ :=
    unpack_pack s hm normal (by omega) (exponent_le_of_lt_overflow nonzero normal up below)
  refine ⟨s', m, q, hm, ?_, normal, low, le_trans up ?_⟩
  · rw [h, rounded, packed]
  · have leading : (2 : ℚ) ^ n.log2 ≤ n := by exact_mod_cast Nat.log2_self_le nonzero
    have half : (2 : ℚ) ^ (n.log2 + e - 53) ≤ n * 2 ^ e / 2 ^ 53 := by
      rw [zpow_sub₀ (by norm_num), zpow_add₀ (by norm_num), zpow_natCast]
      gcongr
      norm_num
    exact add_le_add_right half _

theorem atMost_round {x : Float} {s : Sign} {n : Nat} {e : Int}
    (h : x.toModel = .pack (roundWithAccuracy Format.binary64 s n e .exact)) (bits : 52 ≤ n.log2)
    (large : 0 ≤ n.log2 + e) (below : (n : ℚ) * 2 ^ e < overflow) :
    AtMost x (n * 2 ^ e + n * 2 ^ e / 2 ^ 53) := by
  obtain ⟨s, m, q, hm, unpack, normal, low, up⟩ := exists_round h bits large below
  exact ⟨s, m, q, hm, unpack, normal, by omega, up⟩

theorem AtMost.isInf {x : Float} {a : ℚ} (h : AtMost x a) : x.isInf = false := by
  obtain ⟨s, m, q, hm, unpack, -⟩ := h
  change x.toModel.unpack.isInf = false
  rw [unpack]
  rfl

theorem AtMost.isInf_mul {x y : Float} {a b : ℚ} (hx : AtMost x a) (hy : AtMost y b)
    (below : a * b < overflow) : (x * y).isInf = false := by
  obtain ⟨s₁, m₁, q₁, h₁, unpack₁, bits₁, low₁, le₁⟩ := hx
  obtain ⟨s₂, m₂, q₂, h₂, unpack₂, bits₂, low₂, le₂⟩ := hy
  have least₁ := Nat.log2_self_le h₁.ne'
  have least₂ := Nat.log2_self_le h₂.ne'
  rw [bits₁] at least₁
  rw [bits₂] at least₂
  have bits : 104 ≤ (m₁ * m₂).log2 :=
    (Nat.le_log2 (Nat.mul_pos h₁ h₂).ne').2 (by
      rw [show 104 = 52 + 52 from rfl, Nat.pow_add]
      exact Nat.mul_le_mul least₁ least₂)
  have value : ((m₁ * m₂ : Nat) : ℚ) * 2 ^ (q₁ + q₂) < overflow := by
    refine lt_of_le_of_lt ?_ below
    calc ((m₁ * m₂ : Nat) : ℚ) * 2 ^ (q₁ + q₂) = (m₁ * 2 ^ q₁) * (m₂ * 2 ^ q₂) := by
          rw [zpow_add₀ (by norm_num)]
          push_cast
          ring
      _ ≤ a * b := mul_le_mul le₁ le₂ (by positivity) (le_trans (by positivity) le₁)
  have product : (x * y).toModel =
      .pack (roundWithAccuracy Format.binary64 (s₁ * s₂) (m₁ * m₂) (q₁ + q₂) .exact) := by
    change Float.Model.pack
      (UnpackedFloat.mul Format.binary64 x.toModel.unpack y.toModel.unpack) = _
    rw [unpack₁, unpack₂]
    rfl
  exact (atMost_round product (by omega) (by omega) value).isInf

theorem log2_shiftLeft {n : Nat} (h : n ≠ 0) (k : Nat) : (n <<< k).log2 = n.log2 + k := by
  have widened : n <<< k ≠ 0 := by simp [h]
  obtain ⟨low, high⟩ := (Nat.log2_eq_iff h).1 rfl
  rw [Nat.log2_eq_iff widened, Nat.shiftLeft_eq, Nat.pow_add,
    show n.log2 + k + 1 = n.log2 + 1 + k by omega, Nat.pow_add]
  exact ⟨Nat.mul_le_mul_right _ low, Nat.mul_lt_mul_of_pos_right high (Nat.two_pow_pos k)⟩

theorem shiftLeft_mul_zpow (n k : Nat) : ((n <<< k : Nat) : ℚ) * 2 ^ (-(k : Int)) = n := by
  rw [Nat.shiftLeft_eq, zpow_neg, zpow_natCast]
  push_cast
  field_simp

/-- A whole number of 64 bits is rounded from 53 bits or more. -/
theorem toModel_toFloat {n : Nat} (positive : 0 < n) (h : n < UInt64.size) :
    (UInt64.ofNat n).toFloat.toModel = .pack (roundWithAccuracy Format.binary64 .positive
      (n <<< (52 - n.log2)) (-(52 - n.log2 : Nat)) .exact) := by
  have amount : (0 - Format.binary64.targetExponent (totalExponent n 0)).toNat = 52 - n.log2 := by
    rw [targetExponent_binary64]
    omega
  have order : compare (n : Int) 0 = .gt := by
    rw [compare_gt_iff_gt]
    exact_mod_cast positive
  have value : (UInt64.ofNat n).toNat = n := UInt64.toNat_ofNat_of_lt h
  change Float.Model.pack
    (UnpackedFloat.normalize Format.binary64 ((UInt64.ofNat n).toNat : Nat) 0 .positive) = _
  rw [value]
  simp only [UnpackedFloat.normalize, order, UnpackedFloat.round, decreaseExponent,
    Int.toNat_natCast, amount]
  rw [Int.zero_sub]

theorem atMost_toFloat_small {n : Nat} (positive : 0 < n) (h : n < 2 ^ 53) :
    AtMost (UInt64.ofNat n).toFloat n := by
  have size : n.log2 < 53 := (Nat.log2_lt positive.ne').2 h
  have widened : (n <<< (52 - n.log2)).log2 = 52 := by
    rw [log2_shiftLeft positive.ne']
    omega
  have wide : n < UInt64.size := Nat.lt_trans h (by decide)
  have nonzero : 0 < n <<< (52 - n.log2) := by simp [Nat.shiftLeft_eq, positive]
  have kept :=
    roundWithAccuracy_keep .positive (e := -(52 - n.log2 : Nat)) nonzero widened (by omega)
  obtain ⟨s, packed⟩ := unpack_pack .positive nonzero widened
    (q := -(52 - n.log2 : Nat)) (by omega) (by omega)
  refine ⟨s, _, _, nonzero, ?_, widened, by omega, le_of_eq (shiftLeft_mul_zpow n _)⟩
  rw [toModel_toFloat positive wide, kept, packed]

theorem atMost_toFloat {n : Nat} (positive : 0 < n) (h : n < UInt64.size) :
    AtMost (UInt64.ofNat n).toFloat (n + n / 2 ^ 53 : Nat) := by
  rcases Nat.lt_or_ge n (2 ^ 53) with small | large
  · rw [Nat.div_eq_of_lt small, Nat.add_zero]
    exact atMost_toFloat_small positive small
  · have bits : 53 ≤ n.log2 := (Nat.le_log2 positive.ne').2 large
    have unshifted : n <<< (52 - n.log2) = n := by
      rw [show 52 - n.log2 = 0 by omega, Nat.shiftLeft_zero]
    have model := toModel_toFloat positive h
    rw [unshifted, show 52 - n.log2 = 0 by omega] at model
    have value : (n : ℚ) * 2 ^ (-(0 : Nat) : Int) = n := by simp
    obtain ⟨s, m, q, hm, unpack, normal, low, up⟩ := exists_round model (by omega) (by omega) (by
      rw [value]
      exact_mod_cast Nat.lt_trans h (by decide +kernel))
    obtain ⟨q, rfl⟩ := Int.eq_ofNat_of_zero_le (show 0 ≤ q by omega)
    refine ⟨s, m, q, hm, unpack, normal, by omega, ?_⟩
    rw [value, zpow_natCast] at up
    have whole : m * 2 ^ q * 2 ^ 53 ≤ n + n * 2 ^ 53 := by
      have scaled : (m : ℚ) * 2 ^ q * 2 ^ 53 ≤ n + n * 2 ^ 53 := by linarith
      exact_mod_cast scaled
    rw [← Nat.le_div_iff_mul_le (Nat.two_pow_pos _), Nat.add_mul_div_right _ _ (Nat.two_pow_pos _),
      Nat.add_comm] at whole
    rw [zpow_natCast]
    exact_mod_cast whole

/-- A power of ten that is not tabulated. -/
theorem atMost_powerOfTen {e : Nat} (low : 23 ≤ e) (high : e ≤ 308) :
    AtMost (powerOfTen e) (10 ^ e + 10 ^ e / 2 ^ 53) := by
  have bits : (1 <<< 53 * 10 ^ e : Nat).log2 = (10 ^ e).log2 + 53 := by
    rw [Nat.one_shiftLeft, Nat.mul_comm, ← Nat.shiftLeft_eq, log2_shiftLeft (by positivity)]
  have exact : ((1 <<< 53 * 10 ^ e : Nat) : ℚ) * 2 ^ (-53 : Int) = 10 ^ e := by
    rw [Nat.one_shiftLeft, Nat.mul_comm, ← Nat.shiftLeft_eq]
    exact_mod_cast shiftLeft_mul_zpow (10 ^ e) 53
  have rounded : (powerOfTen e).toModel = .pack (roundWithAccuracy Format.binary64
      .positive (1 <<< 53 * 10 ^ e) (-53) .exact) := by
    unfold powerOfTen Float.ofScientific
    rw [dif_neg (by omega)]
    change Float.Model.pack (UnpackedFloat.ofScientific Format.binary64 1 (e : Int)) = _
    unfold UnpackedFloat.ofScientific
    rw [dif_neg (by decide), if_neg (by change ¬(e : Int) > 2048; omega),
      if_neg (by change ¬(e : Int) < -(2048 + 0); omega), if_pos (by omega)]
    rfl
  have bound := atMost_round rounded (by omega) (by omega) (by
    rw [exact]
    exact_mod_cast Nat.lt_of_le_of_lt (Nat.pow_le_pow_right (by decide) high)
      (by decide +kernel : 10 ^ 308 < overflow))
  rwa [exact] at bound

def lastMiddle : Nat :=
  (2 ^ 54 - 3) * 2 ^ 970

/-- Whether the float next to a power of ten stays below the overflow when it is multiplied by a
significand of eighteen digits that the exact power brings to the last middle at most. -/
def powerFits (e : Nat) : Bool :=
  let room := min (10 ^ 18) (lastMiddle / 10 ^ e)
  match (powerOfTen e).toModel.unpack with
  | .finite _ m q _ =>
    m.log2 == 52 && -52 ≤ q &&
      (room + room / 2 ^ 53) * m * 2 ^ q.toNat < overflow * 2 ^ (-q).toNat
  | _ => false

theorem powerFits_tabulated : ∀ e < 23, powerFits e = true := by
  decide +kernel

theorem powerFits_last : ∀ k < 19, powerFits (290 + k) = true := by
  decide +kernel

theorem zpow_eq_div (b : ℚ) (q : Int) : b ^ q = b ^ q.toNat / b ^ (-q).toNat := by
  rcases le_total 0 q with low | high
  · obtain ⟨n, rfl⟩ := Int.eq_ofNat_of_zero_le low
    simp
  · obtain ⟨n, hn⟩ := Int.eq_ofNat_of_zero_le (show 0 ≤ -q by omega)
    rw [show q = -n by omega]
    simp

theorem isInf_of_powerFits {n e : Nat} (positive : 0 < n) (short : n ≤ 10 ^ 18)
    (middle : n * 10 ^ e ≤ lastMiddle) (h : powerFits e = true) :
    ((UInt64.ofNat n).toFloat * powerOfTen e).isInf = false := by
  have factor := atMost_toFloat positive (Nat.lt_of_le_of_lt short (by decide))
  have room : n ≤ min (10 ^ 18) (lastMiddle / 10 ^ e) :=
    le_min short ((Nat.le_div_iff_mul_le (Nat.pow_pos (by decide))).2 middle)
  unfold powerFits at h
  generalize min (10 ^ 18) (lastMiddle / 10 ^ e) = most at h room
  dsimp only at h
  split at h
  · rename_i s m q hm unpack
    simp only [Bool.and_eq_true, beq_iff_eq, decide_eq_true_eq] at h
    obtain ⟨⟨bits, low⟩, fits⟩ := h
    refine factor.isInf_mul ⟨s, m, q, hm, unpack, bits, low, le_rfl⟩ ?_
    have exact : (n + n / 2 ^ 53) * m * 2 ^ q.toNat < overflow * 2 ^ (-q).toNat :=
      Nat.lt_of_le_of_lt (by gcongr) fits
    have cast : ((n + n / 2 ^ 53 : Nat) : ℚ) * m * 2 ^ q.toNat < overflow * 2 ^ (-q).toNat := by
      exact_mod_cast exact
    rwa [zpow_eq_div, ← mul_assoc, ← mul_div_assoc, div_lt_iff₀ (by positivity)]
  · cases h

theorem exponent_lt_of_le_lastMiddle {n e : Nat} (positive : 0 < n)
    (middle : n * 10 ^ e ≤ lastMiddle) : e < 309 := by
  by_contra! large
  obtain ⟨k, rfl⟩ := Nat.exists_eq_add_of_le large
  rw [Nat.pow_add] at middle
  have beyond : lastMiddle < 10 ^ 309 := by decide +kernel
  have least : 10 ^ 309 * 1 ≤ 10 ^ 309 * 10 ^ k := Nat.mul_le_mul_left _ (Nat.pow_pos (by decide))
  have more : 10 ^ 309 * 10 ^ k ≤ n * (10 ^ 309 * 10 ^ k) := Nat.le_mul_of_pos_left _ positive
  omega

/-- What is read for a significand and an exponent stays a number up to the last middle. -/
theorem isInf_mul_powerOfTen {n e : Nat} (positive : 0 < n) (short : n ≤ 10 ^ 18)
    (middle : n * 10 ^ e ≤ lastMiddle) :
    ((UInt64.ofNat n).toFloat * powerOfTen e).isInf = false := by
  have range := exponent_lt_of_le_lastMiddle positive middle
  rcases Nat.lt_or_ge e 23 with tabulated | rounded
  · exact isInf_of_powerFits positive short middle (powerFits_tabulated e tabulated)
  rcases Nat.lt_or_ge e 290 with far | last
  · have factor := atMost_toFloat positive (Nat.lt_of_le_of_lt short (by decide))
    refine factor.isInf_mul (atMost_powerOfTen rounded (by omega)) ?_
    have half (x : ℚ) (h : 0 ≤ x) : x / 2 ^ 53 ≤ x := div_le_self h (by norm_num)
    have significand : ((n + n / 2 ^ 53 : Nat) : ℚ) ≤ (10 ^ 18 + 10 ^ 18 : Nat) := by
      exact_mod_cast Nat.add_le_add short (Nat.le_trans (Nat.div_le_self n _) short)
    have power : (10 : ℚ) ^ e ≤ 10 ^ 289 := pow_le_pow_right₀ (by norm_num) (by omega)
    have limit : (10 ^ 18 + 10 ^ 18) * (10 ^ 289 + 10 ^ 289) < overflow := by decide +kernel
    have cast : ((10 ^ 18 + 10 ^ 18 : Nat) : ℚ) * ((10 : ℚ) ^ 289 + (10 : ℚ) ^ 289) < overflow := by
      exact_mod_cast limit
    have upward : (10 : ℚ) ^ e + 10 ^ e / 2 ^ 53 ≤ 10 ^ 289 + 10 ^ 289 :=
      add_le_add power ((half _ (by positivity)).trans power)
    exact lt_of_le_of_lt (mul_le_mul significand upward (by positivity) (by positivity)) cast
  · obtain ⟨k, rfl⟩ := Nat.exists_eq_add_of_le last
    exact isInf_of_powerFits positive short middle (powerFits_last k (by omega))

end CatalogReport.Decimal
