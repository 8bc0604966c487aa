import CatalogReport.Proofs.FloatRounding
import CatalogReport.Proofs.FloatText

/-!
# The texts of floats are read as floats

A float is written with the shortest digits that identify it. These lie at most half a unit in the
last place above it (`shortest_value_le`) and are eighteen at most (`shortest_digits_le`), so
scaling them by their exponent does not overflow (`fits_shortest`). What the text is taken apart
into is these digits and this exponent, or, in positional form, something that is scaled down. Hence
the text of a finite float is read as a float again (`Json.draft_ofFloat`). That need not be the
float itself, since the scaling is rounded twice.
-/

namespace CatalogReport

namespace Decimal

/-! ## Where the shortest digits lie -/

def Digits.value (d : Digits) : ℚ :=
  d.digits * 10 ^ d.exponent

theorem value_trimZeros (digits : Nat) (exponent : Int) (fuel : Nat) :
    (Digits.trimZeros digits exponent fuel).value = digits * 10 ^ exponent := by
  induction fuel generalizing digits exponent with
  | zero => rfl
  | succ fuel ih =>
    unfold Digits.trimZeros
    split
    · rename_i h
      simp only [Bool.and_eq_true, beq_iff_eq] at h
      have tens : ((digits / 10 : Nat) : ℚ) * 10 = digits := by
        exact_mod_cast (by omega : digits / 10 * 10 = digits)
      rw [ih, zpow_add_one₀ (by norm_num), ← tens]
      ring
    · rfl

theorem trimZeros_le (digits : Nat) (exponent : Int) (fuel : Nat) :
    (Digits.trimZeros digits exponent fuel).digits ≤ digits := by
  induction fuel generalizing digits exponent with
  | zero => exact Nat.le_refl _
  | succ fuel ih =>
    unfold Digits.trimZeros
    split
    · exact Nat.le_trans (ih _ _) (Nat.div_le_self _ _)
    · exact Nat.le_refl _

theorem holds_of_nearest? {tie : Tie} {i : Interval} {n : Nat} (h : i.nearest? tie = some n) :
    i.holds n = true := by
  unfold Interval.nearest? at h
  grind

theorem nearest?_le {tie : Tie} {i : Interval} {n : Nat} (h : i.nearest? tie = some n) :
    n ≤ i.value / i.denominator + 1 := by
  unfold Interval.nearest? at h
  grind

namespace Interval

theorem rescale_quotient (i : Interval) (exponent : Int) (n : Nat) :
    ((n * Nat.pow 10 (-exponent).toNat : Nat) : ℚ) / (i.rescale exponent).denominator =
      n / i.denominator / 10 ^ exponent := by
  rw [zpow_eq_div 10 exponent]
  simp only [rescale, Nat.pow_eq]
  push_cast
  field_simp

theorem le_high_of_holds {i : Interval} {exponent : Int} {n : Nat} (hd : 0 < i.denominator)
    (h : (i.rescale exponent).holds n = true) :
    (n : ℚ) * 10 ^ exponent ≤ i.high / i.denominator := by
  have most : n * (i.rescale exponent).denominator ≤ (i.rescale exponent).high := by
    unfold holds at h
    grind
  have positive : (0 : ℚ) < (i.rescale exponent).denominator := by
    exact_mod_cast Nat.mul_pos hd (Nat.pow_pos (by decide))
  have quotient := i.rescale_quotient exponent i.high
  rw [← le_div_iff₀ (by positivity), ← quotient, le_div_iff₀ positive]
  exact_mod_cast most

theorem floor_le (i : Interval) (exponent : Int) :
    (((i.rescale exponent).value / (i.rescale exponent).denominator : Nat) : ℚ) ≤
      i.value / i.denominator / 10 ^ exponent := by
  rw [← rescale_quotient]
  exact Nat.cast_div_le

end Interval

/-- No digit string that the search returns is above the interval. -/
theorem searchGrid_value_le {tie : Tie} {i : Interval} {exponent : Int} (fuel : Nat)
    (hd : 0 < i.denominator) (hh : i.value ≤ i.high) :
    (searchGrid tie i exponent fuel).value ≤ i.high / i.denominator := by
  induction fuel generalizing exponent with
  | zero =>
    have floor := i.floor_le exponent
    rw [le_div_iff₀ (by positivity)] at floor
    refine le_trans floor ?_
    gcongr
  | succ fuel ih =>
    unfold searchGrid
    split
    · rename_i digits hit
      rw [value_trimZeros]
      exact Interval.le_high_of_holds hd (holds_of_nearest? hit)
    · exact ih

/-- The value has so many digits before the point, counted from the leading one. -/
theorem Interval.lt_leading {i : Interval} (hv : 0 < i.value) (hd : 0 < i.denominator) :
    (i.value : ℚ) / i.denominator < 10 ^ (i.leading + 1) := by
  rw [div_lt_iff₀ (by exact_mod_cast hd)]
  unfold leading
  split
  · have bound := lt_pow_length_toDigits (i.value / i.denominator)
    rw [Nat.div_lt_iff_lt_mul hd] at bound
    rw [sub_add_cancel, zpow_natCast]
    exact_mod_cast bound
  · rename_i below
    have quotient : 0 < (i.denominator - 1) / i.value := Nat.div_pos (by omega) hv
    have bound := pow_length_toDigits_le quotient
    have length := Nat.length_toDigits_pos (b := 10) (n := (i.denominator - 1) / i.value)
    rw [Nat.le_div_iff_mul_le hv] at bound
    generalize (Nat.toDigits 10 ((i.denominator - 1) / i.value)).length = k at bound length
    obtain ⟨k, rfl⟩ : ∃ j, k = j + 1 := ⟨k - 1, by omega⟩
    rw [show -((k + 1 : Nat) : Int) + 1 = -k by push_cast; ring, zpow_neg, zpow_natCast,
      inv_mul_eq_div, lt_div_iff₀ (by positivity), mul_comm]
    have less : Nat.pow 10 k * i.value < i.denominator := by
      have : Nat.pow 10 (k + 1 - 1) * i.value ≤ i.denominator - 1 := bound
      rw [Nat.add_sub_cancel] at this
      omega
    exact_mod_cast less

/-- The search stops at eighteen digits. The induction keeps the distance between the top of the
value and the grid, which is one digit more for each grid that was tried. -/
theorem searchGrid_digits_le {tie : Tie} {i : Interval} {exponent top : Int} (fuel : Nat)
    (ht : (i.value : ℚ) / i.denominator < 10 ^ top)
    (h : top + fuel ≤ exponent + 18) : (searchGrid tie i exponent fuel).digits ≤ 10 ^ 18 := by
  have floor (e : Int) (he : top ≤ e + 18) :
      (i.rescale e).value / (i.rescale e).denominator < 10 ^ 18 := by
    have less : (i.value : ℚ) / i.denominator / 10 ^ e < 10 ^ 18 := by
      rw [div_lt_iff₀ (by positivity), ← zpow_natCast, ← zpow_add₀ (by norm_num)]
      exact lt_of_lt_of_le ht (zpow_le_zpow_right₀ (by norm_num) (by push_cast; omega))
    exact_mod_cast lt_of_le_of_lt (i.floor_le e) less
  induction fuel generalizing exponent with
  | zero => exact Nat.le_of_lt (floor exponent (by omega))
  | succ fuel ih =>
    unfold searchGrid
    split
    · rename_i digits hit
      exact Nat.le_trans (trimZeros_le _ _ _)
        (Nat.le_trans (nearest?_le hit) (floor exponent (by omega)))
    · exact ih (by omega)

theorem shortest_digits_le (tie : Tie) {mantissa : Nat} (h : 0 < mantissa) (exponent : Int) :
    (shortest tie mantissa exponent).digits ≤ 10 ^ 18 :=
  searchGrid_digits_le 17 (Interval.lt_leading (Interval.ofBinary_value_pos h exponent)
    (Interval.ofBinary_denominator_pos mantissa exponent)) (by push_cast; omega)

/-- The shortest digits are at most half a unit in the last place above the number. -/
theorem shortest_value_le (tie : Tie) (mantissa : Nat) (exponent : Int) :
    (shortest tie mantissa exponent).value ≤ (4 * mantissa + 2 : Nat) * 2 ^ (exponent - 2) := by
  have le : (Interval.ofBinary mantissa exponent).value ≤
      (Interval.ofBinary mantissa exponent).high := by
    simp only [Interval.ofBinary]
    gcongr
    omega
  refine le_of_le_of_eq
    (searchGrid_value_le 17 (Interval.ofBinary_denominator_pos mantissa exponent) le) ?_
  rw [zpow_eq_div 2 (exponent - 2), show -(exponent - 2) = 2 - exponent by ring]
  simp only [Interval.ofBinary, Nat.one_shiftLeft]
  push_cast
  ring

/-! ## Decimals that are read as numbers -/

def Digits.Fits (d : Digits) : Prop :=
  0 ≤ d.exponent → d.exponent.natAbs ≤ greatestPower ∧
    ((UInt64.ofNat d.digits).toFloat * powerOfTen d.exponent.natAbs).isInf = false

theorem fits_of_value_le {d : Digits} (positive : 0 < d.digits) (short : d.digits ≤ 10 ^ 18)
    (middle : d.value ≤ lastMiddle) : d.Fits := by
  intro whole
  obtain ⟨digits, exponent⟩ := d
  obtain ⟨e, rfl⟩ := Int.eq_ofNat_of_zero_le whole
  have exact : digits * 10 ^ e ≤ lastMiddle := by
    simp only [Digits.value, zpow_natCast] at middle
    exact_mod_cast middle
  exact ⟨Nat.le_of_lt_succ (exponent_lt_of_le_lastMiddle positive exact),
    isInf_mul_powerOfTen positive short exact⟩

/-- The greatest float is the only one whose digits are above the last middle. -/
theorem fits_greatest : (shortest .toEven (2 ^ 53 - 1) 971).Fits := by
  have digits : shortest .toEven (2 ^ 53 - 1) 971 = ⟨17976931348623157, 292⟩ := by decide +kernel
  rw [digits]
  intro _
  decide +kernel

theorem mul_zpow_le {a n k limit : Nat} {q : Int} (ha : a ≤ n) (hq : q ≤ k)
    (h : n * 2 ^ k ≤ limit) : (a : ℚ) * 2 ^ q ≤ limit := by
  calc (a : ℚ) * 2 ^ q ≤ (n : ℚ) * 2 ^ (k : Int) :=
        mul_le_mul (by exact_mod_cast ha) (zpow_le_zpow_right₀ (by norm_num) hq)
          (by positivity) (by positivity)
    _ ≤ limit := by
        rw [zpow_natCast]
        exact_mod_cast h

theorem fits_shortest {mantissa : Nat} {exponent : Int} (positive : 0 < mantissa)
    (bits : mantissa < 2 ^ 53) (range : exponent ≤ 971) :
    (shortest .toEven mantissa exponent).Fits := by
  by_cases greatest : mantissa = 2 ^ 53 - 1 ∧ exponent = 971
  · rw [greatest.1, greatest.2]
    exact fits_greatest
  refine fits_of_value_le (shortest_pos _ positive _) (shortest_digits_le _ positive _)
    (le_trans (shortest_value_le _ _ _) ?_)
  rcases lt_or_ge exponent 971 with lower | top
  · exact mul_zpow_le (n := 2 ^ 55) (k := 968) (by omega) (by omega) (by decide +kernel)
  · exact mul_zpow_le (n := 2 ^ 55 - 6) (k := 969) (by omega) (by omega) (by decide +kernel)

theorem scaleFrom_isSome_of_neg (x : Float) {exponent : Int} (h : exponent < 0) (fuel : Nat) :
    (scaleFrom x exponent fuel).isSome := by
  induction fuel generalizing x exponent with
  | zero => rfl
  | succ fuel ih =>
    have negative : ¬0 ≤ exponent := by omega
    simp only [scaleFrom, if_neg negative]
    split
    · rfl
    split
    · rfl
    · rename_i far _
      exact ih _ (by simp only [greatestPower] at far ⊢; omega)

theorem Scaled.toFloat?_isSome_of_neg {s : Scaled} (h : s.exponent < 0) (negative : Bool) :
    (s.toFloat? negative).isSome := by
  rw [Scaled.toFloat?, Option.isSome_map]
  exact scaleFrom_isSome_of_neg _ h _

theorem Digits.Fits.toFloat?_isSome {d : Digits} (h : d.Fits) (negative : Bool) :
    ((⟨d.digits, d.exponent⟩ : Scaled).toFloat? negative).isSome := by
  rcases lt_or_ge d.exponent 0 with below | whole
  · exact Scaled.toFloat?_isSome_of_neg below negative
  · obtain ⟨range, number⟩ := h whole
    simp [Scaled.toFloat?, scaleFrom, range, whole, number]

/-! ## Scaling what was scanned -/

theorem le_foldl_digits (ds : List Nat) (n : Nat) : n ≤ ds.foldl (fun n d => n * 10 + d) n := by
  induction ds generalizing n with
  | nil => exact Nat.le_refl n
  | cons d ds ih => exact Nat.le_trans (by omega) (ih (n * 10 + d))

theorem Scaled.whole_eq {s : Scaled} {ds : List Nat}
    (h : ds.foldl (fun n d => n * 10 + d) s.significand < significandBound) :
    s.whole ds = ⟨ds.foldl (fun n d => n * 10 + d) s.significand, s.exponent⟩ := by
  induction ds generalizing s with
  | nil => rfl
  | cons d ds ih =>
    have fits := Nat.lt_of_le_of_lt (le_foldl_digits ds (s.significand * 10 + d)) h
    rw [Scaled.whole, if_pos fits]
    exact ih h

theorem Scaled.places_eq {s : Scaled} {ds : List Nat}
    (h : ds.foldl (fun n d => n * 10 + d) s.significand < significandBound) :
    s.places ds = ⟨ds.foldl (fun n d => n * 10 + d) s.significand, s.exponent - ds.length⟩ := by
  induction ds generalizing s with
  | nil => simp [Scaled.places]
  | cons d ds ih =>
    have fits := Nat.lt_of_le_of_lt (le_foldl_digits ds (s.significand * 10 + d)) h
    rw [Scaled.places, if_pos fits, ih h, List.length_cons]
    congr 1
    push_cast
    ring

theorem Scaled.places_exponent_le (s : Scaled) (ds : List Nat) :
    (s.places ds).exponent ≤ s.exponent := by
  induction ds generalizing s with
  | nil => exact Int.le_refl _
  | cons d ds ih =>
    unfold Scaled.places
    split
    · exact Int.le_trans (ih _) (by simp)
    · exact Int.le_refl _

end Decimal

namespace Draft

open Decimal (Digits Scaled IsLeading significandBound)

/-- The characters after its sign are a numeral to its end, and one that is read as a float. -/
def IsFloat (cs : List Char) : Prop :=
  ∀ negative, ∃ x, scanUnsigned negative cs = (.number (.float x), some [])

theorem Numeral.draft_eq_float {n : Numeral} (fraction : n.whole? = none)
    (h : (n.scaled.toFloat? n.negative).isSome) : ∃ x, n.draft = .number (.float x) := by
  obtain ⟨x, hx⟩ := Option.isSome_iff_exists.1 h
  exact ⟨x, by simp [Numeral.draft, fraction, hx]⟩

theorem digitsOf_cons (c : Char) (cs : List Char) :
    digitsOf (c :: cs) = (c.toNat - '0'.toNat) :: digitsOf cs :=
  rfl

theorem natOf_digitsOf_append (cs ds : List Char) :
    natOf (digitsOf (cs ++ ds)) =
      (digitsOf ds).foldl (fun n d => n * 10 + d) (natOf (digitsOf cs)) := by
  rw [natOf, natOf, digitsOf, List.map_append, List.foldl_append]
  rfl

theorem natOf_lt {cs : List Char} (h : ∀ c ∈ cs, c.isDigit = true) :
    natOf (digitsOf cs) < 10 ^ cs.length := by
  induction cs using List.reverseRecOn with
  | nil => decide
  | append_singleton cs c ih =>
    have front := ih fun d hd => h d (List.mem_append_left _ hd)
    have last : c.toNat - '0'.toNat < 10 := by
      have digit := h c (by simp)
      simp only [Char.isDigit, Bool.and_eq_true, decide_eq_true_eq] at digit
      have high : c.toNat ≤ '9'.toNat := digit.2
      have nine : '9'.toNat = '0'.toNat + 9 := rfl
      omega
    rw [natOf_digitsOf_append, List.length_append, List.length_singleton, Nat.pow_succ]
    change natOf (digitsOf cs) * 10 + (c.toNat - '0'.toNat) < 10 ^ cs.length * 10
    omega

/-- A numeral with a point and without an exponent is scaled down: its first place still fits the
significand. -/
theorem scaled_exponent_neg (negative : Bool) {whole places : List Char} (h : IsWhole whole)
    (hp : IsDigits places) (short : whole.length ≤ 18) :
    (Numeral.scaled ⟨negative, digitsOf whole, digitsOf places, none⟩).exponent < 0 := by
  obtain ⟨c, cs, rfl⟩ := List.exists_cons_of_ne_nil hp.1
  have bound (k : Nat) (hk : k ≤ 19) : 10 ^ k < significandBound :=
    Nat.lt_of_le_of_lt (Nat.pow_le_pow_right (by decide) hk) (by decide)
  have taken : Scaled.whole ⟨0, 0⟩ (digitsOf whole) = ⟨natOf (digitsOf whole), 0⟩ :=
    Scaled.whole_eq (Nat.lt_trans (natOf_lt h.1.2) (bound _ (by omega)))
  have fits : natOf (digitsOf whole) * 10 + (c.toNat - '0'.toNat) < significandBound := by
    have all : ∀ d ∈ whole ++ [c], d.isDigit = true := by
      intro d hd
      rcases List.mem_append.1 hd with hd | hd
      · exact h.1.2 d hd
      · exact hp.2 d (by simp_all)
    have less := natOf_lt all
    rw [natOf_digitsOf_append, List.length_append] at less
    exact Nat.lt_trans less (bound _ (by simp; omega))
  have later : (Scaled.places ⟨natOf (digitsOf whole) * 10 + (c.toNat - '0'.toNat), 0 - 1⟩
      (digitsOf cs)).exponent ≤ 0 - 1 := Scaled.places_exponent_le _ _
  simp only [Numeral.scaled, taken, digitsOf_cons, Scaled.places, if_pos fits, Option.getD_none]
  omega

theorem isFloat_places {whole places : List Char} (h : IsWhole whole) (hp : IsDigits places)
    (short : whole.length ≤ 18) : IsFloat (whole ++ '.' :: places) := by
  intro negative
  have scanned := scanUnsigned_places negative h hp [] (by simp)
  rw [List.append_nil] at scanned
  have fraction :
      Numeral.whole? ⟨negative, digitsOf whole, digitsOf places, none⟩ = none := by
    obtain ⟨c, cs, rfl⟩ := List.exists_cons_of_ne_nil hp.1
    rfl
  obtain ⟨x, hx⟩ := Numeral.draft_eq_float fraction
    (Scaled.toFloat?_isSome_of_neg (scaled_exponent_neg negative h hp short) negative)
  exact ⟨x, by rw [scanned, ← hx]; rfl⟩

/-- A numeral with an exponent is scaled to just the digits that were written. -/
theorem isFloat_scientific {d : Digits} (positive : 0 < d.digits) (short : d.digits ≤ 10 ^ 18)
    (fits : d.Fits) : IsFloat (Decimal.scientificOf d.toList d.point) := by
  intro negative
  have leading : IsLeading d.toList := Decimal.isLeading_toDigits positive
  have digits : natOf (digitsOf d.toList) = d.digits := natOf_digitsOf_toDigits _
  have length : 0 < d.toList.length := Nat.length_toDigits_pos
  have split : natOf (digitsOf (d.toList.take 1 ++ d.toList.drop 1)) = d.digits := by
    rw [List.take_append_drop, digits]
  rw [natOf_digitsOf_append] at split
  have bound : d.digits < significandBound := Nat.lt_of_le_of_lt short (by decide)
  have taken : Scaled.whole ⟨0, 0⟩ (digitsOf (d.toList.take 1)) =
      ⟨natOf (digitsOf (d.toList.take 1)), 0⟩ :=
    Scaled.whole_eq (Nat.lt_of_le_of_lt (Decimal.le_foldl_digits (digitsOf (d.toList.drop 1)) _)
      (split ▸ bound))
  have scaled : (Numeral.scaled ⟨negative, digitsOf (d.toList.take 1), digitsOf (d.toList.drop 1),
      some (d.point - 1)⟩) = ⟨d.digits, d.exponent⟩ := by
    simp only [Numeral.scaled, taken]
    rw [Scaled.places_eq (by rw [split]; exact bound)]
    simp only [Option.getD_some, Digits.point, digitsOf, List.length_map, List.length_drop]
    congr 1
    omega
  obtain ⟨x, hx⟩ := Numeral.draft_eq_float (n := ⟨negative, digitsOf (d.toList.take 1),
    digitsOf (d.toList.drop 1), some (d.point - 1)⟩) (by simp [Numeral.whole?])
    (by rw [scaled]; exact fits.toFloat?_isSome negative)
  exact ⟨x, by rw [Decimal.scanUnsigned_scientific leading, hx]⟩

theorem isFloat_jsonForm {mantissa : Nat} {exponent : Int} (bits : mantissa < 2 ^ 53)
    (range : exponent ≤ 971) : IsFloat (Decimal.jsonForm.unsigned mantissa exponent) := by
  unfold Decimal.Layout.unsigned
  split
  · have zero : IsWhole ['0'] := ⟨⟨by simp, by simp⟩, by simp⟩
    exact isFloat_places zero zero.1 (by decide)
  · rename_i nonzero
    have positive : 0 < mantissa := by simpa [Nat.pos_iff_ne_zero] using nonzero
    have digits := Decimal.shortest_pos .toEven positive exponent
    dsimp only
    split
    · rename_i positional
      obtain ⟨whole, places, e, hw, hp, length⟩ := Decimal.positional_parts
        (Decimal.isLeading_toDigits digits) (Decimal.shortest .toEven mantissa exponent).point
      have near : (Decimal.shortest .toEven mantissa exponent).point ≤ 16 := by
        simp only [Decimal.jsonForm, Bool.and_eq_true, decide_eq_true_eq] at positional
        exact positional.2
      have short : whole.length ≤ 18 := by omega
      exact e ▸ isFloat_places hw hp short
    · exact isFloat_scientific digits (Decimal.shortest_digits_le _ positive _)
        (Decimal.fits_shortest positive bits range)

end Draft

theorem Decimal.Binary.ofBits_finite {bits : Nat} {negative : Bool} {mantissa : Nat}
    {exponent : Int} (h : Decimal.Binary.ofBits bits = .finite negative mantissa exponent) :
    mantissa < 2 ^ 53 ∧ exponent ≤ 971 := by
  unfold Decimal.Binary.ofBits at h
  simp only [Decimal.Binary.leadingBit, Decimal.Binary.leastExponent] at h
  grind

/-- What is read for a float is a float, null where it is no number. -/
theorem Json.draft_ofFloat (x : Float) :
    if (Decimal.Binary.ofFloat x).isFinite then
      ∃ y, (Json.ofFloat x).draft = .number (.float y)
    else (Json.ofFloat x).draft = .null := by
  unfold Json.ofFloat
  split
  · rename_i finite
    cases hx : Decimal.Binary.ofFloat x with
    | nan => simp [hx, Decimal.Binary.isFinite] at finite
    | infinite negative => simp [hx, Decimal.Binary.isFinite] at finite
    | finite negative mantissa exponent =>
      obtain ⟨bits, range⟩ := Decimal.Binary.ofBits_finite hx
      obtain ⟨y, hy⟩ := Draft.isFloat_jsonForm bits range negative
      refine ⟨y, ?_⟩
      simp only [Json.draft, Json.numberChars, Decimal.Layout.write, hx,
        Draft.scanNumber_sign (Decimal.isUnsigned_jsonForm _ _), hy]
  · rfl

end CatalogReport
