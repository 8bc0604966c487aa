import CatalogReport.Proofs.JsonText

/-!
# The texts of floats are numerals

The digits of a positive float are positive: the search for them starts at the leading digit of the
value, so on every grid it visits the value is at least one unit (`Interval.Reaches`). Hence no
written form begins with a zero too many, and every float, be it null when it is no number, is
legible (`Json.legible_ofFloat`).
-/

namespace CatalogReport

namespace Decimal

/-! ## Shortest digits are positive -/

theorem trimZeros_pos {digits : Nat} (h : 0 < digits) (exponent : Int) (fuel : Nat) :
    0 < (Digits.trimZeros digits exponent fuel).digits := by
  induction fuel generalizing digits exponent with
  | zero => exact h
  | succ fuel ih =>
    unfold Digits.trimZeros
    split
    · rename_i hz
      simp only [Bool.and_eq_true, beq_iff_eq, bne_iff_ne] at hz
      exact ih (by omega) _
    · exact h

/-- The value is at least one unit of `10 ^ exponent`. -/
def Interval.Reaches (i : Interval) (exponent : Int) : Prop :=
  i.denominator * Nat.pow 10 exponent.toNat ≤ i.value * Nat.pow 10 (-exponent).toNat

theorem pow_length_toDigits_le {n : Nat} (h : 0 < n) :
    Nat.pow 10 ((Nat.toDigits 10 n).length - 1) ≤ n := by
  rcases Nat.eq_zero_or_pos ((Nat.toDigits 10 n).length - 1) with hl | hl
  · rw [hl]
    exact h
  · have bound := Nat.length_toDigits_le_iff (n := n) (b := 10) (by decide) hl
    refine Nat.le_of_not_lt fun short => ?_
    have length := bound.2 short
    omega

theorem lt_pow_length_toDigits (n : Nat) : n < Nat.pow 10 (Nat.toDigits 10 n).length :=
  (Nat.length_toDigits_le_iff (by decide) Nat.length_toDigits_pos).1 (Nat.le_refl _)

theorem Interval.reaches_leading {i : Interval} (hv : 0 < i.value) (hd : 0 < i.denominator) :
    i.Reaches i.leading := by
  have one : Nat.pow 10 0 = 1 := rfl
  unfold Reaches leading
  split
  · rename_i hle
    have quotient : 0 < i.value / i.denominator := Nat.div_pos hle hd
    have length := Nat.length_toDigits_pos (b := 10) (n := i.value / i.denominator)
    have bound := pow_length_toDigits_le quotient
    have left : (((Nat.toDigits 10 (i.value / i.denominator)).length : Int) - 1).toNat =
        (Nat.toDigits 10 (i.value / i.denominator)).length - 1 := by omega
    have right : (-(((Nat.toDigits 10 (i.value / i.denominator)).length : Int) - 1)).toNat = 0 := by
      omega
    rw [left, right, one, Nat.mul_one, Nat.mul_comm]
    exact Nat.le_trans (Nat.mul_le_mul_right _ bound) (Nat.div_mul_le_self _ _)
  · have bound := lt_pow_length_toDigits ((i.denominator - 1) / i.value)
    rw [Nat.div_lt_iff_lt_mul hv] at bound
    have left : (-((Nat.toDigits 10 ((i.denominator - 1) / i.value)).length : Int)).toNat = 0 := by
      omega
    rw [left, one, Nat.mul_one, Int.neg_neg, Int.toNat_natCast, Nat.mul_comm]
    omega

theorem Interval.Reaches.pred {i : Interval} {exponent : Int} (h : i.Reaches exponent) :
    i.Reaches (exponent - 1) := by
  unfold Reaches at h ⊢
  have units : Nat.pow 10 (exponent - 1).toNat ≤ Nat.pow 10 exponent.toNat :=
    Nat.pow_le_pow_right (by decide) (by omega)
  have scale : Nat.pow 10 (-exponent).toNat ≤ Nat.pow 10 (-(exponent - 1)).toNat :=
    Nat.pow_le_pow_right (by decide) (by omega)
  exact Nat.le_trans (Nat.mul_le_mul_left _ units) (Nat.le_trans h (Nat.mul_le_mul_left _ scale))

theorem Interval.Reaches.quotient_pos {i : Interval} {exponent : Int} (h : i.Reaches exponent)
    (hd : 0 < i.denominator) :
    0 < (i.rescale exponent).value / (i.rescale exponent).denominator :=
  Nat.div_pos h (Nat.mul_pos hd (Nat.pow_pos (by decide)))

theorem nearest?_pos {tie : Tie} {i : Interval} {n : Nat} (hpos : 0 < i.value / i.denominator)
    (h : i.nearest? tie = some n) : 0 < n := by
  unfold Interval.nearest? at h
  grind

theorem searchGrid_pos {tie : Tie} {i : Interval} {exponent : Int} (fuel : Nat)
    (h : i.Reaches exponent) (hd : 0 < i.denominator) :
    0 < (searchGrid tie i exponent fuel).digits := by
  induction fuel generalizing exponent with
  | zero => exact h.quotient_pos hd
  | succ fuel ih =>
    unfold searchGrid
    split
    · rename_i digits hit
      exact trimZeros_pos (nearest?_pos (h.quotient_pos hd) hit) _ _
    · exact ih h.pred

theorem Interval.ofBinary_denominator_pos (mantissa : Nat) (exponent : Int) :
    0 < (ofBinary mantissa exponent).denominator := by
  simp only [ofBinary, Nat.one_shiftLeft]
  exact Nat.two_pow_pos _

theorem Interval.ofBinary_value_pos {mantissa : Nat} (h : 0 < mantissa) (exponent : Int) :
    0 < (ofBinary mantissa exponent).value := by
  simp only [ofBinary, Nat.one_shiftLeft]
  exact Nat.mul_pos (Nat.mul_pos (by decide) h) (Nat.two_pow_pos _)

theorem shortest_pos (tie : Tie) {mantissa : Nat} (h : 0 < mantissa) (exponent : Int) :
    0 < (shortest tie mantissa exponent).digits := by
  have denominator := Interval.ofBinary_denominator_pos mantissa exponent
  have value := Interval.ofBinary_value_pos h exponent
  exact searchGrid_pos 17 (Interval.reaches_leading value denominator) denominator

/-! ## Layouts are numerals -/

open Draft (IsDigits IsWhole scanUnsigned scanExponent)

/-- The characters after its sign are a numeral to its end. -/
def IsUnsigned (cs : List Char) : Prop :=
  ∀ negative, (scanUnsigned negative cs).2 = some []

theorem isDigits_append {cs ds : List Char} (h : IsDigits cs) (hd : ∀ c ∈ ds, c.isDigit = true) :
    IsDigits (cs ++ ds) := by
  refine ⟨by simp [h.1], fun c hc => ?_⟩
  rcases List.mem_append.1 hc with hc | hc
  · exact h.2 c hc
  · exact hd c hc

theorem isDigit_of_mem_zeros {n : Nat} {c : Char} (h : c ∈ zeros n) : c.isDigit = true := by
  rw [List.eq_of_mem_replicate h]
  decide

theorem isUnsigned_places {whole places : List Char} (h : IsWhole whole) (hp : IsDigits places) :
    IsUnsigned (whole ++ '.' :: places) := by
  intro negative
  have scanned := Draft.scanUnsigned_places negative h hp [] (by simp)
  rw [List.append_nil] at scanned
  rw [scanned]
  rfl

structure IsLeading (digits : List Char) : Prop where
  isDigits : IsDigits digits
  head : digits.head? ≠ some '0'

theorem isLeading_toDigits {n : Nat} (h : 0 < n) : IsLeading (Nat.toDigits 10 n) :=
  ⟨Draft.isDigits_toDigits n, Draft.head?_toDigits h⟩

theorem IsLeading.isWhole_append {digits : List Char} (h : IsLeading digits) (rest : List Char)
    (hr : ∀ c ∈ rest, c.isDigit = true) : IsWhole (digits ++ rest) := by
  refine ⟨isDigits_append h.isDigits hr, fun c cs e => h.head ?_⟩
  obtain ⟨d, ds, rfl⟩ := List.exists_cons_of_ne_nil h.isDigits.1
  simp_all

theorem IsLeading.take {digits : List Char} (h : IsLeading digits) {n : Nat} (hn : 0 < n) :
    IsWhole (digits.take n) := by
  obtain ⟨n, rfl⟩ : ∃ m, n = m + 1 := ⟨n - 1, by omega⟩
  obtain ⟨d, ds, rfl⟩ := List.exists_cons_of_ne_nil h.isDigits.1
  have taken : IsLeading ((d :: ds).take (n + 1)) :=
    ⟨⟨by simp, fun c hc => h.isDigits.2 c (List.mem_of_mem_take hc)⟩, by simpa using h.head⟩
  simpa using taken.isWhole_append [] (by simp)

theorem IsLeading.drop {digits : List Char} (h : IsLeading digits) {n : Nat}
    (hn : n < digits.length) : IsDigits (digits.drop n) :=
  ⟨by simp; omega, fun c hc => h.isDigits.2 c (List.mem_of_mem_drop hc)⟩

theorem positional_parts {digits : List Char} (h : IsLeading digits) (point : Int) :
    ∃ whole places, positionalOf true digits point = whole ++ '.' :: places ∧ IsWhole whole ∧
      IsDigits places ∧ whole.length ≤ max 1 point.toNat := by
  unfold positionalOf
  split
  · have places : IsDigits (zeros (-point).toNat ++ digits) := by
      refine ⟨by simp [h.isDigits.1], fun c hc => ?_⟩
      rcases List.mem_append.1 hc with hc | hc
      · exact isDigit_of_mem_zeros hc
      · exact h.isDigits.2 c hc
    exact ⟨['0'], _, by simp, ⟨⟨by simp, by simp⟩, by simp⟩, places, Nat.le_max_left 1 _⟩
  split
  · have whole := h.isWhole_append (zeros (point.toNat - digits.length))
      fun c hc => isDigit_of_mem_zeros hc
    exact ⟨_, ['0'], by simp, whole, ⟨by simp, by simp⟩, by simp [zeros]; omega⟩
  · rename_i positive short
    have whole := h.take (n := point.toNat) (by omega)
    have places := h.drop (n := point.toNat) (by omega)
    exact ⟨_, _, by simp, whole, places, by rw [List.length_take]; omega⟩

theorem isUnsigned_positional {digits : List Char} (h : IsLeading digits) (point : Int) :
    IsUnsigned (positionalOf true digits point) := by
  obtain ⟨whole, places, e, hw, hp, -⟩ := positional_parts h point
  rw [e]
  exact isUnsigned_places hw hp

theorem scanUnsigned_scientific {digits : List Char} (h : IsLeading digits) (point : Int)
    (negative : Bool) :
    scanUnsigned negative (scientificOf digits point) =
      (Draft.Numeral.draft ⟨negative, Draft.digitsOf (digits.take 1),
        Draft.digitsOf (digits.drop 1), some (point - 1)⟩, some []) := by
  have whole := h.take (n := 1) (by decide)
  rw [← Draft.scanExponent_signed]
  unfold scientificOf
  by_cases one : digits.length ≤ 1
  · have scanned := Draft.scanUnsigned_whole negative whole
      ('e' :: (if point - 1 < 0 then '-' else '+') :: Nat.toDigits 10 (point - 1).natAbs) (by simp)
    have none : digits.drop 1 = [] := List.drop_eq_nil_of_le one
    simp only [one, none, if_true, List.append_nil, List.append_assoc, List.cons_append,
      List.nil_append, scanned]
    rfl
  · have scanned := Draft.scanUnsigned_places negative whole (h.drop (n := 1) (by omega))
      ('e' :: (if point - 1 < 0 then '-' else '+') :: Nat.toDigits 10 (point - 1).natAbs) (by simp)
    simp only [one, if_false, List.append_assoc, List.cons_append, List.nil_append, scanned]

theorem isUnsigned_scientific {digits : List Char} (h : IsLeading digits) (point : Int) :
    IsUnsigned (scientificOf digits point) := by
  intro negative
  rw [scanUnsigned_scientific h]

theorem isUnsigned_jsonForm (mantissa : Nat) (exponent : Int) :
    IsUnsigned (jsonForm.unsigned mantissa exponent) := by
  unfold Layout.unsigned
  split
  · intro negative
    rfl
  · rename_i hm
    have digits : IsLeading (shortest jsonForm.tie mantissa exponent).toList :=
      isLeading_toDigits (shortest_pos _ (by simpa [Nat.pos_iff_ne_zero] using hm) exponent)
    dsimp only
    split
    · exact isUnsigned_positional digits _
    · exact isUnsigned_scientific digits _

end Decimal

namespace Draft

theorem scanNumber_sign {cs : List Char} (h : Decimal.IsUnsigned cs) (negative : Bool) :
    scanNumber (Decimal.Layout.sign negative ++ cs) = scanUnsigned negative cs := by
  cases negative with
  | true => rfl
  | false =>
    cases cs with
    | nil => rfl
    | cons c cs =>
      by_cases minus : c = '-'
      · subst minus
        have broken := h false
        simp [scanUnsigned, breakNumeral_snd] at broken
      · simp [Decimal.Layout.sign, scanNumber, minus]

end Draft

/-- Every float has a legible text; one that is no number is null. -/
theorem Json.legible_ofFloat (x : Float) : (Json.ofFloat x).Legible := by
  unfold Json.ofFloat
  split
  · rename_i finite
    simp only [Json.Legible, Json.numberChars, Decimal.Layout.write]
    cases hx : Decimal.Binary.ofFloat x with
    | nan => simp [hx, Decimal.Binary.isFinite] at finite
    | infinite negative => simp [hx, Decimal.Binary.isFinite] at finite
    | finite negative mantissa exponent =>
      have numeral := Decimal.isUnsigned_jsonForm mantissa exponent
      rw [Draft.scanNumber_sign numeral]
      exact numeral negative
  · trivial

end CatalogReport
