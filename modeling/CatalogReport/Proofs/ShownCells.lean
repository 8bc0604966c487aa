import CatalogReport.Proofs.FloatDigits
import CatalogReport.Report.Cell

/-!
# What a table shows for a cell

`Cell.Shows` says it value by value: a word for a flag, the numeral of a whole number, a text as it
is, and for a float the shortest decimal in positional form (`Decimal.ShowsFloat`). A float is taken
apart here as in the logical model of floats, which reads the bits as the report does
(`Decimal.agrees_ofFloat`).
-/

namespace CatalogReport

namespace Decimal

/-! ## The digits as a text -/

open Draft (IsDigits IsWhole)

/-- A number without a sign: digits, and a point and places if it is not whole. No zero is too many
in front or at the end of the places. -/
inductive Positional : List Char → ℚ → Prop
  | whole {cs : List Char} (digits : IsWhole cs) : Positional cs (Nat.ofDigitChars 10 cs 0)
  | places {whole places : List Char} (digits : IsWhole whole) (after : IsDigits places)
    (last : places.getLast? ≠ some '0') :
    Positional (whole ++ '.' :: places)
      (Nat.ofDigitChars 10 (whole ++ places) 0 / 10 ^ places.length)

theorem getLast?_toDigits {n : Nat} (h : n % 10 ≠ 0) : (Nat.toDigits 10 n).getLast? ≠ some '0' := by
  have last : (Nat.toDigits 10 n).getLast? = some (n % 10).digitChar := by
    rcases Nat.lt_or_ge n 10 with small | large
    · rw [Nat.toDigits_of_lt_base small, Nat.mod_eq_of_lt small]
      rfl
    · rw [Nat.toDigits_of_base_le (by decide) large, List.getLast?_concat]
  rw [last]
  exact (by decide : ∀ m < 10, m ≠ 0 → some m.digitChar ≠ some '0') _ (Nat.mod_lt _ (by decide)) h

theorem ofDigitChars_zeros (k n : Nat) : Nat.ofDigitChars 10 (zeros k) n = n * 10 ^ k := by
  induction k generalizing n with
  | zero => simp [zeros]
  | succ k ih =>
    have step : zeros (k + 1) = '0' :: zeros k := rfl
    have digit : 10 * n + ('0'.toNat - '0'.toNat) = n * 10 := by omega
    rw [step, Nat.ofDigitChars_cons, ih, digit, Nat.pow_succ]
    ring

theorem div_pow_eq {n k : Nat} (exponent : Int) (h : (k : Int) = -exponent) :
    (n : ℚ) / 10 ^ k = n * 10 ^ exponent := by
  rw [div_eq_mul_inv, ← zpow_natCast, h, zpow_neg, inv_inv]

/-- A zero before the point, and zeros after it. -/
theorem positional_below_one {digits : List Char} (leading : IsLeading digits)
    (last : digits.getLast? ≠ some '0') (k : Nat) :
    Positional ('0' :: '.' :: (zeros k ++ digits))
      (Nat.ofDigitChars 10 digits 0 / 10 ^ (k + digits.length)) := by
  have zero : IsWhole ['0'] := ⟨⟨by simp, by simp⟩, by simp⟩
  have places : IsDigits (zeros k ++ digits) := by
    refine ⟨by simp [leading.isDigits.1], fun c hc => ?_⟩
    rcases List.mem_append.1 hc with hc | hc
    · exact isDigit_of_mem_zeros hc
    · exact leading.isDigits.2 c hc
  have numeral := Positional.places zero places
    (by rwa [List.getLast?_append_of_ne_nil _ leading.isDigits.1])
  have front : Nat.ofDigitChars 10 ['0'] 0 = 0 := rfl
  rw [Nat.ofDigitChars_append, Nat.ofDigitChars_append, ofDigitChars_zeros, front, Nat.zero_mul]
    at numeral
  simpa [zeros] using numeral

theorem positional_whole {digits : List Char} (leading : IsLeading digits) (k : Nat) :
    Positional (digits ++ zeros k) (Nat.ofDigitChars 10 digits 0 * 10 ^ k) := by
  have numeral := Positional.whole (leading.isWhole_append (zeros k) fun c => isDigit_of_mem_zeros)
  rw [Nat.ofDigitChars_append, ofDigitChars_zeros] at numeral
  exact_mod_cast numeral

theorem positional_point {digits : List Char} (leading : IsLeading digits)
    (last : digits.getLast? ≠ some '0') {n : Nat} (before : 0 < n) (after : n < digits.length) :
    Positional (digits.take n ++ '.' :: digits.drop n)
      (Nat.ofDigitChars 10 digits 0 / 10 ^ (digits.length - n)) := by
  have numeral := Positional.places (leading.take before) (leading.drop after)
    (by rwa [List.getLast?_drop, if_neg (by omega)])
  rwa [List.take_append_drop, List.length_drop] at numeral

/-- Digits without a zero at the end, set in positional form. -/
theorem positional_positionalOf {n : Nat} (h : n % 10 ≠ 0) (exponent : Int) :
    Positional (positionalOf false (Nat.toDigits 10 n) ((Nat.toDigits 10 n).length + exponent))
      (n * 10 ^ exponent) := by
  have leading : IsLeading (Nat.toDigits 10 n) := isLeading_toDigits (by omega)
  have last := getLast?_toDigits h
  have value : Nat.ofDigitChars 10 (Nat.toDigits 10 n) 0 = n := Nat.ofDigitChars_ten_toDigits
  generalize Nat.toDigits 10 n = digits at *
  unfold positionalOf
  split
  · rename_i small
    have numeral := positional_below_one leading last (-(digits.length + exponent)).toNat
    rwa [value, div_pow_eq exponent (by omega)] at numeral
  split
  · rename_i positive short
    obtain ⟨k, rfl⟩ : ∃ k : Nat, exponent = k := ⟨exponent.toNat, by omega⟩
    have count : ((digits.length : Int) + k).toNat - digits.length = k := by omega
    have numeral := positional_whole leading k
    rw [value] at numeral
    simpa [count] using numeral
  · rename_i positive long
    have numeral := positional_point leading last (n := (digits.length + exponent).toNat)
      (by omega) (by omega)
    rw [value, div_pow_eq exponent (by omega)] at numeral
    simpa using numeral

/-! ## The parts of a float -/

open Float.Model Float.Model.UnpackedFloat

def signOf (negative : Bool) : Sign :=
  if negative then .negative else .positive

theorem unpackMantissa_toNat (b : BitVec Format.binary64.numBits) :
    (unpackMantissa b).toNat = b.toNat % Binary.leadingBit := by
  simp [unpackMantissa, Binary.leadingBit]

theorem unpackExponent_toNat (b : BitVec Format.binary64.numBits) :
    (unpackExponent b).toNat = b.toNat / Binary.leadingBit % 0x800 := by
  simp [unpackExponent, Binary.leadingBit, Nat.shiftRight_eq_div_pow]

theorem unpackSign_toNat (b : BitVec Format.binary64.numBits) :
    (unpackSign b).toNat = b.toNat / 0x8000000000000000 := by
  have bound : b.toNat < 0x10000000000000000 := b.isLt
  simp [unpackSign, Nat.shiftRight_eq_div_pow]
  omega

theorem ofBitVec_unpackSign (b : BitVec Format.binary64.numBits) :
    Sign.ofBitVec (unpackSign b) = signOf (b.toNat / 0x8000000000000000 == 1) := by
  have value := unpackSign_toNat b
  have bound : b.toNat < 0x10000000000000000 := b.isLt
  have zero : unpackSign b = 0#1 ↔ b.toNat / 0x8000000000000000 = 0 := by
    rw [BitVec.toNat_eq, value]
    rfl
  unfold Sign.ofBitVec signOf
  simp only [zero, beq_iff_eq]
  split <;> split <;> first | rfl | omega

theorem toNat_leading (m : BitVec 52) : (1#1 ++ m).toNat = Binary.leadingBit + m.toNat := by
  rw [BitVec.toNat_append, ← Nat.shiftLeft_add_eq_or_of_lt m.isLt, Nat.shiftLeft_eq]
  rfl

/-- A reading of the bits of a float and the logical model of the number agree. -/
def Agrees (u : UnpackedFloat) : Binary → Prop
  | .nan => u = .notANumber
  | .infinite negative => u = .infinity (signOf negative)
  | .finite negative mantissa exponent =>
    if h : 0 < mantissa then u = .finite (signOf negative) mantissa exponent h
    else u = .zero (signOf negative)

theorem agrees_ofBits (b : BitVec Format.binary64.numBits) :
    Agrees (unpack Format.binary64 b) (Binary.ofBits b.toNat) := by
  have mantissa := unpackMantissa_toNat b
  have exponent := unpackExponent_toNat b
  have sign := ofBitVec_unpackSign b
  have full := toNat_leading (unpackMantissa b)
  have all : unpackExponent b = -1#11 ↔ b.toNat / Binary.leadingBit % 0x800 = 2047 := by
    rw [BitVec.toNat_eq, exponent]
    rfl
  have none : unpackExponent b = 0#11 ↔ b.toNat / Binary.leadingBit % 0x800 = 0 := by
    rw [BitVec.toNat_eq, exponent]
    rfl
  have zero : unpackMantissa b = 0#52 ↔ b.toNat % Binary.leadingBit = 0 := by
    rw [BitVec.toNat_eq, mantissa]
    rfl
  have bias : (Format.binary64.exponentBias : Int) = 1023 := rfl
  have least : Binary.leastExponent = -1074 := rfl
  unfold Binary.ofBits
  rw [UnpackedFloat.unpack]
  simp only [all, none, zero, full, sign, beq_iff_eq, mantissa, exponent]
  by_cases h1 : b.toNat / Binary.leadingBit % 0x800 = 2047
  · by_cases h2 : b.toNat % Binary.leadingBit = 0 <;> simp [h1, h2, Agrees]
  by_cases h3 : b.toNat / Binary.leadingBit % 0x800 = 0
  · by_cases h2 : b.toNat % Binary.leadingBit = 0
    · simp [h2, h3, Agrees]
    · simp [h2, h3, Agrees, Nat.pos_iff_ne_zero, bias, least]
  · have positive : 0 < Binary.leadingBit + b.toNat % Binary.leadingBit :=
      Nat.add_pos_left (by decide) _
    have scale : ((b.toNat / Binary.leadingBit % 0x800 : Nat) : Int) -
        (Format.binary64.exponentBias + (52 : Nat)) =
          Binary.leastExponent + (b.toNat / Binary.leadingBit % 0x800 - 1 : Nat) := by
      omega
    simp only [h1, h3, Agrees, if_false, dif_pos positive, scale]

theorem agrees_ofFloat (x : Float) : Agrees x.toModel.unpack (Binary.ofFloat x) :=
  agrees_ofBits x.toModel.toBits.toBitVec

/-! ## The text of a float -/

/-- A shortest decimal does not end in a zero. -/
theorem IsShortest.mod_ne_zero {mantissa : Nat} {exponent : Int} {d : Digits}
    (h : IsShortest mantissa exponent d) (positive : 0 < d.digits) : d.digits % 10 ≠ 0 := by
  intro ends
  have tens : ((d.digits / 10 : Nat) : ℚ) * 10 = d.digits := by
    exact_mod_cast (by omega : d.digits / 10 * 10 = d.digits)
  have rounds := h.rounds
  rw [← tens, mul_assoc, ← zpow_one_add₀ (by norm_num)] at rounds
  have fewest := h.fewest _ _ rounds
  rw [Nat.toDigits_of_base_le (by decide) (by omega : 10 ≤ d.digits), List.length_append] at fewest
  simp at fewest

def signChars : Sign → List Char
  | .negative => ['-']
  | .positive => []

/-- What a table shows for a float: the shortest decimal in positional form with its sign, and a
word for what is no number. -/
inductive ShowsFloat (x : Float) : List Char → Prop
  | notANumber (h : x.toModel.unpack = .notANumber) : ShowsFloat x ['N', 'a', 'N']
  | infinity {s : Sign} (h : x.toModel.unpack = .infinity s) :
    ShowsFloat x (signChars s ++ ['i', 'n', 'f'])
  | zero {s : Sign} (h : x.toModel.unpack = .zero s) : ShowsFloat x (signChars s ++ ['0'])
  | finite {s : Sign} {mantissa : Nat} {exponent : Int} {positive : 0 < mantissa} {d : Digits}
    {cs : List Char} (h : x.toModel.unpack = .finite s mantissa exponent positive)
    (shortest : IsShortest mantissa exponent d)
    (digits : Positional cs (d.digits * 10 ^ d.exponent)) : ShowsFloat x (signChars s ++ cs)

theorem signChars_signOf (negative : Bool) :
    signChars (signOf negative) = Layout.sign negative := by
  cases negative <;> rfl

theorem unsigned_cellForm {mantissa : Nat} (positive : 0 < mantissa) (exponent : Int) :
    cellForm.unsigned mantissa exponent =
      positionalOf false (shortest .up mantissa exponent).toList
        (shortest .up mantissa exponent).point := by
  have nonzero : (mantissa == 0) = false := by simp [positive.ne']
  simp only [Layout.unsigned, nonzero]
  rfl

theorem showsFloat_write (x : Float) : ShowsFloat x (cellForm.write x) := by
  have agrees := agrees_ofFloat x
  unfold Layout.write
  cases hx : Binary.ofFloat x with
  | nan =>
    rw [hx] at agrees
    exact .notANumber agrees
  | infinite negative =>
    rw [hx] at agrees
    simp only [← signChars_signOf]
    exact .infinity agrees
  | finite negative mantissa exponent =>
    rw [hx, Agrees] at agrees
    simp only [← signChars_signOf]
    split at agrees
    · rename_i positive
      have shortest := isShortest_shortest positive (Binary.ofBits_finite hx).1 exponent
      have digits := shortest_pos .up positive exponent
      rw [unsigned_cellForm positive]
      exact .finite agrees shortest (positional_positionalOf (shortest.mod_ne_zero digits) _)
    · rename_i zero
      obtain rfl : mantissa = 0 := by omega
      exact .zero agrees

end Decimal

namespace Cell

/-- What a table shows for a cell, with `null` for a missing value. -/
inductive Shows (null : String) : Cell → String → Prop
  | null : Shows null .null null
  | yes : Shows null (.flag true) "YES"
  | no : Shows null (.flag false) "NO"
  | int (n : Int64) : Shows null (.int n) (toString n.toInt)
  | float {x : Float} {cs : List Char} (h : Decimal.ShowsFloat x cs) :
    Shows null (.float x) (String.ofList cs)
  | text (s : String) : Shows null (.text s) s

theorem wholeText_eq (n : Int) : wholeText n = toString n := by
  unfold wholeText Json.wholeChars
  cases n with
  | ofNat n => rfl
  | negSucc n =>
    rw [if_pos (Int.negSucc_lt_zero n)]
    exact String.ofList_append.trans rfl

theorem shows_display (null : String) (c : Cell) : c.Shows null (c.display null) := by
  cases c with
  | null => exact .null
  | flag b => cases b <;> constructor
  | int n =>
    rw [display, wholeText_eq]
    exact .int n
  | float x => exact .float (Decimal.showsFloat_write x)
  | text s => exact .text s

end Cell

end CatalogReport
