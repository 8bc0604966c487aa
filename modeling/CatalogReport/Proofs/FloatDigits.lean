import CatalogReport.Proofs.FloatRange

/-!
# The decimal of a float in a table

Of the decimals that round to a float a table shows one of the fewest digits, of these the nearest,
and of two equally near ones the upper (`Decimal.isShortest_shortest`). All of it follows from one
fact: a grid without a hit has no point at all in the interval of the float
(`Interval.nearest?_eq_none`), since an interval that holds a point of the grid holds the neighbour
of the value on that side, too. The last of the seventeen grids has a hit, as its units are smaller
than the distance between two floats.
-/

namespace CatalogReport

namespace Decimal

/-! ## What a decimal is to be -/

/-- Half-way to the neighbour below `mantissa * 2 ^ exponent`, which is only half as far away at the
bottom of a binade. -/
def lowEnd (mantissa : Nat) (exponent : Int) : ℚ :=
  mantissa * 2 ^ exponent -
    if mantissa = 2 ^ 52 ∧ -1074 < exponent then 2 ^ exponent / 4 else 2 ^ exponent / 2

def highEnd (mantissa : Nat) (exponent : Int) : ℚ :=
  mantissa * 2 ^ exponent + 2 ^ exponent / 2

/-- The numbers that round to `mantissa * 2 ^ exponent`, the ends to the even mantissa. -/
def RoundsTo (mantissa : Nat) (exponent : Int) (x : ℚ) : Prop :=
  if mantissa % 2 = 0 then lowEnd mantissa exponent ≤ x ∧ x ≤ highEnd mantissa exponent
  else lowEnd mantissa exponent < x ∧ x < highEnd mantissa exponent

/-- The first number is nearer to the value than the second, or it is the upper of two that are
equally near. -/
def Precedes (value x y : ℚ) : Prop :=
  |x - value| < |y - value| ∨ |x - value| = |y - value| ∧ y ≤ x

/-- The decimal rounds to `mantissa * 2 ^ exponent`, none with fewer digits does, and of those with
as many it is the nearest. -/
structure IsShortest (mantissa : Nat) (exponent : Int) (d : Digits) : Prop where
  rounds : RoundsTo mantissa exponent (d.digits * 10 ^ d.exponent)
  fewest : ∀ (n : Nat) (j : Int), RoundsTo mantissa exponent (n * 10 ^ j) →
    (Nat.toDigits 10 d.digits).length ≤ (Nat.toDigits 10 n).length
  nearest : ∀ (n : Nat) (j : Int), RoundsTo mantissa exponent (n * 10 ^ j) →
    (Nat.toDigits 10 n).length = (Nat.toDigits 10 d.digits).length →
    Precedes (mantissa * 2 ^ exponent) (d.digits * 10 ^ d.exponent) (n * 10 ^ j)

/-! ## Near and nearer -/

namespace Precedes

variable {v x y z : ℚ}

theorem of_below (h : y ≤ x) (below : x ≤ v) : Precedes v x y := by
  rcases h.eq_or_lt with rfl | less
  · exact .inr ⟨rfl, le_refl _⟩
  · refine .inl ?_
    rw [abs_of_nonpos (by linarith only [below]), abs_of_nonpos (by linarith only [below, h])]
    linarith only [less]

theorem of_above (h : x ≤ y) (above : v ≤ x) : Precedes v x y := by
  rcases h.eq_or_lt with rfl | less
  · exact .inr ⟨rfl, le_refl _⟩
  · refine .inl ?_
    rw [abs_of_nonneg (by linarith only [above]), abs_of_nonneg (by linarith only [above, h])]
    linarith only [less]

theorem trans (h : Precedes v x y) (h' : Precedes v y z) : Precedes v x z := by
  unfold Precedes at *
  rcases h with h | ⟨h, up⟩ <;> rcases h' with h' | ⟨h', up'⟩
  · exact .inl (h.trans h')
  · exact .inl (h.trans_eq h')
  · exact .inl (h.trans_lt h')
  · exact .inr ⟨h.trans h', up'.trans up⟩

/-- Of two numbers on both sides of the value the lower is nearer if the middle is above the
value. -/
theorem of_middle_above (low : x ≤ v) (middle : 2 * v < x + y) : Precedes v x y := by
  refine .inl ?_
  rw [abs_of_nonpos (by linarith only [low]), abs_of_nonneg (by linarith only [low, middle])]
  linarith only [middle]

theorem of_middle_below (low : y ≤ v) (high : v ≤ x) (middle : x + y ≤ 2 * v) : Precedes v x y := by
  have far : |y - v| = v - y := by
    rw [abs_of_nonpos (by linarith only [low])]
    ring
  have near : |x - v| = x - v := abs_of_nonneg (by linarith only [high])
  rw [Precedes, near, far]
  rcases middle.eq_or_lt with equal | less
  · exact .inr ⟨by linarith only [equal], low.trans high⟩
  · exact .inl (by linarith only [less])

theorem scale {u : ℚ} (positive : 0 < u) (h : Precedes (v / u) x y) :
    Precedes v (x * u) (y * u) := by
  have distance (z : ℚ) : |z * u - v| = |z - v / u| * u := by
    rw [← abs_of_pos positive, ← abs_mul, abs_of_pos positive, sub_mul,
      div_mul_cancel₀ _ positive.ne']
  unfold Precedes at *
  rw [distance, distance]
  rcases h with less | ⟨equal, up⟩
  · exact .inl (by gcongr)
  · exact .inr ⟨by rw [equal], by gcongr⟩

end Precedes

/-! ## Points of a grid in an interval -/

namespace Interval

def Contains (i : Interval) (x : ℚ) : Prop :=
  if i.closed then (i.low : ℚ) / i.denominator ≤ x ∧ x ≤ i.high / i.denominator
  else (i.low : ℚ) / i.denominator < x ∧ x < i.high / i.denominator

theorem holds_iff {i : Interval} (hd : 0 < i.denominator) (n : Nat) :
    i.holds n = true ↔ i.Contains n := by
  have positive : (0 : ℚ) < i.denominator := by exact_mod_cast hd
  unfold holds Contains
  cases i.closed <;>
    simp only [Bool.false_eq_true, if_false, if_true, Bool.and_eq_true, decide_eq_true_eq,
      div_le_iff₀ positive, le_div_iff₀ positive, div_lt_iff₀ positive, lt_div_iff₀ positive] <;>
    norm_cast

theorem Contains.between {i : Interval} {x y z : ℚ} (hx : i.Contains x) (hz : i.Contains z)
    (low : x ≤ y) (high : y ≤ z) : i.Contains y := by
  unfold Contains at *
  split <;> simp_all only [if_true, if_false, Bool.false_eq_true]
  · exact ⟨hx.1.trans low, high.trans hz.2⟩
  · exact ⟨hx.1.trans_le low, high.trans_lt hz.2⟩

theorem contains_rescale (i : Interval) (exponent : Int) (x : ℚ) :
    (i.rescale exponent).Contains x ↔ i.Contains (x * 10 ^ exponent) := by
  have positive : (0 : ℚ) < 10 ^ exponent := by positivity
  have low := i.rescale_quotient exponent i.low
  have high := i.rescale_quotient exponent i.high
  unfold Contains
  change (if i.closed then _ else _) ↔ _
  rw [show (i.rescale exponent).low = i.low * Nat.pow 10 (-exponent).toNat from rfl,
    show (i.rescale exponent).high = i.high * Nat.pow 10 (-exponent).toNat from rfl, low, high]
  cases i.closed <;>
    simp only [Bool.false_eq_true, if_false, if_true, div_le_iff₀ positive, le_div_iff₀ positive,
      div_lt_iff₀ positive, lt_div_iff₀ positive]

theorem value_bounds {i : Interval} (hd : 0 < i.denominator) :
    ((i.value / i.denominator : Nat) : ℚ) ≤ i.value / i.denominator ∧
      (i.value : ℚ) / i.denominator ≤ (i.value / i.denominator + 1 : Nat) := by
  have positive : (0 : ℚ) < i.denominator := by exact_mod_cast hd
  refine ⟨Nat.cast_div_le, ?_⟩
  rw [div_le_iff₀ positive]
  exact_mod_cast (Nat.lt_mul_of_div_lt (Nat.lt_succ_self _) hd).le

/-- If neither neighbour of the value is a hit, no whole number is one. -/
theorem nearest?_eq_none {tie : Tie} {i : Interval} (hd : 0 < i.denominator)
    (hv : i.Contains (i.value / i.denominator)) (h : i.nearest? tie = none) (n : Nat) :
    ¬i.Contains n := by
  intro inside
  obtain ⟨below, above⟩ := value_bounds hd
  rcases Nat.lt_or_ge (i.value / i.denominator) n with high | low
  · have hit := (holds_iff hd _).2 (hv.between inside above (by exact_mod_cast high))
    unfold nearest? at h
    grind
  · have hit := (holds_iff hd _).2 (inside.between hv (by exact_mod_cast low) below)
    unfold nearest? at h
    grind

/-- The lower neighbour is taken if the upper one is no hit or farther away, else the upper. -/
theorem nearest?_up {i : Interval} {n : Nat} (h : i.nearest? .up = some n) :
    (n = i.value / i.denominator ∧
      (i.holds (n + 1) = true → 2 * (i.value % i.denominator) < i.denominator)) ∨
    (n = i.value / i.denominator + 1 ∧
      (i.holds (i.value / i.denominator) = true →
        i.denominator ≤ 2 * (i.value % i.denominator))) := by
  unfold nearest? at h
  grind

theorem middle_above_iff {i : Interval} (hd : 0 < i.denominator) :
    2 * (i.value % i.denominator) < i.denominator ↔
      2 * ((i.value : ℚ) / i.denominator) <
        (i.value / i.denominator : Nat) + (i.value / i.denominator + 1 : Nat) := by
  have positive : (0 : ℚ) < i.denominator := by exact_mod_cast hd
  have split : i.value % i.denominator + i.denominator * (i.value / i.denominator) = i.value :=
    Nat.mod_add_div _ _
  have twice : 2 * (i.value : ℚ) <
      ((i.value / i.denominator : Nat) + (i.value / i.denominator + 1 : Nat)) * i.denominator ↔
        2 * (i.value % i.denominator) < i.denominator := by
    norm_cast
    constructor <;> intro h <;> nlinarith only [h, split]
  rw [← twice, ← mul_div_assoc, div_lt_iff₀ positive]

/-- A hit precedes every whole number of the interval. -/
theorem precedes_of_nearest? {i : Interval} (hd : 0 < i.denominator)
    (hv : i.Contains (i.value / i.denominator)) {n : Nat} (h : i.nearest? .up = some n) {k : Nat}
    (inside : i.Contains k) : Precedes (i.value / i.denominator) n k := by
  obtain ⟨below, above⟩ := value_bounds hd
  have middle := middle_above_iff hd
  rcases nearest?_up h with ⟨rfl, upper⟩ | ⟨rfl, lower⟩
  · rcases Nat.lt_or_ge (i.value / i.denominator) k with high | low
    · have next : ((i.value / i.denominator + 1 : Nat) : ℚ) ≤ k := by exact_mod_cast high
      have hit := (holds_iff hd _).2 (hv.between inside above next)
      exact .of_middle_above below ((middle.1 (upper hit)).trans_le (by gcongr))
    · exact .of_below (by exact_mod_cast low) below
  · rcases Nat.lt_or_ge (i.value / i.denominator) k with high | low
    · exact .of_above (by exact_mod_cast high) above
    · have last : (k : ℚ) ≤ (i.value / i.denominator : Nat) := by exact_mod_cast low
      have hit := (holds_iff hd _).2 (inside.between hv last below)
      have far := not_lt.1 (mt middle.2 (not_lt.2 (lower hit)))
      exact .of_middle_below (last.trans below) above (by linarith only [far, last])

/-! ## The first grid with a hit -/

theorem rescale_denominator_pos {i : Interval} (hd : 0 < i.denominator) (exponent : Int) :
    0 < (i.rescale exponent).denominator :=
  Nat.mul_pos hd (Nat.pow_pos (by decide))

theorem rescale_value (i : Interval) (exponent : Int) :
    ((i.rescale exponent).value : ℚ) / (i.rescale exponent).denominator =
      i.value / i.denominator / 10 ^ exponent :=
  i.rescale_quotient exponent i.value

theorem contains_rescale_value {i : Interval} (hv : i.Contains (i.value / i.denominator))
    (exponent : Int) : (i.rescale exponent).Contains
      ((i.rescale exponent).value / (i.rescale exponent).denominator) := by
  rw [rescale_value, contains_rescale, div_mul_cancel₀ _ (by positivity)]
  exact hv

/-- No point of the grid of `10 ^ exponent` lies in the interval. -/
def Misses (i : Interval) (exponent : Int) : Prop :=
  ∀ n : Nat, ¬i.Contains (n * 10 ^ exponent)

/-- A coarser grid is part of a finer one. -/
theorem Misses.coarser {i : Interval} {e e' : Int} (h : i.Misses e) (le : e ≤ e') :
    i.Misses e' := by
  intro n inside
  obtain ⟨k, rfl⟩ := Int.le.dest le
  refine h (n * 10 ^ k) ?_
  rw [zpow_add₀ (by norm_num), zpow_natCast] at inside
  push_cast
  rwa [mul_assoc, mul_comm ((10 : ℚ) ^ k)]

theorem misses_of_nearest? {tie : Tie} {i : Interval} {exponent : Int} (hd : 0 < i.denominator)
    (hv : i.Contains (i.value / i.denominator))
    (h : (i.rescale exponent).nearest? tie = none) : i.Misses exponent := fun n =>
  mt (i.contains_rescale exponent n).2 <|
    nearest?_eq_none (rescale_denominator_pos hd exponent) (contains_rescale_value hv exponent) h n

end Interval

/-- If one of the grids that are tried has a point in the interval, the search ends with a hit on
the coarsest of them. -/
theorem searchGrid_hit (tie : Tie) {i : Interval} (exponent : Int) {last : Int} (fuel : Nat)
    (hd : 0 < i.denominator) (hv : i.Contains (i.value / i.denominator))
    (found : ¬i.Misses last) (tried : last ≤ exponent ∧ exponent < last + fuel) :
    ∃ k ≤ exponent, ∃ n, (i.rescale k).nearest? tie = some n ∧
      searchGrid tie i exponent fuel = Digits.trimZeros n k 17 ∧
      (k < exponent → i.Misses (k + 1)) := by
  induction fuel generalizing exponent with
  | zero => omega
  | succ fuel ih =>
    unfold searchGrid
    split
    · rename_i n hit
      exact ⟨exponent, le_refl _, n, hit, rfl, fun less => absurd less (lt_irrefl _)⟩
    · rename_i miss
      have missed := Interval.misses_of_nearest? hd hv miss
      have other : last ≠ exponent := fun same => found (same ▸ missed)
      obtain ⟨k, below, n, hit, result, coarser⟩ := ih (exponent - 1) (by omega)
      refine ⟨k, by omega, n, hit, result, fun _ => ?_⟩
      rcases below.lt_or_eq with less | rfl
      · exact coarser less
      · rwa [sub_add_cancel]

/-! ## The interval of a float -/

namespace Interval

theorem quarters_div (exponent : Int) (n : Nat) :
    ((n * (1 <<< (exponent - 2).toNat) : Nat) : ℚ) / (1 <<< (2 - exponent).toNat : Nat) =
      n * 2 ^ exponent / 4 := by
  have quarter : (2 : ℚ) ^ (exponent - 2) = 2 ^ exponent / 4 := by
    rw [zpow_sub₀ (by norm_num)]
    norm_num
  rw [mul_div_assoc, ← quarter, zpow_eq_div 2 (exponent - 2), neg_sub, Nat.one_shiftLeft,
    Nat.one_shiftLeft]
  push_cast
  ring

theorem value_ofBinary (mantissa : Nat) (exponent : Int) :
    ((ofBinary mantissa exponent).value : ℚ) / (ofBinary mantissa exponent).denominator =
      mantissa * 2 ^ exponent := by
  refine (quarters_div exponent (4 * mantissa)).trans ?_
  push_cast
  ring

theorem high_ofBinary (mantissa : Nat) (exponent : Int) :
    ((ofBinary mantissa exponent).high : ℚ) / (ofBinary mantissa exponent).denominator =
      highEnd mantissa exponent := by
  refine (quarters_div exponent (4 * mantissa + 2)).trans ?_
  rw [highEnd]
  push_cast
  ring

theorem low_ofBinary {mantissa : Nat} (positive : 0 < mantissa) (exponent : Int) :
    ((ofBinary mantissa exponent).low : ℚ) / (ofBinary mantissa exponent).denominator =
      lowEnd mantissa exponent := by
  refine (quarters_div exponent _).trans ?_
  have bottom : (mantissa == Binary.leadingBit && decide (exponent > Binary.leastExponent)) = true ↔
      mantissa = 2 ^ 52 ∧ -1074 < exponent := by
    rw [Bool.and_eq_true, beq_iff_eq, decide_eq_true_eq]
    rfl
  simp only [bottom, lowEnd]
  split
  · rw [Nat.cast_sub (by omega)]
    push_cast
    ring
  · rw [Nat.cast_sub (by omega)]
    push_cast
    ring

theorem contains_ofBinary_iff {mantissa : Nat} (positive : 0 < mantissa) (exponent : Int) (x : ℚ) :
    (ofBinary mantissa exponent).Contains x ↔ RoundsTo mantissa exponent x := by
  unfold Contains RoundsTo
  rw [low_ofBinary positive, high_ofBinary]
  simp only [ofBinary, beq_iff_eq]

end Interval

theorem roundsTo_of_lt {mantissa : Nat} {exponent : Int} {x : ℚ}
    (low : lowEnd mantissa exponent < x)
    (high : x < highEnd mantissa exponent) : RoundsTo mantissa exponent x := by
  unfold RoundsTo
  split
  · exact ⟨low.le, high.le⟩
  · exact ⟨low, high⟩

theorem roundsTo_self (mantissa : Nat) (exponent : Int) :
    RoundsTo mantissa exponent (mantissa * 2 ^ exponent) := by
  have unit : (0 : ℚ) < 2 ^ exponent := by positivity
  refine roundsTo_of_lt ?_ ?_
  · unfold lowEnd
    split <;> linarith only [unit]
  · unfold highEnd
    linarith only [unit]

/-- Units of the seventeenth digit are so small that a multiple of them rounds to the value: at the
bottom of a binade the next one above, otherwise one of the two neighbours. -/
theorem exists_roundsTo {mantissa : Nat} (bits : mantissa < 2 ^ 53) (exponent : Int) {u : ℚ}
    (positive : 0 < u) (fine : u * 10 ^ 16 ≤ mantissa * 2 ^ exponent) :
    ∃ n : Nat, RoundsTo mantissa exponent (n * u) := by
  have binary : (0 : ℚ) < 2 ^ exponent := by positivity
  generalize hv : (mantissa : ℚ) * 2 ^ exponent = v at fine
  generalize hw : (2 : ℚ) ^ exponent = w at binary hv
  have nonneg : 0 ≤ v / u := by
    rw [← hv]
    positivity
  have low : (⌊v / u⌋₊ : ℚ) * u ≤ v := by
    rw [← le_div_iff₀ positive]
    exact Nat.floor_le nonneg
  have high : v < ((⌊v / u⌋₊ + 1 : Nat) : ℚ) * u := by
    rw [← div_lt_iff₀ positive]
    exact_mod_cast Nat.lt_floor_add_one _
  have next : ((⌊v / u⌋₊ + 1 : Nat) : ℚ) * u = ⌊v / u⌋₊ * u + u := by
    push_cast
    ring
  have top : highEnd mantissa exponent = v + w / 2 := by rw [highEnd, hw, hv]
  by_cases bottom : mantissa = 2 ^ 52 ∧ -1074 < exponent
  · have small : u < w / 2 := by
      rw [bottom.1] at hv
      norm_num at hv
      linarith only [hv, fine, binary]
    have low' : lowEnd mantissa exponent = v - w / 4 := by rw [lowEnd, if_pos bottom, hw, hv]
    refine ⟨⌊v / u⌋₊ + 1, roundsTo_of_lt ?_ ?_⟩
    · linarith only [low', high, binary]
    · linarith only [top, next, low, small]
  · have small : u < w := by
      have most : v ≤ (2 ^ 53 : ℚ) * w := by
        rw [← hv]
        gcongr
        exact_mod_cast bits.le
      norm_num at most
      linarith only [most, fine, binary]
    have low' : lowEnd mantissa exponent = v - w / 2 := by rw [lowEnd, if_neg bottom, hw, hv]
    rcases lt_or_ge (v - w / 2) (⌊v / u⌋₊ * u) with near | far
    · exact ⟨⌊v / u⌋₊, roundsTo_of_lt (low' ▸ near) (by linarith only [top, low, binary])⟩
    · refine ⟨⌊v / u⌋₊ + 1, roundsTo_of_lt ?_ ?_⟩
      · linarith only [low', high, binary]
      · linarith only [top, next, far, small]

theorem Interval.leading_le {i : Interval} (hv : 0 < i.value) (hd : 0 < i.denominator) :
    (10 : ℚ) ^ i.leading ≤ i.value / i.denominator := by
  have reaches := i.reaches_leading hv hd
  have positive : (0 : ℚ) < i.denominator := by exact_mod_cast hd
  rw [zpow_eq_div, div_le_div_iff₀ (by positivity) positive, mul_comm]
  exact_mod_cast reaches

theorem trimZeros_le_div {digits : Nat} (h : digits % 10 = 0) (nonzero : digits ≠ 0)
    (exponent : Int)
    (fuel : Nat) : (Digits.trimZeros digits exponent (fuel + 1)).digits ≤ digits / 10 := by
  rw [Digits.trimZeros, if_pos (by simp [h, nonzero])]
  exact trimZeros_le _ _ _

/-- A hit has at most the digits from the leading one down to its grid: one with a digit more ends
in zeros. -/
theorem length_trimZeros_le {tie : Tie} {i : Interval} (hv : 0 < i.value) (hd : 0 < i.denominator)
    {k : Int} (below : k ≤ i.leading) {n : Nat} (hit : (i.rescale k).nearest? tie = some n) :
    ((Nat.toDigits 10 (Digits.trimZeros n k 17).digits).length : Int) ≤ i.leading - k + 1 := by
  obtain ⟨c, hc⟩ : ∃ c : Nat, i.leading - k + 1 = c + 1 := ⟨(i.leading - k).toNat, by omega⟩
  have floor : (i.rescale k).value / (i.rescale k).denominator < 10 ^ (c + 1) := by
    have less : (i.value : ℚ) / i.denominator / 10 ^ k < 10 ^ (c + 1) := by
      rw [div_lt_iff₀ (by positivity), ← zpow_natCast, ← zpow_add₀ (by norm_num)]
      refine (Interval.lt_leading hv hd).trans_le (zpow_le_zpow_right₀ (by norm_num) ?_)
      push_cast
      omega
    exact_mod_cast (i.floor_le k).trans_lt less
  have most : n ≤ 10 ^ (c + 1) := Nat.le_trans (nearest?_le hit) floor
  have short : (Digits.trimZeros n k 17).digits < 10 ^ (c + 1) := by
    rcases most.lt_or_eq with less | rfl
    · exact Nat.lt_of_le_of_lt (trimZeros_le n k 17) less
    · have tens : 10 ^ (c + 1) % 10 = 0 := Nat.mod_eq_zero_of_dvd (Dvd.intro_left (10 ^ c) rfl)
      refine Nat.lt_of_le_of_lt (trimZeros_le_div tens (by positivity) k 16) ?_
      exact Nat.div_lt_self (by positivity) (by decide)
  have length := (Nat.length_toDigits_le_iff (by decide) c.succ_pos).2 short
  omega

theorem mul_zpow_lt {n : Nat} {j top : Int} (h : (Nat.toDigits 10 n).length + j ≤ top) :
    (n : ℚ) * 10 ^ j < 10 ^ top := by
  have digits : (n : ℚ) < 10 ^ (Nat.toDigits 10 n).length := by
    exact_mod_cast lt_pow_length_toDigits n
  calc (n : ℚ) * 10 ^ j < 10 ^ (Nat.toDigits 10 n).length * 10 ^ j := by gcongr
    _ = 10 ^ (((Nat.toDigits 10 n).length : Int) + j) := by
      rw [zpow_add₀ (by norm_num), zpow_natCast]
    _ ≤ 10 ^ top := zpow_le_zpow_right₀ (by norm_num) h

section Hit

variable {i : Interval} {k top : Int} (inside : i.Contains (i.value / i.denominator))
  (leading : 10 ^ top ≤ (i.value : ℚ) / i.denominator) (below : k ≤ top)

include inside leading

/-- With a digit less than from the leading one down to the first grid with a hit, a decimal of the
interval would lie on a coarser grid, or below the leading digit, which then would lie there,
too. -/
theorem le_length_of_contains (coarser : k < top → i.Misses (k + 1)) {n : Nat} {j : Int}
    (h : i.Contains (n * 10 ^ j)) : top - k + 1 ≤ (Nat.toDigits 10 n).length := by
  by_contra! short
  have digits := Nat.length_toDigits_pos (b := 10) (n := n)
  have misses := coarser (by omega)
  rcases lt_or_ge k j with high | low
  · exact misses.coarser (by omega) n h
  · refine misses.coarser (show k + 1 ≤ top by omega) 1 ?_
    rw [Nat.cast_one, one_mul]
    exact h.between inside (mul_zpow_lt (by omega)).le leading

include below

/-- A decimal with so many digits lies on the grid of the hit or below the leading digit. -/
theorem precedes_of_hit (hd : 0 < i.denominator) {hit : Nat}
    (h : (i.rescale k).nearest? .up = some hit) {n : Nat} {j : Int} (hn : i.Contains (n * 10 ^ j))
    (short : (Nat.toDigits 10 n).length ≤ top - k + 1) :
    Precedes (i.value / i.denominator) (hit * 10 ^ k) (n * 10 ^ j) := by
  have unit : (0 : ℚ) < 10 ^ k := by positivity
  have multiple (m : Nat) {e : Int} (le : k ≤ e) :
      ∃ m' : Nat, (m' : ℚ) * 10 ^ k = m * 10 ^ e := by
    obtain ⟨t, rfl⟩ := Int.le.dest le
    refine ⟨m * 10 ^ t, ?_⟩
    rw [zpow_add₀ (by norm_num), zpow_natCast]
    push_cast
    ring
  have grid (m : Nat) (hm : i.Contains (m * 10 ^ k)) :
      Precedes (i.value / i.denominator) (hit * 10 ^ k) (m * 10 ^ k) := by
    have near := Interval.precedes_of_nearest? (Interval.rescale_denominator_pos hd k)
      (Interval.contains_rescale_value inside k) h ((i.contains_rescale k m).2 hm)
    rw [Interval.rescale_value] at near
    exact near.scale unit
  rcases le_or_gt k j with high | low
  · obtain ⟨m, same⟩ := multiple n high
    exact same ▸ grid m (same ▸ hn)
  · obtain ⟨m, same⟩ := multiple 1 below
    rw [Nat.cast_one, one_mul] at same
    have less : (n : ℚ) * 10 ^ j < 10 ^ top := mul_zpow_lt (by omega)
    have there := hn.between inside less.le leading
    exact (same ▸ grid m (same ▸ there)).trans (.of_below less.le leading)

end Hit

/-- The digits of a float are the shortest. -/
theorem isShortest_shortest {mantissa : Nat} (positive : 0 < mantissa) (bits : mantissa < 2 ^ 53)
    (exponent : Int) : IsShortest mantissa exponent (shortest .up mantissa exponent) := by
  have hd := Interval.ofBinary_denominator_pos mantissa exponent
  have hv := Interval.ofBinary_value_pos positive exponent
  have contains := Interval.contains_ofBinary_iff positive exponent
  have value := Interval.value_ofBinary mantissa exponent
  have inside := (contains _).2 (roundsTo_self mantissa exponent)
  have leading := Interval.leading_le hv hd
  simp only [shortest]
  generalize Interval.ofBinary mantissa exponent = i at *
  rw [← value] at inside
  have found : ¬i.Misses (i.leading - 16) := by
    obtain ⟨n, rounds⟩ := exists_roundsTo bits exponent (u := 10 ^ (i.leading - 16)) (by positivity)
      (by rwa [← value, ← zpow_natCast, ← zpow_add₀ (by norm_num), Nat.cast_ofNat, sub_add_cancel])
    exact fun misses => misses n ((contains _).2 rounds)
  obtain ⟨k, below, n, hit, result, coarser⟩ :=
    searchGrid_hit .up i.leading 17 hd inside found ⟨by omega, by omega⟩
  have short := length_trimZeros_le hv hd below hit
  have same : ((searchGrid .up i i.leading 17).digits : ℚ) *
      10 ^ (searchGrid .up i i.leading 17).exponent = n * 10 ^ k := by
    rw [result]
    exact value_trimZeros n k 17
  rw [← result] at short
  refine ⟨?_, fun m j hm => ?_, fun m j hm length => ?_⟩
  · rw [same, ← contains, ← i.contains_rescale,
      ← Interval.holds_iff (Interval.rescale_denominator_pos hd k)]
    exact holds_of_nearest? hit
  · have least := le_length_of_contains inside leading coarser ((contains _).2 hm)
    omega
  · rw [same, ← value]
    exact precedes_of_hit inside leading below hd hit ((contains _).2 hm) (by omega)

end Decimal

end CatalogReport
