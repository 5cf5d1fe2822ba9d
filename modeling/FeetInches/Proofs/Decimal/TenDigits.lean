import FeetInches.Proofs.Numeral.Amount
/-!
Ten significant digits of a number, and of the number nearest to them. A floating-point number is
nearer to its quotient than ten digits tell, so they are the same, down to the least numbers.
-/

namespace FeetInches

open Binary64 Decimal

/-! How near rounding comes -/

/-- A rounded count of units is half a unit off, or a part of `2 ^ 53`. -/
theorem rounded_close (n : Nat) {d : Nat} (below : 0 < d) :
    |(rounded n d : ℚ) - n / d| ≤ 1 / 2 ∨ |(rounded n d : ℚ) - n / d| * 2 ^ 53 ≤ n / d := by
  have divisor : (0 : ℚ) < d := by exact_mod_cast below
  have upper : (2 * (d * rounded n d) : ℚ) ≤ 2 * n + d * 2 ^ binade n d := by
    exact_mod_cast rounded_upper n d
  have lower : (2 * n : ℚ) ≤ 2 * (d * rounded n d) + d * 2 ^ binade n d := by
    exact_mod_cast rounded_lower n below
  have near : |(rounded n d : ℚ) - n / d| ≤ 2 ^ binade n d / 2 := by
    have quotient : (n : ℚ) / d * d = n := div_mul_cancel₀ _ divisor.ne'
    rw [abs_le]
    constructor
    · apply le_of_mul_le_mul_right _ divisor
      rw [sub_mul, quotient]
      linarith
    · apply le_of_mul_le_mul_right _ divisor
      rw [sub_mul, quotient]
      linarith
  rcases binade_le n d with lowest | normal
  · left
    rwa [lowest, pow_zero] at near
  · right
    have large : (2 : ℚ) ^ binade n d * 2 ^ 52 ≤ n / d := by
      rw [le_div_iff₀ divisor, ← pow_add, mul_comm]
      exact_mod_cast normal
    linarith

/-! The exact value of significant digits -/

theorem length_digits {m places : Nat} (first : 10 ^ places ≤ m) (last : m < 10 ^ (places + 1)) :
    (digits m).length = places + 1 := by
  apply le_antisymm ((digits_length_le (Nat.succ_pos places)).mpr last)
  apply Nat.le_of_not_lt
  intro short
  rcases Nat.eq_zero_or_pos places with rfl | some
  · have nonempty := List.length_pos_iff.mpr (digits_ne_nil m)
    omega
  · have less := (digits_length_le some).mp (Nat.le_of_lt_succ short)
    omega

theorem value_digits {m places : Nat} (first : 10 ^ places ≤ m) (last : m < 10 ^ (places + 1))
    (e : ℤ) : (⟨digits m, e⟩ : Scientific).value = m * 10 ^ (e - places) := by
  rw [Scientific.value, ofDigits_digits, length_digits first last]
  push_cast
  congr 2
  ring

/-! The least numbers -/

/-- The units in `10 ^ (-314)`. From there on a tenth digit is two units or more, and below it less
than one. -/
theorem units_of_least :
    (2024022533 : ℚ) < 10 ^ (-314 : ℤ) * oneUnits ∧
      (10 : ℚ) ^ (-314 : ℤ) * oneUnits < 2024022534 - 9 / 10 := by
  have above : 2024022533 * 10 ^ 314 < oneUnits := by decide +kernel
  have below : 10 * oneUnits < 20240225331 * 10 ^ 314 := by decide +kernel
  have inverse : (10 : ℚ) ^ (-314 : ℤ) = ((10 ^ 314 : Nat) : ℚ)⁻¹ := by
    rw [ten_zpow_eq, show (-314 : ℤ).toNat = 0 from rfl, show (- -314 : ℤ).toNat = 314 from rfl,
      Nat.pow_zero, Nat.cast_one, one_div]
  rw [inverse, mul_comm, ← div_eq_mul_inv]
  generalize 10 ^ 314 = scale at *
  have positive : 0 < scale := by omega
  have divisor : (0 : ℚ) < scale := by exact_mod_cast positive
  rw [lt_div_iff₀ divisor, div_lt_iff₀ divisor]
  have first : (2024022533 * scale : ℚ) < oneUnits := by exact_mod_cast above
  have second : (10 * oneUnits : ℚ) < 20240225331 * scale := by exact_mod_cast below
  constructor <;> linarith

section Units

variable {r m : Nat} {e : ℤ} {w : ℚ} (unit : 10 ^ (e - 9) * oneUnits = w)
include unit

/-- A unit of the last place in units of the least number: many, about two, or a part of one. -/
theorem unit_cases :
    20 ≤ w ∨ 2 < w ∧ w < 3 ∧ |2024022533 - 10 ^ 9 * w| < w / 20 ∨ w < 1 := by
  obtain ⟨above, below⟩ := units_of_least
  have place : w = 10 ^ (e + 305) * (10 ^ (-314 : ℤ) * oneUnits) := by
    rw [← unit, ← mul_assoc, ← ten_zpow_add]
    congr 2
    ring
  generalize (10 : ℚ) ^ (-314 : ℤ) * oneUnits = t at *
  rcases lt_trichotomy e (-314) with less | same | more
  · right
    right
    have small : w ≤ 10 ^ (-10 : ℤ) * t :=
      place ▸ mul_le_mul_of_nonneg_right (ten_zpow_mono (by omega)) (by linarith)
    norm_num at small
    linarith
  · right
    left
    rw [same] at place
    norm_num at place
    rw [abs_lt]
    exact ⟨by linarith, by linarith, by linarith, by linarith⟩
  · left
    have large : 10 ^ (-8 : ℤ) * t ≤ w :=
      place ▸ mul_le_mul_of_nonneg_right (ten_zpow_mono (by omega)) (by linarith)
    norm_num at large
    linarith

theorem abs_units (r m : ℚ) :
    |r / oneUnits - m * 10 ^ (e - 9)| * oneUnits = |r - m * w| := by
  rw [← abs_sub_mul cast_oneUnits_pos, ← unit, mul_assoc]

theorem significant_units_eq (first : 10 ^ 9 ≤ m) (last : m < 10 ^ 10)
    (near : |(r : ℚ) - m * w| < w / 2) (power : m = 10 ^ 9 → |(r : ℚ) - m * w| < w / 20) :
    0 < r ∧ significant 10 r oneUnits = ⟨digits m, e⟩ := by
  have one := cast_oneUnits_pos
  have least : (1 : ℚ) ≤ m := by
    exact_mod_cast le_trans (Nat.one_le_pow 9 10 (by decide)) first
  have reached : 0 < r := by
    have positive : 0 < w := unit ▸ mul_pos (ten_zpow_pos _) one
    have whole := mul_le_mul_of_nonneg_right least positive.le
    have reached : (0 : ℚ) < r := by linarith [(abs_lt.mp near).1]
    exact_mod_cast reached
  have scaled (part : ℚ) (off : |(r : ℚ) - m * w| < w / part) :
      |(r : ℚ) / oneUnits - m * 10 ^ (e - 9)| < 10 ^ (e - 9) / part := by
    apply lt_of_mul_lt_mul_right _ one.le
    rw [abs_units unit, div_mul_eq_mul_div, unit]
    exact off
  refine ⟨reached, significant_eq reached oneUnits_pos first last (scaled 2 near) fun same => ?_⟩
  exact scaled 20 (power same)

end Units

theorem eq_of_half {r a : Nat} {q : ℚ} (near : |(r : ℚ) - q| ≤ 1 / 2) (nearer : |a - q| < 1 / 2) :
    r = a := by
  obtain ⟨left, right⟩ := abs_le.mp near
  obtain ⟨least, most⟩ := abs_lt.mp nearer
  have upper : (r : ℚ) < (a + 1 : Nat) := by
    push_cast
    linarith
  have lower : (a : ℚ) < (r + 1 : Nat) := by
    push_cast
    linarith
  have short : r < a + 1 := by exact_mod_cast upper
  have reached : a < r + 1 := by exact_mod_cast lower
  omega

/-- The count of units nearest to the digits of another one has the same digits. -/
theorem significant_rounded {a n d : Nat} (positive : 0 < a) (below : 0 < d)
    (units : (significant 10 a oneUnits).value * oneUnits = n / d) :
    0 < rounded n d ∧ significant 10 (rounded n d) oneUnits = significant 10 a oneUnits := by
  obtain ⟨m, e, digits, first, last, near⟩ := exists_significant positive oneUnits_pos 9
  rw [digits, value_digits first last, mul_assoc, Nat.cast_ofNat] at units
  rw [Nat.cast_ofNat] at near
  generalize unit : (10 : ℚ) ^ (e - 9) * oneUnits = w at *
  have close := rounded_close n below
  rw [← units] at close
  rcases close with half | relative
  · rcases unit_cases unit with many | ⟨least, most, place⟩ | part
    · rw [digits]
      exact significant_units_eq unit first last (by linarith) fun _ => by linarith
    · -- half a unit is too much at the power of ten alone, and there the count is known
      rw [digits]
      refine significant_units_eq unit first last (by linarith) fun power => ?_
      rw [power, Nat.cast_pow, Nat.cast_ofNat] at half ⊢
      have counted : rounded n d = 2024022533 := by
        apply eq_of_half half
        rw [Nat.cast_ofNat]
        linarith
      rwa [counted, Nat.cast_ofNat]
    · -- the digits are so near to the count that they came from that it is found again
      have scaled := mul_le_mul_of_nonneg_right near cast_oneUnits_pos.le
      rw [abs_units unit, div_mul_eq_mul_div, unit] at scaled
      have same : rounded n d = a := eq_of_half half (by linarith)
      rw [same]
      exact ⟨positive, rfl⟩
  · rw [digits]
    have positive : 0 < w := unit ▸ mul_pos (ten_zpow_pos _) cast_oneUnits_pos
    apply significant_units_eq unit first last
    · have most : (m : ℚ) ≤ 10 ^ 10 := by exact_mod_cast last.le
      have whole := mul_le_mul_of_nonneg_right most positive.le
      linarith
    · intro power
      have whole : (m : ℚ) * w = 10 ^ 9 * w := by rw [power, Nat.cast_pow, Nat.cast_ofNat]
      linarith

theorem significant_value_bounds {a : Nat} (positive : 0 < a) :
    (a : ℚ) / oneUnits ≤ 2 * (significant 10 a oneUnits).value ∧
      (significant 10 a oneUnits).value ≤ 2 * (a / oneUnits) := by
  obtain ⟨m, e, digits, first, last, near⟩ := exists_significant positive oneUnits_pos 9
  have unit := ten_zpow_pos (e - (9 : Nat))
  have least : (1 : ℚ) ≤ m := by
    exact_mod_cast le_trans (Nat.one_le_pow 9 10 (by decide)) first
  have whole := mul_le_mul_of_nonneg_right least unit.le
  obtain ⟨left, right⟩ := abs_le.mp near
  rw [digits, value_digits first last]
  generalize (10 : ℚ) ^ (e - ((9 : Nat) : ℤ)) = u at *
  constructor <;> linarith

theorem exponent_le_nine_iff {a : Nat} (positive : 0 < a) :
    (significant 10 a oneUnits).exponent ≤ 9 ↔ (a : ℚ) / oneUnits < 10 ^ 10 - 1 / 2 := by
  have bound := significant_exponent_le_iff positive oneUnits_pos 9 9
  rwa [Nat.cast_ofNat, sub_self, zpow_zero, mul_one] at bound

/-- Ten digits with a power of ten show a whole number. It can be held, so it is found. -/
theorem dvd_rounded {a n d : Nat} (positive : 0 < a) (below : 0 < d)
    (units : (significant 10 a oneUnits).value * oneUnits = n / d)
    (high : 10 ≤ (significant 10 a oneUnits).exponent)
    (small : (significant 10 a oneUnits).value < 2 ^ 53) : oneUnits ∣ rounded n d := by
  obtain ⟨m, e, digits, first, last, _⟩ := exists_significant positive oneUnits_pos 9
  have divisor : (0 : ℚ) < d := by exact_mod_cast below
  rw [digits] at high
  rw [digits, value_digits first last] at units small
  obtain ⟨zeros, place⟩ : ∃ zeros : Nat, e - ((9 : Nat) : ℤ) = zeros :=
    ⟨(e - 9).toNat, by dsimp only at high; omega⟩
  rw [place, zpow_natCast] at units small
  have held : Representable (m * 10 ^ zeros * oneUnits) :=
    representable_whole (by exact_mod_cast small)
  have same : rounded n d = rounded (1 * (m * 10 ^ zeros * oneUnits)) 1 := by
    apply rounded_congr below Nat.one_pos
    rw [eq_div_iff divisor.ne'] at units
    rw [Nat.mul_one, Nat.one_mul]
    exact_mod_cast units.symm
  rw [same, rounded_exact held Nat.one_pos]
  exact Nat.dvd_mul_left _ _

/-! Whole numbers -/

theorem lowDigits_tenfold {n : Nat} (positive : 0 < n) : lowDigits (n * 10) = 0 :: lowDigits n := by
  rw [lowDigits, if_neg (by omega), Nat.mul_div_cancel n (by decide), Nat.mul_mod_left]
  rfl

theorem digits_mul_pow {n : Nat} (positive : 0 < n) (count : Nat) :
    digits (n * 10 ^ count) = digits n ++ List.replicate count 0 := by
  induction count with
  | zero => simp
  | succ count ih =>
      have power : n * 10 ^ (count + 1) = n * 10 ^ count * 10 := by rw [Nat.pow_succ, Nat.mul_assoc]
      rw [power, digits, lowDigits_tenfold (Nat.mul_pos positive (Nat.pow_pos (by decide))),
        List.reverse_cons, ← digits, ih, List.append_assoc, List.replicate_succ']

theorem dropTrailingZeros_zeros (count : Nat) :
    dropTrailingZeros (List.replicate count 0) = [] := by
  simp [dropTrailingZeros]

theorem significant_whole {k : Nat} (positive : 0 < k) (small : k < 10 ^ 10) :
    ∃ front zeros, front + zeros = 9 ∧ (digits k).length = front + 1 ∧
      significant 10 (k * oneUnits) oneUnits =
        ⟨digits k ++ List.replicate zeros 0, front⟩ := by
  obtain ⟨front, _, lower, upper⟩ := exists_digitCount positive
  have few : front < 10 := (Nat.pow_lt_pow_iff_right (by decide)).mp (lower.trans_lt small)
  obtain ⟨zeros, sum⟩ : ∃ zeros, front + zeros = 9 := ⟨9 - front, by omega⟩
  have first : 10 ^ 9 ≤ k * 10 ^ zeros := by
    rw [← sum, Nat.pow_add]
    exact Nat.mul_le_mul_right _ lower
  have last : k * 10 ^ zeros < 10 ^ 10 := by
    have split : 10 ^ 10 = 10 ^ (front + 1) * 10 ^ zeros := by
      rw [← Nat.pow_add, Nat.add_right_comm, sum]
    rw [split]
    exact Nat.mul_lt_mul_of_pos_right upper (Nat.pow_pos (by decide))
  have exact : ((k * oneUnits : Nat) : ℚ) / oneUnits -
      ((k * 10 ^ zeros : Nat) : ℚ) * 10 ^ ((front : ℤ) - (9 : Nat)) = 0 := by
    have place : (front : ℤ) - (9 : Nat) = -(zeros : ℤ) := by omega
    rw [place, zpow_neg, zpow_natCast]
    push_cast
    rw [mul_div_cancel_right₀ _ cast_oneUnits_pos.ne', mul_inv_cancel_right₀ (by positivity),
      sub_self]
  refine ⟨front, zeros, sum, length_digits lower upper, ?_⟩
  rw [← digits_mul_pow positive]
  have unit := ten_zpow_pos ((front : ℤ) - (9 : Nat))
  apply significant_eq (Nat.mul_pos positive oneUnits_pos) oneUnits_pos first last
  · rw [exact, abs_zero]
    exact div_pos unit (by norm_num)
  · intro _
    rw [exact, abs_zero]
    exact div_pos unit (by norm_num)

theorem text_whole {k : Nat} (positive : 0 < k) (small : k < 10 ^ 10) :
    (significant 10 (k * oneUnits) oneUnits).text ⟨-4, 10, false⟩ = natText k := by
  obtain ⟨front, zeros, sum, length, same⟩ := significant_whole positive small
  have positional : ¬ ((front : ℤ) < -4 ∨ 10 ≤ (front : ℤ)) := by omega
  have count : ((front : ℤ) + 1).toNat = (digits k).length := by omega
  have noZeros : (-(front : ℤ) - 1).toNat = 0 := by omega
  have full : (digits k).length - (digits k ++ List.replicate zeros 0).length = 0 := by
    rw [List.length_append]
    omega
  rw [same, Scientific.text]
  dsimp only
  rw [if_neg positional, count, noZeros, full]
  simp only [List.replicate_zero, List.nil_append, List.append_nil, List.take_left, List.drop_left,
    dropTrailingZeros_zeros]
  rw [if_neg (by omega)]
  rfl

/-! With a power of ten -/

/-- At most ten digits with a point behind the first one, and a power of ten from the tenth on. -/
def Decimal.ShowsPower (text : String) : Prop :=
  ∃ (first : Digit) (rest : List Digit) (exponent : Nat), first ≠ 0 ∧ rest.length ≤ 9 ∧
    10 ≤ exponent ∧ text = withFraction (digitText [first]) rest ++ "e+" ++ natText exponent

theorem exists_first_digit {m places : Nat} (first : 10 ^ places ≤ m)
    (last : m < 10 ^ (places + 1)) :
    ∃ d ds, digits m = d :: ds ∧ d ≠ 0 ∧ ds.length = places := by
  have length := length_digits first last
  cases shape : digits m with
  | nil => exact absurd shape (digits_ne_nil m)
  | cons d ds =>
      rw [shape, List.length_cons, Nat.add_right_cancel_iff] at length
      refine ⟨d, ds, rfl, ?_, length⟩
      rintro rfl
      have small := Numeral.ofDigits_lt ds
      have number : ofDigits (0 :: ds) = m := by rw [← shape, ofDigits_digits]
      have same : ofDigits (0 :: ds) = ofDigits ds := Numeral.ofDigits_zeros 1 ds
      rw [length] at small
      omega

theorem powerText_eq {e : Nat} (high : 10 ≤ e) : powerText e = "e+" ++ natText e := by
  have two : ¬ (digits e).length ≤ 1 := by
    rw [digits_length_le Nat.one_pos]
    omega
  have full : 2 - (digits e).length = 0 := by omega
  have positive : ¬ (e : Int) < 0 := by omega
  simp [powerText, natText, positive, full]

theorem length_dropTrailingZeros (ds : List Digit) :
    (dropTrailingZeros ds).length ≤ ds.length := by
  unfold dropTrailingZeros
  rw [List.length_reverse, ← ds.length_reverse]
  exact List.length_dropWhile_le _ _

theorem showsPower_text {a : Nat} (positive : 0 < a)
    (high : 10 ≤ (significant 10 a oneUnits).exponent) :
    ShowsPower ((significant 10 a oneUnits).text ⟨-4, 10, false⟩) := by
  obtain ⟨m, e, same, first, last, _⟩ := exists_significant positive oneUnits_pos 9
  obtain ⟨d, ds, shape, nonzero, length⟩ := exists_first_digit first last
  rw [same] at high ⊢
  obtain ⟨exponent, rfl⟩ := Int.eq_ofNat_of_zero_le (by dsimp only at high; omega : 0 ≤ e)
  have tenth : 10 ≤ exponent := by simpa using high
  refine ⟨d, dropTrailingZeros ds, exponent, nonzero, ?_, tenth, ?_⟩
  · exact length ▸ length_dropTrailingZeros ds
  · rw [Scientific.text, if_pos (Or.inr high), powerText_eq tenth, shape, String.append_assoc]
    rfl

end FeetInches
