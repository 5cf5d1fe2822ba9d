import FeetInches.Proofs.Binary64.Value
import FeetInches.Proofs.Numeral.ReadBack
import Mathlib.Algebra.Order.Field.Power
import Mathlib.Tactic.FieldSimp

namespace FeetInches

namespace Decimal

def Scientific.value (s : Scientific) : ℚ :=
  ofDigits s.digits * 10 ^ (s.exponent - s.digits.length + 1)

/-! The exponent of the first digit -/

theorem ten_zpow_pos (e : ℤ) : (0 : ℚ) < 10 ^ e := zpow_pos (by norm_num) e

theorem ten_zpow_add (e f : ℤ) : (10 : ℚ) ^ (e + f) = 10 ^ e * 10 ^ f :=
  zpow_add₀ (by norm_num) e f

theorem ten_zpow_eq (e : ℤ) :
    (10 : ℚ) ^ e = ((10 ^ e.toNat : Nat) : ℚ) / ((10 ^ (-e).toNat : Nat) : ℚ) := by
  obtain ⟨k, rfl | rfl⟩ := e.eq_nat_or_neg
  · simp
  · simp

theorem ten_zpow_places (e : ℤ) (places : Nat) :
    (10 : ℚ) ^ e = 10 ^ places * 10 ^ (e - places) := by
  rw [← zpow_natCast, ← ten_zpow_add, add_sub_cancel]

theorem ten_zpow_succ (e : ℤ) : (10 : ℚ) ^ (e + 1) = 10 * 10 ^ e := by
  rw [ten_zpow_add, zpow_one, mul_comm]

theorem ten_zpow_mono {e f : ℤ} (le : e ≤ f) : (10 : ℚ) ^ e ≤ 10 ^ f :=
  zpow_le_zpow_right₀ (by norm_num) le

theorem abs_sub_mul {u : ℚ} (unit : 0 < u) (q m : ℚ) : |q - m * u| = |q / u - m| * u := by
  rw [← abs_of_pos unit, ← abs_mul, abs_of_pos unit, sub_mul, div_mul_cancel₀ q unit.ne']

theorem abs_sub_mul_lt_iff {u : ℚ} (unit : 0 < u) (q m part : ℚ) :
    |q - m * u| < u / part ↔ |q / u - m| < 1 / part := by
  rw [abs_sub_mul unit, div_eq_mul_one_div u part, mul_comm u, mul_lt_mul_iff_of_pos_right unit]

theorem exists_digitCount {n : Nat} (positive : 0 < n) :
    ∃ k, digitCount n = k + 1 ∧ 10 ^ k ≤ n ∧ n < 10 ^ (k + 1) := by
  have upper := lt_pow_digitCount n
  obtain ⟨k, count⟩ : ∃ k, digitCount n = k + 1 := by
    apply Nat.exists_eq_succ_of_ne_zero
    intro zero
    rw [zero, Nat.pow_zero] at upper
    omega
  rw [count] at upper
  refine ⟨k, count, Nat.le_of_not_lt fun less => ?_, upper⟩
  have short := digitCount_le less
  omega

section Quotient

variable {n d : Nat} (above : 0 < n) (below : 0 < d)
include above below

theorem leadingExponent_spec :
    (10 : ℚ) ^ leadingExponent n d ≤ n / d ∧ (n : ℚ) / d < 10 ^ (leadingExponent n d + 1) := by
  have divisor : (0 : ℚ) < d := by exact_mod_cast below
  rw [le_div_iff₀ divisor, div_lt_iff₀ divisor]
  unfold leadingExponent
  split
  · rename_i large
    have positive : 0 < n / d := Nat.div_pos large below
    obtain ⟨k, count, lower, upper⟩ := exists_digitCount positive
    rw [Nat.le_div_iff_mul_le below] at lower
    rw [Nat.div_lt_iff_lt_mul below] at upper
    rw [count]
    push_cast
    rw [add_sub_cancel_right]
    exact_mod_cast And.intro lower upper
  · rename_i small
    have positive : 0 < (d - 1) / n := Nat.div_pos (by omega) above
    obtain ⟨k, count, lower, upper⟩ := exists_digitCount positive
    rw [Nat.le_div_iff_mul_le above] at lower
    rw [Nat.div_lt_iff_lt_mul above] at upper
    have first : (d : ℚ) ≤ 10 ^ (k + 1) * n := by
      exact_mod_cast (by omega : d ≤ 10 ^ (k + 1) * n)
    have second : (10 : ℚ) ^ k * n < d := by
      exact_mod_cast (by omega : 10 ^ k * n < d)
    have exponent : -((k + 1 : Nat) : ℤ) + 1 = -(k : ℤ) := by omega
    rw [count, exponent, zpow_neg, zpow_neg, zpow_natCast, zpow_natCast,
      inv_mul_le_iff₀ (by positivity), lt_inv_mul_iff₀ (by positivity)]
    exact ⟨first, second⟩

theorem leadingExponent_eq {e : ℤ} (lower : (10 : ℚ) ^ e ≤ n / d)
    (upper : (n : ℚ) / d < 10 ^ (e + 1)) : leadingExponent n d = e := by
  obtain ⟨least, less⟩ := leadingExponent_spec above below
  have first := (zpow_lt_zpow_iff_right₀ (by norm_num)).mp (lower.trans_lt less)
  have second := (zpow_lt_zpow_iff_right₀ (by norm_num)).mp (least.trans_lt upper)
  omega

end Quotient

/-! The digits -/

theorem scaled_spec (n : Nat) {d : Nat} (below : 0 < d) (e : ℤ) :
    0 < (scaled n d e).2 ∧ ((scaled n d e).1 : ℚ) / (scaled n d e).2 = n / d / 10 ^ e := by
  have powers (k : Nat) : (0 : ℚ) < ((10 ^ k : Nat) : ℚ) := by positivity
  have up := powers e.toNat
  have down := powers (-e).toNat
  refine ⟨Nat.mul_pos below (Nat.pow_pos (by decide)), ?_⟩
  rw [ten_zpow_eq]
  unfold scaled
  push_cast at up down ⊢
  field_simp

theorem roundHalfEven_eq {n d k : Nat} (positive : 0 < d) (near : |(n : ℚ) / d - k| < 1 / 2) :
    roundHalfEven n d = k := by
  have divisor : (0 : ℚ) < d := by exact_mod_cast positive
  obtain ⟨lower, upper⟩ := abs_lt.mp near
  have least : (k : ℚ) - 1 / 2 < n / d := by linarith
  have less : (n : ℚ) / d < k + 1 / 2 := by linarith
  rw [lt_div_iff₀ divisor] at least
  rw [div_lt_iff₀ divisor] at less
  apply roundHalfEven_near positive
  · have scaled : (2 * n : ℚ) < 2 * (d * k) + d := by linarith
    exact_mod_cast scaled
  · have scaled : (2 * (d * k) : ℚ) < 2 * n + d := by linarith
    exact_mod_cast scaled

section Digits

variable {places n d : Nat}

theorem significant_of_leading {e : ℤ} {m : Nat} (leading : leadingExponent n d = e)
    (rounds : roundHalfEven (scaled n d (e - places)).1 (scaled n d (e - places)).2 = m) :
    significant (places + 1) n d =
      if m = 10 ^ (places + 1) then ⟨digits (10 ^ places), e + 1⟩ else ⟨digits m, e⟩ := by
  have place : leadingExponent n d - ((places + 1 : Nat) : ℤ) + 1 = e - places := by
    rw [leading]
    push_cast
    ring
  unfold significant
  dsimp only
  rw [place, rounds, leading, Nat.add_sub_cancel]

variable (above : 0 < n) (below : 0 < d)
include above below

/-- The quotient is rounded in units of its last place, perhaps up to the next power of ten. -/
theorem significant_cases (places : Nat) : ∃ m : Nat,
    IsNearestEven ((n : ℚ) / d / 10 ^ (leadingExponent n d - places)) m ∧ 10 ^ places ≤ m ∧
      (m = 10 ^ (places + 1) ∧
          significant (places + 1) n d = ⟨digits (10 ^ places), leadingExponent n d + 1⟩ ∨
        m < 10 ^ (places + 1) ∧
          significant (places + 1) n d = ⟨digits m, leadingExponent n d⟩) := by
  obtain ⟨least, less⟩ := leadingExponent_spec above below
  obtain ⟨positive, ratio⟩ := scaled_spec n below (leadingExponent n d - places)
  have nearest := isNearestEven_roundHalfEven (scaled n d (leadingExponent n d - places)).1 positive
  rw [significant_of_leading rfl rfl]
  rw [ratio] at nearest
  generalize leadingExponent n d = e at *
  generalize roundHalfEven _ _ = m at *
  have unit := ten_zpow_pos (e - places)
  rw [ten_zpow_places e places, ← le_div_iff₀ unit] at least
  rw [ten_zpow_succ, ten_zpow_places e places, ← mul_assoc, ← pow_succ', ← div_lt_iff₀ unit] at less
  have lower := nearest.ge_of_ge (k := 10 ^ places) (by exact_mod_cast least)
  have upper := nearest.le_of_le (k := 10 ^ (places + 1)) (by exact_mod_cast less.le)
  refine ⟨m, nearest, by exact_mod_cast lower, ?_⟩
  split
  · rename_i carried
    exact Or.inl ⟨carried, rfl⟩
  · rename_i short
    exact Or.inr ⟨lt_of_le_of_ne (by exact_mod_cast upper) short, rfl⟩

theorem exists_significant (places : Nat) : ∃ (m : Nat) (e : ℤ),
    significant (places + 1) n d = ⟨digits m, e⟩ ∧ 10 ^ places ≤ m ∧ m < 10 ^ (places + 1) ∧
      |(n : ℚ) / d - m * 10 ^ (e - places)| ≤ 10 ^ (e - places) / 2 := by
  obtain ⟨m, nearest, lower, cases⟩ := significant_cases above below places
  generalize leadingExponent n d = e at *
  have unit := ten_zpow_pos (e - places)
  have off : |(n : ℚ) / d - m * 10 ^ (e - places)| ≤ 10 ^ (e - places) / 2 := by
    have scaled := mul_le_mul_of_nonneg_right nearest.near unit.le
    rw [Int.cast_natCast, ← abs_sub_mul unit] at scaled
    linarith
  rcases cases with ⟨carried, same⟩ | ⟨short, same⟩
  · have tenth : ((10 ^ places : Nat) : ℚ) * (10 * 10 ^ (e - places)) = m * 10 ^ (e - places) := by
      rw [carried]
      push_cast
      ring
    refine ⟨10 ^ places, e + 1, same, le_rfl, Nat.pow_lt_pow_right (by decide) (by omega), ?_⟩
    rw [add_sub_right_comm, ten_zpow_succ, tenth]
    linarith
  · exact ⟨m, e, same, lower, short, off⟩

/-- The exponent stays below a power of ten up to half a unit of the last place before it. -/
theorem significant_exponent_le_iff (places : Nat) (e : ℤ) :
    (significant (places + 1) n d).exponent ≤ e ↔
      (n : ℚ) / d < (10 ^ (places + 1) - 1 / 2) * 10 ^ (e - places) := by
  obtain ⟨least, less⟩ := leadingExponent_spec above below
  obtain ⟨m, nearest, _, cases⟩ := significant_cases above below places
  generalize leadingExponent n d = leading at *
  have unit := ten_zpow_pos (e - places)
  have one : (1 : ℚ) ≤ 10 ^ places := one_le_pow₀ (by norm_num)
  have whole : (1 : ℚ) * 10 ^ (e - places) ≤ 10 ^ places * 10 ^ (e - places) :=
    mul_le_mul_of_nonneg_right one unit.le
  rcases lt_trichotomy leading e with small | rfl | large
  · have short : (significant (places + 1) n d).exponent ≤ e := by
      rcases cases with ⟨_, same⟩ | ⟨_, same⟩ <;> rw [same] <;> dsimp only <;> omega
    have under := less.trans_le (ten_zpow_mono (by omega : leading + 1 ≤ e))
    rw [ten_zpow_places e places] at under
    refine iff_of_true short ?_
    rw [sub_mul, pow_succ]
    linarith
  · have even : Even ((10 : ℤ) ^ (places + 1)) := ⟨5 * 10 ^ places, by ring⟩
    have fewer := nearest.lt_iff_of_even even
    push_cast at fewer
    rw [← div_lt_iff₀ unit, ← fewer]
    rcases cases with ⟨carried, same⟩ | ⟨short, same⟩
    · rw [same, carried, Nat.cast_pow]
      exact iff_of_false (by dsimp only; omega) (lt_irrefl _)
    · rw [same]
      exact iff_of_true le_rfl (by exact_mod_cast short)
  · have long : ¬ (significant (places + 1) n d).exponent ≤ e := by
      rcases cases with ⟨_, same⟩ | ⟨_, same⟩ <;> rw [same] <;> dsimp only <;> omega
    have reached := (ten_zpow_mono (by omega : e + 1 ≤ leading)).trans least
    rw [ten_zpow_succ, ten_zpow_places e places] at reached
    refine iff_of_false long ?_
    rw [sub_mul, pow_succ]
    linarith

/-- A quotient that reaches the first place of a number less than half a unit off. -/
theorem significant_of_reached {m : Nat} {e : ℤ} (reached : (10 : ℚ) ^ e ≤ n / d)
    (last : m < 10 ^ (places + 1)) (near : |(n : ℚ) / d / 10 ^ (e - places) - m| < 1 / 2) :
    significant (places + 1) n d = ⟨digits m, e⟩ := by
  have unit := ten_zpow_pos (e - places)
  have ceiling : ((m + 1 : Nat) : ℚ) ≤ ((10 ^ (places + 1) : Nat) : ℚ) := by exact_mod_cast last
  push_cast at ceiling
  rw [pow_succ] at ceiling
  have less : (n : ℚ) / d < 10 ^ (e + 1) := by
    rw [ten_zpow_succ, ten_zpow_places e places, ← mul_assoc, ← div_lt_iff₀ unit]
    linarith [(abs_lt.mp near).2]
  obtain ⟨positive, ratio⟩ := scaled_spec n below (e - places)
  rw [← ratio] at near
  rw [significant_of_leading (leadingExponent_eq above below reached less)
    (roundHalfEven_eq positive near), if_neg last.ne]

/-- A quotient just below a power of ten. The units below are a tenth of those above. -/
theorem significant_of_carried {e : ℤ} (under : (n : ℚ) / d < 10 ^ (e + 1))
    (near : |(n : ℚ) / d / 10 ^ (e + 1 - places) - 10 ^ places| < 1 / 20) :
    significant (places + 1) n d = ⟨digits (10 ^ places), e + 1⟩ := by
  have smaller := ten_zpow_pos (e - places)
  have one : (1 : ℚ) ≤ 10 ^ places := one_le_pow₀ (by norm_num)
  have tenfold : (n : ℚ) / d / 10 ^ (e - places) = 10 * (n / d / 10 ^ (e + 1 - places)) := by
    rw [add_sub_right_comm, ten_zpow_succ]
    field_simp
  obtain ⟨left, right⟩ := abs_lt.mp near
  have reached : (10 : ℚ) ^ e ≤ n / d := by
    rw [ten_zpow_places e places, ← le_div_iff₀ smaller, tenfold]
    linarith
  obtain ⟨positive, ratio⟩ := scaled_spec n below (e - places)
  have rounds : roundHalfEven (scaled n d (e - places)).1 (scaled n d (e - places)).2 =
      10 ^ (places + 1) := by
    apply roundHalfEven_eq positive
    rw [ratio, tenfold, abs_lt]
    push_cast
    rw [pow_succ]
    constructor <;> linarith
  rw [significant_of_leading (leadingExponent_eq above below reached under) rounds, if_pos rfl]

/-- A quotient has the digits of a number that is less than half a unit of the last place off, or
less than a twentieth if that number is a power of ten. -/
theorem significant_eq {m : Nat} {e : ℤ} (first : 10 ^ places ≤ m) (last : m < 10 ^ (places + 1))
    (near : |(n : ℚ) / d - m * 10 ^ (e - places)| < 10 ^ (e - places) / 2)
    (power : m = 10 ^ places →
      |(n : ℚ) / d - m * 10 ^ (e - places)| < 10 ^ (e - places) / 20) :
    significant (places + 1) n d = ⟨digits m, e⟩ := by
  have unit := ten_zpow_pos (e - places)
  rw [abs_sub_mul_lt_iff unit] at near power
  rcases le_or_gt ((10 : ℚ) ^ e) (n / d) with reached | under
  · exact significant_of_reached above below reached last near
  · have short : (m : ℚ) < (10 ^ places + 1 : Nat) := by
      rw [ten_zpow_places e places, ← div_lt_iff₀ unit] at under
      push_cast
      linarith [(abs_lt.mp near).1]
    have least : m < 10 ^ places + 1 := by exact_mod_cast short
    obtain rfl : m = 10 ^ places := by omega
    obtain ⟨f, rfl⟩ : ∃ f, e = f + 1 := ⟨e - 1, by omega⟩
    have close := power rfl
    rw [Nat.cast_pow, Nat.cast_ofNat] at close
    exact significant_of_carried above below under close

end Digits

end Decimal

end FeetInches
