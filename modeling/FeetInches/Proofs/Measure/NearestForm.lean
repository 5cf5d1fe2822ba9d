import FeetInches.Proofs.Binary64.Value
import FeetInches.Proofs.Measure.Decomposition
import Mathlib.Tactic.FieldSimp

namespace FeetInches

open Binary64

def OfSign (n : ℤ) (q : ℚ) : Prop := (0 < n → 0 < q) ∧ (n < 0 → q < 0)

/-- Less than twelve inches and a proper fraction; feet and inches have the sign of the total. -/
structure Length.Canonical (l : Length) : Prop where
  inches_le : |l.inches| ≤ 11
  feet_sign : OfSign l.feet l.total.value
  inches_sign : OfSign l.inches l.total.value
  numerator_nonneg : 0 ≤ l.numerator
  numerator_lt : l.numerator < l.denominator

theorem Amount.finite?_eq_ok {amount : Amount} {x : Binary64} (read : amount.toReal? = .ok x)
    (finite : x.isFinite) : amount.finite? = .ok x := by
  rw [Amount.finite?, read]
  exact if_pos finite

theorem Length.ofAmount?_real {total : Binary64} (finite : total.isFinite) :
    ofAmount? (.real total) = (ofTotal? total).mapError fun fault => .fault (.range fault) := by
  rw [ofAmount?, Amount.finite?_eq_ok rfl finite]
  change (liftM (ofTotal? total) : Except Failure Length) = _
  cases ofTotal? total <;> rfl

theorem Length.ofAmount?_eq_ok {total : Binary64} {length : Length} (finite : total.isFinite)
    (formed : ofTotal? total = .ok length) : ofAmount? (.real total) = .ok length := by
  rw [ofAmount?_real finite, formed]
  rfl

namespace Length

theorem ofSign_of_signed {n : ℤ} {q : ℚ} (below : q < 0 → n ≤ 0) (above : 0 ≤ q → 0 ≤ n)
    (zero : q = 0 → n = 0) : OfSign n q := by
  rcases lt_trichotomy q 0 with negative | none | positive
  · exact ⟨fun more => absurd (below negative) more.not_ge, fun _ => negative⟩
  · have nothing := zero none
    exact ⟨by omega, by omega⟩
  · exact ⟨fun _ => positive, fun less => absurd (above positive.le) less.not_ge⟩

namespace Shows

variable {l : Length} {count : Nat}

theorem shown (shows : l.Shows count) :
    12 * |(l.feet : ℚ)| + |(l.inches : ℚ)| + l.numerator / l.denominator = count / 32 := by
  have positive : (0 : ℚ) < l.denominator := by
    exact_mod_cast Int.lt_of_le_of_lt shows.numerator_nonneg shows.numerator_lt
  have counted : 32 * (12 * |(l.feet : ℚ)| + |(l.inches : ℚ)|) * l.denominator +
      32 * l.numerator = count * l.denominator := by
    have value := shows.value
    simp only [← Int.abs_eq_natAbs] at value
    exact_mod_cast value
  field_simp
  linarith

theorem eq_zero (shows : l.Shows 0) : l.feet = 0 ∧ l.inches = 0 := by
  have shown := shows.shown
  have part : (0 : ℚ) ≤ l.numerator / l.denominator := by
    have numerator := shows.numerator_nonneg
    have denominator := Int.le_of_lt (Int.lt_of_le_of_lt numerator shows.numerator_lt)
    exact div_nonneg (by exact_mod_cast numerator) (by exact_mod_cast denominator)
  have feet := abs_nonneg (l.feet : ℚ)
  have inches := abs_nonneg (l.inches : ℚ)
  rw [Nat.cast_zero, zero_div] at shown
  have noFeet : |(l.feet : ℚ)| = 0 := by linarith
  have noInches : |(l.inches : ℚ)| = 0 := by linarith
  exact ⟨by exact_mod_cast abs_eq_zero.mp noFeet, by exact_mod_cast abs_eq_zero.mp noInches⟩

theorem canonical (shows : l.Shows count) (known : l.total.isFinite)
    (zero : l.total.value = 0 → count = 0) : l.Canonical := by
  have still (nothing : l.total.value = 0) : l.feet = 0 ∧ l.inches = 0 := by
    rw [zero nothing] at shows
    exact shows.eq_zero
  have below (negative : l.total.value < 0) : l.feet ≤ 0 ∧ l.inches ≤ 0 := by
    have signs := shows.signs
    rwa [if_pos ((lt_zero_iff known).mpr negative)] at signs
  have above (nonnegative : 0 ≤ l.total.value) : 0 ≤ l.feet ∧ 0 ≤ l.inches := by
    have signs := shows.signs
    rwa [if_neg ((lt_zero_iff known).not.mpr nonnegative.not_gt)] at signs
  have short := shows.inches_lt
  exact ⟨by rw [Int.abs_eq_natAbs]; omega,
    ofSign_of_signed (fun q => (below q).1) (fun q => (above q).1) fun q => (still q).1,
    ofSign_of_signed (fun q => (below q).2) (fun q => (above q).2) fun q => (still q).2,
    shows.numerator_nonneg, shows.numerator_lt⟩

end Shows

theorem thirtySeconds_eq {t : Binary64} (known : t.isFinite) :
    (t.units.natAbs : ℚ) / thirtySecondUnits = 32 * |t.value| := by
  have step : (thirtySecondUnits : ℚ) ≠ 0 := by
    exact_mod_cast Nat.ne_of_gt thirtySecondUnits_pos
  rw [(Counts.of_isFinite known).abs_value, oneUnits_eq_mul]
  push_cast
  field_simp

theorem canonical_ofTotal? {t : Binary64} (known : t.isFinite)
    (small : t.units.natAbs ≤ 2 ^ 53 * oneUnits) :
    ∃ l, ofTotal? t = .ok l ∧ l.total = t ∧
      l.Shows (roundHalfEven t.units.natAbs thirtySecondUnits) ∧ l.Canonical := by
  have counts := Counts.of_isFinite known
  obtain ⟨l, formed, same, shows⟩ := shows_ofTotal? counts small
  refine ⟨l, formed, same, shows, shows.canonical (by rwa [same]) ?_⟩
  rw [same]
  intro nothing
  have zero : t.units.natAbs = 0 := by
    have le := (counts.abs_value_le_iff 0).mp (by rw [nothing, abs_zero, Nat.cast_zero])
    omega
  rw [zero]
  exact roundHalfEven_exact thirtySecondUnits_pos 0

/-- The form of a total of at most `2 ^ 53` inches is canonical and shows the thirty-second of an
inch that is nearest to the total, the even one of two that are as near. -/
theorem nearest_ofAmount? {t : Binary64} (known : t.isFinite) (small : |t.value| ≤ 2 ^ 53) :
    ∃ (l : Length) (count : ℤ), ofAmount? (.real t) = .ok l ∧ l.total = t ∧
      IsNearestEven (32 * |t.value|) count ∧
      12 * |(l.feet : ℚ)| + |(l.inches : ℚ)| + l.numerator / l.denominator = count / 32 ∧
      l.denominator ∈ ([1, 2, 4, 8, 16, 32] : List Int) ∧ l.Canonical := by
  have range : t.units.natAbs ≤ 2 ^ 53 * oneUnits := by
    apply ((Counts.of_isFinite known).abs_value_le_iff (2 ^ 53)).mp
    exact_mod_cast small
  obtain ⟨l, formed, same, shows, canonical⟩ := canonical_ofTotal? known range
  have nearest := isNearestEven_roundHalfEven t.units.natAbs thirtySecondUnits_pos
  rw [thirtySeconds_eq known] at nearest
  refine ⟨l, _, ofAmount?_eq_ok known formed, same, nearest, ?_, shows.denominator_mem, canonical⟩
  rw [shows.shown, Int.cast_natCast]

/-- Half way between two thirty-seconds, `-11 63/64in` is shown as a whole foot. -/
theorem nearest_to_foot : ∃ (t : Binary64) (l : Length), t.value = -(767 / 64) ∧
    ofAmount? (.real t) = .ok l ∧
    12 * |(l.feet : ℚ)| + |(l.inches : ℚ)| + l.numerator / l.denominator = 12 := by
  let t : Binary64 := .finite true (767 * 2 ^ 43) 1025 (by decide)
  have value : t.value = -(767 / 64) := by
    rw [t.value_eq_of_units (n := -767) (d := 64) (by decide) (by decide +kernel)]
    norm_num
  have small : |t.value| ≤ 2 ^ 53 := by
    rw [value]
    norm_num
  obtain ⟨l, count, formed, _, nearest, shown, _⟩ := nearest_ofAmount? (t := t) rfl small
  obtain ⟨near, even⟩ := nearest
  have magnitude : 32 * |t.value| = 767 / 2 := by
    rw [value]
    norm_num
  rw [magnitude] at near even
  have whole : count = 383 ∨ count = 384 := by
    have lower : (382 : ℚ) < count := by linarith [(abs_le.mp near).2]
    have upper : (count : ℚ) < 385 := by linarith [(abs_le.mp near).1]
    have above : 382 < count := by exact_mod_cast lower
    have below : count < 385 := by exact_mod_cast upper
    omega
  refine ⟨t, l, value, formed, ?_⟩
  rcases whole with rfl | rfl
  · exact absurd (even (by norm_num [abs_of_pos])) (by decide)
  · rw [shown]
    norm_num

end Length

end FeetInches
