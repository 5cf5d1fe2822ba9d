import FeetInches.Proofs.Expression.Display
import FeetInches.Proofs.Numeral.Readable

namespace FeetInches

open Binary64 Decimal Text Numeral

/-! Sizes -/

theorem digitCount_le {n k : Nat} (less : n < 10 ^ k) : digitCount n ≤ k := by
  unfold digitCount
  split
  · exact Nat.zero_le k
  · rename_i nonzero
    have positive : 0 < k := by
      apply Nat.pos_of_ne_zero
      rintro rfl
      rw [Nat.pow_zero] at less
      omega
    have short := (digits_length_le positive).mpr less
    rwa [digits, List.length_reverse] at short

theorem lt_pow_digitCount (n : Nat) : n < 10 ^ digitCount n := by
  unfold digitCount
  split
  · rename_i zero
    rw [zero]
    decide
  · have filled : 0 < (lowDigits n).length := List.length_pos_iff.mpr (lowDigits_ne_nil n)
    apply (digits_length_le filled).mp
    rw [digits, List.length_reverse]

theorem ofDecimal_eq_nearest {digits : Nat} {exponent : Int} (negative : Bool) (positive : 0 < digits)
    (low : -330 ≤ digitCount digits + exponent) (high : digitCount digits + exponent ≤ 310) :
    ofDecimal negative digits exponent =
      nearest negative (digits * 10 ^ exponent.toNat * oneUnits) (10 ^ (-exponent).toNat) := by
  unfold ofDecimal
  dsimp only
  rw [if_neg (by omega), if_neg (by omega)]

theorem isFinite_ofDecimal {digits : Nat} {exponent : Int} (negative : Bool)
    (order : digitCount digits + exponent ≤ 310)
    (range : rounded (digits * 10 ^ exponent.toNat * oneUnits) (10 ^ (-exponent).toNat) ≤
      greatestUnits) :
    (ofDecimal negative digits exponent).isFinite := by
  unfold ofDecimal
  dsimp only
  split
  · cases negative <;> rfl
  · rw [if_neg (by omega)]
    exact (nearest_units negative (Nat.pow_pos (by decide)) range).1

theorem Numeral.Spelling.isFinite_value {s : Spelling} (small : s.order ≤ 300) :
    s.value.isFinite := by
  have short := digitCount_le (ofDigits_lt (s.whole ++ s.places))
  rw [List.length_append] at short
  unfold order at small
  unfold value
  generalize ofDigits (s.whole ++ s.places) = n at short ⊢
  generalize same : s.exponent - s.places.length = exponent
  have low : digitCount n + exponent ≤ 300 := by omega
  apply isFinite_ofDecimal _ (by omega)
  have positive : 0 < 10 ^ (-exponent).toNat := Nat.pow_pos (by decide)
  have top : 10 ^ 300 * oneUnits < greatestUnits := by decide +kernel
  have power : n * 10 ^ exponent.toNat ≤ 10 ^ (-exponent).toNat * 10 ^ 300 := by
    calc
      n * 10 ^ exponent.toNat ≤ 10 ^ digitCount n * 10 ^ exponent.toNat :=
        Nat.mul_le_mul_right _ (Nat.le_of_lt (lt_pow_digitCount n))
      _ = 10 ^ (digitCount n + exponent.toNat) := (Nat.pow_add ..).symm
      _ ≤ 10 ^ ((-exponent).toNat + 300) := Nat.pow_le_pow_right (by decide) (by omega)
      _ = 10 ^ (-exponent).toNat * 10 ^ 300 := Nat.pow_add ..
  apply rounded_in_range positive
  calc
    2 * (n * 10 ^ exponent.toNat * oneUnits)
      ≤ 2 * (10 ^ (-exponent).toNat * 10 ^ 300 * oneUnits) :=
        Nat.mul_le_mul_left 2 (Nat.mul_le_mul_right _ power)
    _ = 10 ^ (-exponent).toNat * (2 * (10 ^ 300 * oneUnits)) := by
        rw [Nat.mul_assoc, Nat.mul_left_comm]
    _ < 10 ^ (-exponent).toNat * (2 * greatestUnits + topStep) :=
        Nat.mul_lt_mul_of_pos_left (by omega) positive

/-! Whole numbers -/

theorem counts_ofInt {n : Int} (held : Representable (n.natAbs * oneUnits)) :
    Counts (Spelling.ofInt n).value (n * oneUnits) := by
  have value : (Spelling.ofInt n).value = ofDecimal (n < 0) n.natAbs 0 := by
    simp [Spelling.value, Spelling.ofInt, Spelling.places, Spelling.exponent, ofDigits_digits]
  rcases Nat.eq_zero_or_pos n.natAbs with zero | positive
  · obtain rfl := Int.natAbs_eq_zero.mp zero
    rw [value, Int.zero_mul]
    exact counts_zero _
  · have exact : rounded (n.natAbs * 10 ^ (0 : Int).toNat * oneUnits) (10 ^ (-0 : Int).toNat) =
        n.natAbs * oneUnits := by
      have same := rounded_exact held Nat.one_pos
      simpa using same
    have less : n.natAbs < 10 ^ 310 := by
      apply Nat.lt_of_mul_lt_mul_right (a := oneUnits)
      have top : greatestUnits < 10 ^ 310 * oneUnits := by decide +kernel
      exact Nat.lt_of_le_of_lt held.le_greatest top
    have short := digitCount_le less
    have counts := counts_nearest (n < 0) (Nat.pow_pos (by decide)) (exact ▸ held.le_greatest)
    rw [exact, signedUnits_mul, signedUnits_natAbs] at counts
    rwa [value, ofDecimal_eq_nearest _ positive (by omega) (by omega)]

theorem counts_wholeText {x : Binary64} (known : x.isFinite) :
    Counts (Spelling.ofInt (x.units / oneUnits)).value (x.units / oneUnits * oneUnits) := by
  apply counts_ofInt
  rw [← natAbs_whole]
  exact (Counts.of_isFinite known).representable_floor

/-! Other numbers -/

theorem lt_of_not_isWhole {x : Binary64} (known : x.isFinite) (part : x.isWhole = false) :
    x.magnitude < 2 ^ 52 * oneUnits := by
  apply Nat.lt_of_not_le
  intro large
  have whole := (Counts.of_isFinite known).representable.oneUnits_dvd large
  have even : x.units % (oneUnits : Int) = 0 :=
    Int.emod_eq_zero_of_dvd (Int.ofNat_dvd_left.mpr whole)
  rw [isWhole, known, even] at part
  cases part

theorem significant_exponent_le {n d k : Nat} (count : Nat) (positive : 0 < k)
    (less : n / d < 10 ^ k) : (significant count n d).exponent ≤ k := by
  have short := digitCount_le less
  have leading : leadingExponent n d + 1 ≤ k := by
    unfold leadingExponent
    split <;> omega
  unfold significant
  dsimp only
  split <;> dsimp only <;> omega

theorem exists_readReal_text {x : Binary64} (known : x.isFinite) :
    ∃ y, readReal x.text = .ok y ∧ y.isFinite := by
  unfold Binary64.text
  split
  · refine ⟨_, ?_, (counts_wholeText known).1⟩
    rw [← Spelling.readReal_chars (Spelling.proper_ofInt _), ← toList_intText]
    rfl
  · rename_i part
    have proper := proper_laidOut ⟨-4, 10, false⟩ (fun n => significant_ne_nil 10 n oneUnits) x
    have low := order_laidOut ⟨-4, 10, false⟩ (fun n => significant 10 n oneUnits) x
    have small : x.magnitude / oneUnits < 10 ^ 16 := by
      have less := lt_of_not_isWhole known (by simpa using part)
      rw [Nat.div_lt_iff_lt_mul oneUnits_pos]
      omega
    have exponent := significant_exponent_le 10 (by decide) small
    refine ⟨_, ?_, Spelling.isFinite_value (Int.le_trans low (by omega))⟩
    rw [← Spelling.readReal_chars proper, ← toList_laidOut _ known]
    rfl

end FeetInches
