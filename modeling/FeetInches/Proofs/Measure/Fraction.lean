import FeetInches.Proofs.Failing
import FeetInches.Proofs.Measure.Splitting

namespace FeetInches

open Binary64

/-! Thirty-seconds of an inch -/

/-- The units in a thirty-second of an inch. -/
@[irreducible] def thirtySecondUnits : Nat := 2 ^ (oneExponent - 5)

theorem thirtySecondUnits_eq : thirtySecondUnits = 2 ^ (oneExponent - 5) := by
  unfold thirtySecondUnits
  rfl

theorem thirtySecondUnits_pos : 0 < thirtySecondUnits := by
  rw [thirtySecondUnits_eq]
  exact Nat.two_pow_pos _

theorem oneUnits_eq_mul : oneUnits = 32 * thirtySecondUnits := by
  have split : oneExponent = 5 + (oneExponent - 5) := by
    rw [oneExponent_eq]
  rw [oneUnits_eq, thirtySecondUnits_eq]
  calc
    2 ^ oneExponent = 2 ^ (5 + (oneExponent - 5)) := by rw [← split]
    _ = 32 * 2 ^ (oneExponent - 5) := Nat.pow_add 2 5 _

theorem representable_thirtySeconds {t : Nat} (small : t < 2 ^ 53) :
    Representable (t * thirtySecondUnits) := by
  refine ⟨t, oneExponent - 5, small, ?_, by rw [thirtySecondUnits_eq]⟩
  rw [oneExponent_eq]
  decide

theorem exists_half_thirtySecond :
    ∃ half, thirtySecondUnits = 2 * half ∧ Representable half := by
  have split : oneExponent - 5 = 1 + (oneExponent - 6) := by
    rw [oneExponent_eq]
  refine ⟨2 ^ (oneExponent - 6), ?_, 1, oneExponent - 6, by decide, ?_, by rw [Nat.one_mul]⟩
  · rw [thirtySecondUnits_eq, split, Nat.pow_add]
  · rw [oneExponent_eq]
    decide

/-! One denominator -/

theorem exists_thirtySeconds {d : Nat} (known : d ∈ [2, 4, 8, 16, 32]) :
    ∃ c, c * d = 32 ∧ 0 < c ∧ 0 < d ∧ ∃ j ≤ 5, d = 2 ^ j := by
  simp only [List.mem_cons, List.not_mem_nil, or_false] at known
  rcases known with rfl | rfl | rfl | rfl | rfl
  · exact ⟨16, by decide, by decide, by decide, 1, by decide, rfl⟩
  · exact ⟨8, by decide, by decide, by decide, 2, by decide, rfl⟩
  · exact ⟨4, by decide, by decide, by decide, 3, by decide, rfl⟩
  · exact ⟨2, by decide, by decide, by decide, 4, by decide, rfl⟩
  · exact ⟨1, by decide, by decide, by decide, 5, by decide, rfl⟩

theorem exists_keyDenominator {denominator : Int} (member : denominator ∈ keyDenominators) :
    ∃ d : Nat, d ∈ [2, 4, 8, 16, 32] ∧ denominator = d := by
  simp only [keyDenominators, List.mem_cons, List.not_mem_nil, or_false] at member
  rcases member with two | four | eight | sixteen | thirtyTwo
  · exact ⟨2, by decide, two⟩
  · exact ⟨4, by decide, four⟩
  · exact ⟨8, by decide, eight⟩
  · exact ⟨16, by decide, sixteen⟩
  · exact ⟨32, by decide, thirtyTwo⟩

theorem counts_quotient {n c d : Nat} (divides : c * d = 32) (positive : 0 < d) (le : n ≤ d) :
    ∃ z, quotient? n d = .ok z ∧ Counts z (n * c * thirtySecondUnits : Nat) := by
  have small : n * c < 2 ^ 53 := by
    have scaled : n * c ≤ d * c := Nat.mul_le_mul_right c le
    rw [Nat.mul_comm d, divides] at scaled
    omega
  have representable := representable_thirtySeconds small
  have whole : n * oneUnits = d * (n * c * thirtySecondUnits) := by
    rw [oneUnits_eq_mul, ← divides]
    simp only [Nat.mul_comm, Nat.mul_left_comm]
  have exact : rounded (n * oneUnits) d = n * c * thirtySecondUnits := by
    rw [whole]
    exact rounded_exact representable positive
  have made := quotient?_eq_ok (n := n) positive (by rw [exact]; exact representable.le_greatest)
  rwa [exact] at made

section Part

variable {part : Binary64} {p : Nat} (counts : Counts part p) (below : p ≤ oneUnits)
include counts below

theorem representable_scaled {j : Nat} (small : j ≤ 5) : Representable (p * 2 ^ j) := by
  obtain ⟨mantissa, exponent, short, _, whole⟩ := counts.representable
  rw [Int.natAbs_natCast] at whole
  subst whole
  rcases Nat.eq_zero_or_pos mantissa with rfl | positive
  · exact ⟨0, 0, by decide, by decide, by simp⟩
  · have low : exponent ≤ oneExponent := by
      rw [oneUnits_eq] at below
      have power : 2 ^ exponent ≤ mantissa * 2 ^ exponent := Nat.le_mul_of_pos_left _ positive
      exact (Nat.pow_le_pow_iff_right (by decide)).mp (Nat.le_trans power below)
    rw [oneExponent_eq] at low
    exact ⟨mantissa, exponent + j, short, by omega, by rw [Nat.pow_add, Nat.mul_assoc]⟩

theorem nearestInt?_scaled {c d : Nat} (divides : c * d = 32) (positive : 0 < d)
    (power : ∃ j ≤ 5, d = 2 ^ j) :
    (part.mul (.ofNat d)).nearestInt? = .ok (roundHalfEven p (c * thirtySecondUnits) : Nat) := by
  obtain ⟨j, small, power⟩ := power
  have representable := representable_scaled counts below small
  rw [← power] at representable
  have bounded : d < 2 ^ 53 := by
    have le : d ≤ 2 ^ 5 := by
      rw [power]
      exact Nat.pow_le_pow_right (by decide) small
    omega
  have exact : rounded (p * (d * oneUnits)) oneUnits = p * d := by
    rw [← Nat.mul_assoc, Nat.mul_comm]
    exact rounded_exact representable oneUnits_pos
  have product := counts.mul (counts_ofNat bounded)
    (by rw [exact]; exact representable.le_greatest)
  rw [exact] at product
  have same : roundHalfEven (p * d) oneUnits = roundHalfEven p (c * thirtySecondUnits) := by
    rw [oneUnits_eq_mul, ← divides, Nat.mul_comm p, Nat.mul_comm c, Nat.mul_assoc,
      roundHalfEven_mul_left positive]
  rw [product.nearestInt?, Int.natAbs_natCast, same,
    decide_eq_false (Int.not_lt.mpr (Int.natCast_nonneg _))]
  rfl

/-- Where a fraction comes close enough, the part is rounded to it. -/
theorem roundHalfEven_of_close {quotient : Binary64} {n : Nat} (small : n ≤ 32)
    (shown : Counts quotient (n * thirtySecondUnits : Nat))
    (close : (quotient.sub part).abs.lt fractionTolerance = true) :
    roundHalfEven p thirtySecondUnits = n := by
  obtain ⟨half, split, held⟩ := exists_half_thirtySecond
  have inch : oneUnits = 64 * half := by
    rw [oneUnits_eq_mul, split, ← Nat.mul_assoc]
  have exact : rounded oneUnits 64 = half := by
    rw [inch]
    exact rounded_exact held (by decide)
  have tolerance : Counts fractionTolerance half := by
    have counts : Counts fractionTolerance (rounded oneUnits 64) :=
      counts_nearest_nat (by decide) (Or.inr rfl) (by rw [exact]; exact held.le_greatest)
    rwa [exact] at counts
  have bound : n * thirtySecondUnits ≤ oneUnits := by
    rw [oneUnits_eq_mul]
    exact Nat.mul_le_mul_right _ small
  have inRange : oneUnits ≤ greatestUnits := by
    have whole := (representable_whole (n := 1) (by decide)).le_greatest
    rwa [Nat.one_mul] at whole
  have near := shown.sub_near counts tolerance (by omega) close
  apply roundHalfEven_near thirtySecondUnits_pos
  · rw [Nat.mul_comm thirtySecondUnits, split] at *
    omega
  · rw [Nat.mul_comm thirtySecondUnits, split] at *
    omega

end Part

/-! The search -/

def ShowsPart (fraction : Int × Int) (count : Nat) : Prop :=
  ∃ n d : Nat, fraction = ((n : Int), (d : Int)) ∧ d ∈ [1, 2, 4, 8, 16, 32] ∧ n ≤ d ∧
    32 * n = count * d

theorem shows_tidyFraction {n c d : Nat} (known : d ∈ [2, 4, 8, 16, 32]) (le : n ≤ d)
    (divides : c * d = 32) : ShowsPart (tidyFraction n d) (n * c) := by
  unfold tidyFraction
  split
  · rename_i zero
    have empty : n = 0 := Int.ofNat.inj zero
    refine ⟨0, 1, rfl, by decide, by decide, ?_⟩
    rw [empty, Nat.zero_mul, Nat.zero_mul]
  · refine ⟨n, d, rfl, List.mem_cons_of_mem 1 known, le, ?_⟩
    rw [Nat.mul_assoc, divides, Nat.mul_comm]

theorem numerator_le {p c d : Nat} (below : p ≤ oneUnits) (divides : c * d = 32)
    (positive : 0 < c) :
    roundHalfEven p (c * thirtySecondUnits) ≤ d := by
  have units : p ≤ c * thirtySecondUnits * d := by
    rw [oneUnits_eq_mul, ← divides] at below
    rwa [Nat.mul_assoc, Nat.mul_comm thirtySecondUnits, ← Nat.mul_assoc]
  have mono := roundHalfEven_mono (d := c * thirtySecondUnits) units
  rwa [roundHalfEven_exact (Nat.mul_pos positive thirtySecondUnits_pos)] at mono

section Search

variable {part : Binary64} {p : Nat} (counts : Counts part p) (below : p ≤ oneUnits)
include counts below

theorem shows_thirtySeconds :
    ∃ fraction, thirtySeconds? part = .ok fraction ∧
      ShowsPart fraction (roundHalfEven p thirtySecondUnits) := by
  have numerator := nearestInt?_scaled counts below (c := 1) (d := 32) rfl (by decide)
    ⟨5, by decide, rfl⟩
  have le := numerator_le below (c := 1) (d := 32) rfl (by decide)
  have shows := shows_tidyFraction (c := 1) (d := 32) (by decide) le rfl
  rw [Nat.one_mul] at numerator shows
  rw [Nat.mul_one] at shows
  refine ⟨_, ?_, shows⟩
  rw [thirtySeconds?, numerator]
  rfl

theorem shows_firstFraction (denominators : List Nat)
    (known : ∀ d ∈ denominators, d ∈ [2, 4, 8, 16, 32]) :
    ∃ fraction, firstFraction? 32 part denominators = .ok fraction ∧
      ShowsPart fraction (roundHalfEven p thirtySecondUnits) := by
  induction denominators with
  | nil => exact shows_thirtySeconds counts below
  | cons d rest later =>
      have member := known d (by simp)
      obtain ⟨c, divides, positiveC, positive, power⟩ := exists_thirtySeconds member
      have le := numerator_le below divides positiveC
      have numerator := nearestInt?_scaled counts below divides positive power
      obtain ⟨quotient, made, shown⟩ := counts_quotient divides positive le
      have limit : ¬ ((32 : Int) < d) := by
        have : c * d ≥ 1 * d := Nat.mul_le_mul_right d positiveC
        omega
      rw [firstFraction?, if_neg limit]
      by_cases close : (quotient.sub part).abs.lt fractionTolerance = true
      · refine ⟨_, bind_eq_ok.mpr ⟨_, numerator, bind_eq_ok.mpr ⟨_, made, if_pos close⟩⟩, ?_⟩
        have small : roundHalfEven p (c * thirtySecondUnits) * c ≤ 32 := by
          rw [← divides, Nat.mul_comm c d]
          exact Nat.mul_le_mul_right c le
        rw [roundHalfEven_of_close counts below small shown close]
        exact shows_tidyFraction member le divides
      · obtain ⟨fraction, found, shows⟩ :=
          later fun other inside => known other (List.mem_cons_of_mem d inside)
        refine ⟨fraction, bind_eq_ok.mpr ⟨_, numerator, bind_eq_ok.mpr ⟨_, made, ?_⟩⟩, shows⟩
        exact (if_neg close).trans found

/-- The common fraction of a part of an inch is the part rounded to thirty-seconds. -/
theorem shows_commonFraction :
    ∃ fraction, commonFraction? 32 part = .ok fraction ∧
      ShowsPart fraction (roundHalfEven p thirtySecondUnits) := by
  unfold commonFraction?
  split
  · rename_i zero
    rw [counts.isZero, decide_eq_true_eq] at zero
    have empty : p = 0 := Int.ofNat.inj zero
    refine ⟨_, rfl, 0, 1, rfl, by decide, by decide, ?_⟩
    have exact := roundHalfEven_exact thirtySecondUnits_pos 0
    rw [Nat.mul_zero] at exact
    rw [empty, exact]
  · exact shows_firstFraction counts below _ fun _ member => member

end Search

end FeetInches
