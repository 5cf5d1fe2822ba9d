import FeetInches.Proofs.Measure.NearestForm
import FeetInches.Proofs.Measure.Range
/-!
Which forms are canonical. Past `2 ^ 53` a total is a whole number of inches, but its quotient by
twelve and the inches that its whole feet make are both rounded, so what is left may be negative,
or be more than a foot; the form carries over one foot at most. It is canonical where the whole
feet make no more inches than the total has, and less than two feet fewer. Below `12 * 2 ^ 52` they
always do.
-/

namespace FeetInches

open Binary64

/-! Whole numbers of inches -/

theorem dvd_rounded_whole (n : Nat) : oneUnits ∣ rounded (n * oneUnits) 1 := by
  unfold rounded
  rw [Nat.one_mul]
  generalize binade (n * oneUnits) 1 = b
  rw [oneUnits_eq]
  by_cases low : b ≤ oneExponent
  · obtain ⟨more, split⟩ := Nat.exists_eq_add_of_le low
    have whole : n * 2 ^ oneExponent = 2 ^ b * (n * 2 ^ more) := by
      rw [split, Nat.pow_add, Nat.mul_left_comm]
    rw [whole, roundHalfEven_exact (Nat.two_pow_pos b), Nat.mul_comm, ← whole]
    exact Nat.dvd_mul_left _ n
  · exact Nat.dvd_mul_left_of_dvd (Nat.pow_dvd_pow 2 (Nat.le_of_not_le low)) _

theorem exists_rounded_whole (n : Nat) :
    ∃ m, rounded (n * oneUnits) 1 = m * oneUnits ∧ (n < 24 ∧ m = n ∨ 24 ≤ n ∧ 24 ≤ m) := by
  rcases Nat.lt_or_ge n 24 with few | many
  · have exact := rounded_exact (representable_whole (n := n) (by omega)) Nat.one_pos
    rw [Nat.one_mul] at exact
    exact ⟨n, exact, Or.inl ⟨few, rfl⟩⟩
  · obtain ⟨m, whole⟩ := dvd_rounded_whole n
    rw [Nat.mul_comm oneUnits] at whole
    refine ⟨m, whole, Or.inr ⟨many, ?_⟩⟩
    have lower : 24 * oneUnits ≤ rounded (n * oneUnits) 1 := by
      apply le_rounded (representable_whole (by decide)) Nat.one_pos
      rw [Nat.one_mul]
      exact Nat.mul_le_mul_right oneUnits many
    rw [whole] at lower
    exact Nat.le_of_mul_le_mul_right lower oneUnits_pos

/-- A whole number that is rounded is found between zero and two feet only where it lies there. -/
theorem signed_rounded_whole (n : Int) {r : Int}
    (same : r = signedUnits (decide (n * oneUnits < 0)) (rounded (n * oneUnits).natAbs 1)) :
    (oneUnits : Int) ∣ r ∧ (0 ≤ r / oneUnits ∧ r / oneUnits < 24 ↔ 0 ≤ n ∧ n < 24) := by
  have inch : (0 : Int) < oneUnits := by exact_mod_cast oneUnits_pos
  obtain ⟨m, whole, near⟩ := exists_rounded_whole n.natAbs
  rw [natAbs_whole, whole] at same
  have sign : n * oneUnits < 0 ↔ n < 0 := by
    rw [mul_neg_iff]
    omega
  have signed : r = (if n < 0 then -(m : Int) else m) * oneUnits := by
    rw [same, signedUnits]
    simp only [sign, decide_eq_true_eq]
    split <;> push_cast <;> ring
  rw [signed, Int.mul_ediv_cancel _ inch.ne']
  refine ⟨dvd_mul_left _ _, ?_⟩
  split <;> omega

/-! The inches that whole feet make -/

/-- Below `12 * 2 ^ 52` inches the whole feet are exact. -/
theorem rounded_twelfth {a : Nat} (held : Representable a) (small : a < 12 * 2 ^ 52 * oneUnits) :
    rounded (a * oneUnits) (12 * oneUnits) / oneUnits = a / (12 * oneUnits) := by
  have inch := oneUnits_pos
  apply rounded_quotient held (k := 3) (by decide) (by decide)
  · omega
  · intro b scale
    have low : b < oneExponent := by
      have power : 2 ^ (b + 52) < 2 ^ (52 + oneExponent) := by
        rw [Nat.pow_add 2 52, ← oneUnits_eq]
        omega
      have less := (Nat.pow_lt_pow_iff_right (by decide)).mp power
      omega
    have divides : 2 ^ (b + 3) ∣ 2 ^ (oneExponent + 2) := Nat.pow_dvd_pow 2 (by omega)
    have bigUnit : 12 * oneUnits = 3 * 2 ^ (oneExponent + 2) := by
      rw [Nat.pow_add, ← oneUnits_eq]
      omega
    rw [bigUnit]
    exact Nat.dvd_mul_left_of_dvd divides 3

theorem near_product {a : Nat} (held : Representable a) (small : a < 12 * 2 ^ 52 * oneUnits) :
    rounded (rounded (a * oneUnits) (12 * oneUnits) / oneUnits * 12 * oneUnits) 1 ≤ a ∧
      a < rounded (rounded (a * oneUnits) (12 * oneUnits) / oneUnits * 12 * oneUnits) 1 +
        24 * oneUnits := by
  have inch := oneUnits_pos
  have whole := Nat.div_add_mod a (12 * oneUnits)
  have rest := Nat.mod_lt a (y := 12 * oneUnits) (by omega)
  have product : a / (12 * oneUnits) * 12 * oneUnits = 12 * oneUnits * (a / (12 * oneUnits)) := by
    rw [Nat.mul_assoc, Nat.mul_comm]
  rw [rounded_twelfth held small, product]
  generalize 12 * oneUnits * (a / (12 * oneUnits)) = formed at whole ⊢
  have short : formed < 1 * 2 ^ (oneExponent + 4 + 52) := by
    have power : 2 ^ (oneExponent + 4 + 52) = 2 ^ 56 * oneUnits := by
      rw [oneUnits_eq, ← Nat.pow_add, Nat.add_assoc, Nat.add_comm]
    rw [power]
    omega
  have step : 2 ^ binade formed 1 < 2 ^ (oneExponent + 4) :=
    Nat.pow_lt_pow_right (by decide) (binade_lt short (Nat.succ_pos _))
  rw [Nat.pow_add, ← oneUnits_eq] at step
  have lower := rounded_lower formed Nat.one_pos
  exact ⟨rounded_le held Nat.one_pos (by omega), by omega⟩

/-! Forms without a fraction -/

theorem value_ne_zero_of_large {x : Binary64} (known : x.isFinite)
    (large : 2 ^ 53 * oneUnits < x.units.natAbs) : x.value ≠ 0 := by
  intro nothing
  have zero := ((Counts.of_isFinite known).abs_value_le_iff 0).mp
    (by rw [nothing, abs_zero, Nat.cast_zero])
  omega

section Carried

variable {x : Binary64} (known : x.isFinite) (some : x.value ≠ 0)
include known some

theorem ofSign_signed_iff (n : ℤ) :
    OfSign ((if x.lt (.zero false) then -1 else 1) * n) x.value ↔ 0 ≤ n := by
  rw [OfSign]
  rcases lt_or_gt_of_ne some with negative | positive
  · rw [if_pos ((lt_zero_iff known).mpr negative)]
    have not := negative.not_gt
    constructor
    · intro ofSign
      by_contra less
      exact not (ofSign.1 (by omega))
    · exact fun nonnegative => ⟨fun more => by omega, fun _ => negative⟩
  · rw [if_neg ((lt_zero_iff known).not.mpr positive.not_gt)]
    have not := positive.not_gt
    constructor
    · intro ofSign
      by_contra less
      exact not (ofSign.2 (by omega))
    · exact fun nonnegative => ⟨fun _ => positive, fun less => by omega⟩

theorem canonical_signed_iff (feet : Nat) (inches : Int) {d : Nat} (positive : 0 < d) :
    (Length.mk x ((if x.lt (.zero false) then -1 else 1) * feet)
      ((if x.lt (.zero false) then -1 else 1) * inches) 0 d).Canonical ↔
      0 ≤ inches ∧ inches ≤ 11 := by
  have unit : |(if x.lt (.zero false) then -1 else 1 : Int)| = 1 := by split <;> rfl
  constructor
  · intro canonical
    have sign := (ofSign_signed_iff known some inches).mp canonical.inches_sign
    have short := canonical.inches_le
    rw [abs_mul, unit, one_mul, abs_of_nonneg sign] at short
    exact ⟨sign, short⟩
  · rintro ⟨sign, short⟩
    refine ⟨?_, (ofSign_signed_iff known some feet).mpr (Int.natCast_nonneg feet),
      (ofSign_signed_iff known some inches).mpr sign, le_refl 0, Int.ofNat_lt.mpr positive⟩
    rwa [abs_mul, unit, one_mul, abs_of_nonneg sign]

/-- One foot is carried over, so the inches may be less than two feet. -/
theorem canonical_carried_iff (feet : Nat) (inches : Int) {fraction : Int × Int}
    (shows : ShowsPart fraction 0) :
    (Length.carried x feet inches fraction).Canonical ↔ 0 ≤ inches ∧ inches < 24 := by
  obtain ⟨n, d, rfl, member, le, value⟩ := shows
  have nothing : n = 0 := by omega
  subst nothing
  have positive : 0 < d := by
    apply Nat.pos_of_ne_zero
    rintro rfl
    simp at member
  have notFull : ¬ (((0 : Nat) : Int) ≠ 0 ∧ ((0 : Nat) : Int) = d) := by omega
  unfold Length.carried
  simp only [if_neg notFull]
  by_cases foot : 12 ≤ inches
  · simp only [if_pos foot]
    have iff := canonical_signed_iff known some (feet + 1) (inches - 12) positive
    rw [Int.natCast_zero, ← Nat.cast_succ, iff]
    omega
  · simp only [if_neg foot]
    have iff := canonical_signed_iff known some feet inches positive
    rw [Int.natCast_zero, iff]
    omega

end Carried

/-! Forms of finite totals -/

namespace Length.Steps

variable {x : Binary64} {feet : Nat} {whole : Binary64} {rest : Int} {fraction : Int × Int}
  {count : Nat}

theorem near (steps : Steps x feet whole rest fraction count) (known : x.isFinite)
    (small : x.units.natAbs < 12 * 2 ^ 52 * oneUnits) :
    rounded (feet * 12 * oneUnits) 1 ≤ x.units.natAbs ∧
      x.units.natAbs < rounded (feet * 12 * oneUnits) 1 + 24 * oneUnits := by
  rw [steps.feet_eq]
  exact near_product (Counts.of_isFinite known).representable small

theorem canonical_of_le (steps : Steps x feet whole rest fraction count) (known : x.isFinite)
    (small : x.units.natAbs ≤ 2 ^ 53 * oneUnits) :
    (carried x feet (rest / oneUnits) fraction).Canonical := by
  obtain ⟨l, formed, _, _, canonical⟩ := canonical_ofTotal? known small
  rw [steps.formed] at formed
  cases formed
  exact canonical

theorem canonical_iff_of_large (steps : Steps x feet whole rest fraction count)
    (known : x.isFinite) (large : 2 ^ 53 * oneUnits < x.units.natAbs) :
    (carried x feet (rest / oneUnits) fraction).Canonical ↔
      rounded (feet * 12 * oneUnits) 1 ≤ x.units.natAbs ∧
        x.units.natAbs < rounded (feet * 12 * oneUnits) 1 + 24 * oneUnits := by
  have inch := oneUnits_pos
  have total := Counts.of_isFinite known
  have nonzero := value_ne_zero_of_large known large
  obtain ⟨a, inches⟩ := total.representable.oneUnits_dvd (by omega)
  obtain ⟨v, formed⟩ := dvd_rounded_whole (feet * 12)
  have left := total.abs.sub_rounded steps.product (total.abs.natAbs_sub_le steps.product)
  have same := steps.remaining.unique left
  have difference : (x.units.natAbs : Int) - rounded (feet * 12 * oneUnits) 1 =
      ((a : Int) - v) * oneUnits := by
    rw [formed, inches]
    push_cast
    ring
  rw [difference] at same
  obtain ⟨divides, near⟩ := signed_rounded_whole _ same
  have shows := steps.shows
  rw [steps.none_of_whole divides] at shows
  rw [canonical_carried_iff known nonzero feet _ shows, near, formed, inches, Nat.mul_comm 24,
    ← Nat.mul_add, Nat.mul_le_mul_left_iff inch, Nat.mul_lt_mul_left inch]
  omega

theorem near_iff (steps : Steps x feet whole rest fraction count) (known : x.isFinite) :
    (whole.value ≤ |x.value| ∧ |x.value| < whole.value + 24) ↔
      rounded (feet * 12 * oneUnits) 1 ≤ x.units.natAbs ∧
        x.units.natAbs < rounded (feet * 12 * oneUnits) 1 + 24 * oneUnits := by
  have inch := cast_oneUnits_pos
  have feetMore : whole.value + 24 =
      ((rounded (feet * 12 * oneUnits) 1 + 24 * oneUnits : Nat) : ℚ) / oneUnits := by
    rw [steps.product.value_eq]
    push_cast
    field_simp
  rw [feetMore, steps.product.value_eq, (Counts.of_isFinite known).abs_value,
    div_le_div_iff_of_pos_right inch, div_lt_div_iff_of_pos_right inch, Int.cast_natCast,
    Nat.cast_le, Nat.cast_lt]

/-- A form is canonical where the inches that its whole feet make come near enough to the total. -/
theorem canonical_iff (steps : Steps x feet whole rest fraction count) (known : x.isFinite) :
    (carried x feet (rest / oneUnits) fraction).Canonical ↔
      whole.value ≤ |x.value| ∧ |x.value| < whole.value + 24 := by
  rw [steps.near_iff known]
  rcases Nat.lt_or_ge (2 ^ 53 * oneUnits) x.units.natAbs with large | small
  · exact steps.canonical_iff_of_large known large
  · have near := steps.near known (by have inch := oneUnits_pos; omega)
    exact iff_of_true (steps.canonical_of_le known small) near

theorem ofSign_feet (steps : Steps x feet whole rest fraction count) (known : x.isFinite) :
    OfSign (carried x feet (rest / oneUnits) fraction).feet x.value := by
  rcases Nat.lt_or_ge (2 ^ 53 * oneUnits) x.units.natAbs with large | small
  · have nonzero := value_ne_zero_of_large known large
    unfold carried
    dsimp only
    rw [ofSign_signed_iff known nonzero]
    split <;> split <;> omega
  · exact (steps.canonical_of_le known small).feet_sign

end Length.Steps

/-- The greatest total has no form. Every other finite total has one, with a proper fraction and
with feet of its sign; it is canonical where the whole feet make no more inches than the total has,
and less than two feet fewer. Below `12 * 2 ^ 52` inches that is always so. -/
theorem Length.canonical_iff_near {t : Binary64} (known : t.isFinite) :
    (t.abs = greatest ∧ ofAmount? (.real t) = .error (.fault (.range .integerTooLarge))) ∨
      t.abs ≠ greatest ∧ ∃ (l : Length) (feet : Int) (whole : Binary64),
        ofAmount? (.real t) = .ok l ∧ l.total = t ∧
        0 ≤ l.numerator ∧ l.numerator < l.denominator ∧ OfSign l.feet t.value ∧
        (t.abs.div (.ofNat 12)).floor? = .ok feet ∧ ofInt? (feet * 12) = .ok whole ∧
        (l.Canonical ↔ whole.value ≤ |t.value| ∧ |t.value| < whole.value + 24) ∧
        (|t.value| < 12 * 2 ^ 52 → l.Canonical) := by
  by_cases top : t.abs = greatest
  · refine Or.inl ⟨top, ?_⟩
    rw [ofAmount?_real known, ofTotal?_greatest top]
    rfl
  · refine Or.inr ⟨top, ?_⟩
    obtain ⟨feet, whole, rest, fraction, count, steps⟩ := exists_steps known top
    obtain ⟨nonnegative, proper⟩ := carried_proper t feet (rest / oneUnits) steps.shows
    refine ⟨_, feet, whole, ofAmount?_eq_ok known steps.formed, rfl, nonnegative, proper,
      steps.ofSign_feet known, steps.floor, steps.made, steps.canonical_iff known, ?_⟩
    intro below
    rw [steps.canonical_iff known, steps.near_iff known]
    apply steps.near known
    apply ((Counts.of_isFinite known).abs_value_lt_iff (12 * 2 ^ 52)).mp
    exact_mod_cast below

/-- The last total below `12 * 2 ^ 52` inches: `4503599627370495ft 4in`. -/
theorem canonical_below_bound : ∃ (t : Binary64) (l : Length), t.value = 12 * 2 ^ 52 - 8 ∧
    Length.ofAmount? (.real t) = .ok l ∧ l.Canonical := by
  let t : Binary64 := .finite false (12 * 2 ^ 49 - 1) 1077 (by decide)
  have value : t.value = 12 * 2 ^ 52 - 8 := by
    rw [t.value_eq_of_units (n := 12 * 2 ^ 52 - 8) Nat.one_pos (by decide +kernel)]
    norm_num
  rcases Length.canonical_iff_near (t := t) rfl with
    ⟨top, _⟩ | ⟨_, l, _, _, formed, _, _, _, _, _, _, _, below⟩
  · exact absurd top (by decide)
  · refine ⟨t, l, value, formed, below ?_⟩
    rw [value]
    norm_num [abs_of_pos]

/-- `12 * 2 ^ 52 + 8` inches are `4503599627370496ft 8in`. The rounded quotient makes a foot more of
them, which leaves minus eight inches. -/
theorem foot_too_many : ∃ (t : Binary64) (l : Length), t.value = 12 * 2 ^ 52 + 8 ∧
    Length.ofAmount? (.real t) = .ok l ∧
    l.feet = 4503599627370497 ∧ l.inches = -8 ∧ ¬ l.Canonical := by
  let t : Binary64 := .finite false (12 * 2 ^ 49 + 1) 1077 (by decide)
  have value : t.value = 12 * 2 ^ 52 + 8 := by
    rw [t.value_eq_of_units (n := 12 * 2 ^ 52 + 8) Nat.one_pos (by decide +kernel)]
    norm_num
  have formed : Length.ofAmount? (.real t) = .ok ⟨t, 4503599627370497, -8, 0, 1⟩ := by
    decide +kernel
  refine ⟨t, _, value, formed, rfl, rfl, ?_⟩
  intro canonical
  have negative := canonical.inches_sign.2 (by decide)
  have positive : 0 < t.value := by
    rw [value]
    norm_num
  exact negative.not_gt positive

end FeetInches
