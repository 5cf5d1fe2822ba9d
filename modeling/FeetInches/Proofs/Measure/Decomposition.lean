import FeetInches.Proofs.Measure.Fraction

namespace FeetInches

open Binary64

/-- The form is canonical, has the sign of its total, and shows `count` thirty-seconds. -/
structure Length.Shows (l : Length) (count : Nat) : Prop where
  signs : if l.total.lt (.zero false) then l.feet ≤ 0 ∧ l.inches ≤ 0 else 0 ≤ l.feet ∧ 0 ≤ l.inches
  inches_lt : l.inches.natAbs < 12
  numerator_nonneg : 0 ≤ l.numerator
  numerator_lt : l.numerator < l.denominator
  denominator_mem : l.denominator ∈ ([1, 2, 4, 8, 16, 32] : List Int)
  value : 32 * (12 * (l.feet.natAbs : Int) + l.inches.natAbs) * l.denominator + 32 * l.numerator =
    count * l.denominator

/-! Whole feet and whole inches -/

/-- Whole feet, whole inches and the fraction of the part that is left, as exact numbers. -/
theorem ofTotal?_eq_carried {total : Binary64} {u : Int} (counts : Counts total u)
    (small : u.natAbs ≤ 2 ^ 53 * oneUnits) :
    ∃ (fraction : Int × Int) (feet inches part : Nat),
      Length.ofTotal? total = .ok (.carried total feet inches fraction) ∧
      inches < 12 ∧ part < oneUnits ∧ u.natAbs = (12 * feet + inches) * oneUnits + part ∧
      ShowsPart fraction (roundHalfEven part thirtySecondUnits) := by
  have foot : 0 < 12 * oneUnits := Nat.mul_pos (by decide) oneUnits_pos
  obtain ⟨feet, whole, madeWhole, remaining⟩ :=
    split_exact counts small (s := 12) (k := 3) (by decide) (by decide) (by decide)
  have splitFeet := Nat.div_add_mod u.natAbs (12 * oneUnits)
  have short := Nat.mod_lt u.natAbs foot
  generalize u.natAbs / (12 * oneUnits) = f at feet splitFeet madeWhole
  generalize u.natAbs % (12 * oneUnits) = r at splitFeet short remaining
  have splitInches := Nat.div_add_mod r oneUnits
  have below := Nat.mod_lt r oneUnits_pos
  have few : r / oneUnits < 12 := Nat.div_lt_of_lt_mul (by rwa [Nat.mul_comm])
  obtain ⟨wholeInches, madeInches, part⟩ := sub_whole remaining (k := 1) (by decide) (by decide)
    (by rw [Nat.one_mul, Nat.mul_one]; omega)
  rw [Nat.one_mul, Nat.mul_one] at madeInches
  rw [Nat.one_mul] at part
  obtain ⟨fraction, found, shows⟩ := shows_commonFraction part (Nat.le_of_lt below)
  have inches := remaining.floor?
  rw [← Int.natCast_ediv] at inches
  refine ⟨fraction, f, r / oneUnits, r % oneUnits, ?_, few, below, ?_, shows⟩
  · exact bind_eq_ok.mpr ⟨_, feet, bind_eq_ok.mpr ⟨_, madeWhole, bind_eq_ok.mpr ⟨_, inches,
      bind_eq_ok.mpr ⟨_, madeInches, bind_eq_ok.mpr ⟨_, found, rfl⟩⟩⟩⟩⟩
  · linarith

/-! What is carried over -/

theorem shows_signed (total : Binary64) {sign : Int}
    (known : sign = if total.lt (.zero false) then -1 else 1) (feet inches : Nat) {n d count : Nat}
    (short : inches < 12) (proper : n < d) (member : d ∈ [1, 2, 4, 8, 16, 32])
    (value : 32 * (12 * feet + inches) * d + 32 * n = count * d) :
    (Length.mk total (sign * feet) (sign * inches) n d).Shows count := by
  have unit : sign.natAbs = 1 := by
    rw [known]
    split <;> rfl
  have feetAbs : (sign * feet).natAbs = feet := by
    rw [Int.natAbs_mul, unit, Nat.one_mul, Int.natAbs_natCast]
  have inchesAbs : (sign * inches).natAbs = inches := by
    rw [Int.natAbs_mul, unit, Nat.one_mul, Int.natAbs_natCast]
  constructor
  · rw [known]
    dsimp only
    split <;> constructor <;> omega
  · rwa [inchesAbs]
  · exact Int.natCast_nonneg n
  · exact Int.ofNat_lt.mpr proper
  · exact List.mem_map_of_mem (f := Nat.cast) member
  · rw [feetAbs, inchesAbs]
    dsimp only
    exact_mod_cast value

theorem shows_carried_proper (total : Binary64) (feet inches : Nat) {n d count : Nat}
    (short : inches ≤ 12) (proper : n < d) (member : d ∈ [1, 2, 4, 8, 16, 32])
    (value : 32 * (12 * feet + inches) * d + 32 * n = count * d) :
    (Length.carried total feet inches (n, d)).Shows count := by
  have notFull : ¬ ((n : Int) ≠ 0 ∧ (n : Int) = d) := by omega
  unfold Length.carried
  simp only [if_neg notFull]
  by_cases twelve : (12 : Int) ≤ inches
  · have last : inches = 12 := by omega
    subst last
    simp only [if_pos twelve]
    exact shows_signed total rfl (feet + 1) 0 (by decide) proper member value
  · simp only [if_neg twelve]
    exact shows_signed total rfl feet inches (by omega) proper member value

theorem carried_full (total : Binary64) (feet inches : Int) {n : Int} (nonzero : n ≠ 0) :
    Length.carried total feet inches (n, n) = .carried total feet (inches + 1) (0, 1) := by
  unfold Length.carried
  simp [nonzero]

theorem shows_carried (total : Binary64) (feet inches : Nat) {count : Nat} {fraction : Int × Int}
    (below : inches < 12) (shows : ShowsPart fraction count) :
    (Length.carried total feet inches fraction).Shows (32 * (12 * feet + inches) + count) := by
  obtain ⟨n, d, rfl, member, le, value⟩ := shows
  rcases Nat.eq_or_lt_of_le le with rfl | proper
  · have positive : 0 < n := by
      apply Nat.pos_of_ne_zero
      rintro rfl
      simp at member
    have inch : 32 = count := Nat.eq_of_mul_eq_mul_right positive value
    rw [carried_full total _ _ (by omega)]
    exact shows_carried_proper total feet (inches + 1) (n := 0) (d := 1) below (by decide)
      (by decide) (by omega)
  · apply shows_carried_proper total feet inches (Nat.le_of_lt below) proper member
    rw [Nat.add_mul, value]

/-- The form of a total shows the total rounded to thirty-seconds of an inch. -/
theorem Length.shows_ofTotal? {total : Binary64} {u : Int} (counts : Counts total u)
    (small : u.natAbs ≤ 2 ^ 53 * oneUnits) :
    ∃ length, ofTotal? total = .ok length ∧ length.total = total ∧
      length.Shows (roundHalfEven u.natAbs thirtySecondUnits) := by
  obtain ⟨fraction, feet, inches, part, formed, below, _, split, shows⟩ :=
    ofTotal?_eq_carried counts small
  refine ⟨_, formed, rfl, ?_⟩
  have parts : u.natAbs = thirtySecondUnits * (2 * (16 * (12 * feet + inches))) + part := by
    rw [split, oneUnits_eq_mul]
    linarith
  rw [parts, roundHalfEven_add_even thirtySecondUnits_pos]
  have whole := shows_carried total feet inches below shows
  have same : 2 * (16 * (12 * feet + inches)) = 32 * (12 * feet + inches) := by omega
  rwa [same]

end FeetInches
