import FeetInches.Proofs.Expression.Display
import FeetInches.Proofs.Measure.Decomposition
/-!
Forms at the end of the range. A total is split into big units and a rest by a rounded quotient,
and the product of the two is formed again as a whole number. For every finite total but the
greatest that product can be held; for the greatest it is half a step too large.
-/

namespace FeetInches

open Binary64

def Binary64.greatest : Binary64 := .finite false (2 ^ 53 - 1) 2045 (by decide)

variable {x : Binary64}

theorem units_of_not_greatest (known : x.isFinite) (other : x.abs ≠ greatest) :
    x.units.natAbs + topStep ≤ greatestUnits := by
  obtain ⟨negative, mantissa, exponent, canonical, rfl⟩ := exists_of_isFinite known
  obtain ⟨short, _, high⟩ := id canonical
  rw [units_finite, natAbs_signedUnits, greatestUnits]
  rcases Nat.eq_or_lt_of_le high with rfl | lower
  · have less : mantissa < 2 ^ 53 - 1 := by
      apply Nat.lt_of_le_of_ne (Nat.le_sub_one_of_lt short)
      rintro rfl
      exact other rfl
    have top : 2 ^ 2045 = topStep := by
      rw [topStep, topExponent_eq]
    rw [top, ← Nat.succ_mul]
    exact Nat.mul_le_mul_right topStep less
  · have power : 2 * 2 ^ exponent ≤ topStep := by
      rw [Nat.mul_comm, ← Nat.pow_succ]
      exact two_pow_le_topStep lower
    have scaled : mantissa * 2 ^ exponent ≤ (2 ^ 53 - 1) * 2 ^ exponent :=
      Nat.mul_le_mul_right _ (Nat.le_sub_one_of_lt short)
    omega

/-! Big units -/

/-- The count of big units comes from a rounded quotient, but not so far above the total that the
product leaves the range. -/
theorem product_in_range {a s : Nat} (below : a + topStep ≤ greatestUnits) (positive : 0 < s)
    (small : s ≤ 2 ^ 11) :
    2 * (rounded (a * oneUnits) (s * oneUnits) / oneUnits * s * oneUnits) < 2 * greatestUnits := by
  have inch := oneUnits_pos
  have upper := rounded_upper (a * oneUnits) (s * oneUnits)
  have scale := binade_le (a * oneUnits) (s * oneUnits)
  have whole := Nat.div_mul_le_self (rounded (a * oneUnits) (s * oneUnits)) oneUnits
  generalize rounded (a * oneUnits) (s * oneUnits) = quotient at upper whole ⊢
  generalize binade (a * oneUnits) (s * oneUnits) = b at upper scale
  have product : 2 * (quotient / oneUnits * s * oneUnits) ≤ 2 * a + s * 2 ^ b := by
    have scaled := Nat.mul_le_mul_left s whole
    have cancelled : 2 * (s * quotient) ≤ 2 * a + s * 2 ^ b := by
      apply Nat.le_of_mul_le_mul_left _ inch
      linarith
    linarith
  have step : s * 2 ^ b < 2 * topStep := by
    rcases scale with rfl | scale
    · have top : 2 ^ 11 ≤ topStep := two_pow_le_topStep (by decide)
      omega
    · have le : s * 2 ^ b * 2 ^ 52 ≤ a := by
        apply Nat.le_of_mul_le_mul_left _ inch
        rw [Nat.pow_add] at scale
        linarith
      have top := topStep_pos
      unfold greatestUnits at below
      omega
  omega

/-- The whole big units in a total, and the number nearest to the small ones that they make. -/
theorem exists_split (known : x.isFinite) (other : x.abs ≠ greatest) {s : Nat} (positive : 0 < s)
    (small : s ≤ 2 ^ 11) :
    ∃ (big : Nat) (whole : Binary64),
      big = rounded (x.units.natAbs * oneUnits) (s * oneUnits) / oneUnits ∧
      (x.abs.div (.ofNat s)).floor? = .ok (big : Int) ∧
      ofInt? ((big : Int) * s) = .ok whole ∧ Counts whole (rounded (big * s * oneUnits) 1) ∧
      big * oneUnits ≤ greatestUnits := by
  have counts := Counts.of_isFinite known
  have below := units_of_not_greatest known other
  have floor := floor?_quotient counts positive (Nat.lt_of_le_of_lt small (by decide))
  have range := rounded_quotient_le counts.representable positive
  have product := product_in_range below positive small
  have whole := Nat.div_mul_le_self (rounded (x.units.natAbs * oneUnits) (s * oneUnits)) oneUnits
  generalize rounded (x.units.natAbs * oneUnits) (s * oneUnits) / oneUnits = big
    at floor product whole
  have magnitude : (((big : Int) * s) * oneUnits).natAbs = big * s * oneUnits := by
    rw [natAbs_whole, Int.natAbs_mul, Int.natAbs_natCast, Int.natAbs_natCast]
  have held : rounded (((big : Int) * s) * oneUnits).natAbs 1 ≤ greatestUnits := by
    rw [magnitude]
    apply rounded_in_range Nat.one_pos
    have step := topStep_pos
    omega
  obtain ⟨z, made, formed⟩ := ofInt?_eq_ok (counts_ofUnits held false)
  have nonnegative : decide (((big : Int) * s) * oneUnits < 0) = false := by
    apply decide_eq_false
    apply Int.not_lt.mpr
    exact_mod_cast Nat.zero_le _
  rw [nonnegative, magnitude] at formed
  exact ⟨big, z, rfl, floor, made, formed, Nat.le_trans whole range⟩

/-! Counts that can be written -/

theorem written_of_units {n : Nat} {m : Int} (range : n * oneUnits ≤ greatestUnits)
    (near : m.natAbs ≤ n + 64) : Written m := by
  have digits : oneExponent ≤ 53 + topExponent ∧
      53 + topExponent - oneExponent + 7 ≤ maxNumeralDigits := by
    rw [oneExponent_eq, topExponent_eq]
    decide
  generalize same : 53 + topExponent - oneExponent = k at digits
  have less : n < 2 ^ k := by
    apply Nat.lt_of_mul_lt_mul_right (a := oneUnits)
    have power : 2 ^ k * oneUnits = 2 ^ 53 * topStep := by
      rw [oneUnits_eq, topStep, ← Nat.pow_add, ← Nat.pow_add, ← same]
      congr 1
      omega
    have step := topStep_pos
    unfold greatestUnits at range
    omega
  have positive := Nat.two_pow_pos k
  rw [written_iff]
  calc
    m.natAbs < 2 ^ (k + 7) := by
      rw [Nat.pow_add]
      omega
    _ ≤ 2 ^ maxNumeralDigits := Nat.pow_le_pow_right (by decide) digits.2
    _ ≤ 10 ^ maxNumeralDigits := Nat.pow_le_pow_left (by decide) _

theorem fractionText?_ok {n d : Nat} (member : d ∈ [1, 2, 4, 8, 16, 32]) (le : n ≤ d) :
    ∃ text, fractionText? n d = .ok text := by
  have shown : ∀ d ∈ [1, 2, 4, 8, 16, 32], ∀ n ∈ List.range (d + 1),
      (fractionText? (n : Nat) (d : Nat)).isOk := by decide +kernel
  have ok := shown d member n (List.mem_range.mpr (Nat.lt_succ_of_le le))
  cases written : fractionText? n d with
  | error fault => rw [written] at ok; cases ok
  | ok text => exact ⟨text, rfl⟩

theorem countText?_ok {n : Int} (written : Written n) : ∃ text, countText? n = .ok text := by
  have writes := countText_writes n
  cases shown : countText? n with
  | error fault =>
      rw [shown] at writes
      exact absurd written writes.2
  | ok text => exact ⟨text, rfl⟩

theorem Length.text?_ok {l : Length} (feet : Written l.feet.natAbs)
    (inches : Written l.inches.natAbs)
    (fraction : ∃ text, fractionText? l.numerator l.denominator = .ok text) :
    ∃ text, l.text? = .ok text := by
  obtain ⟨feetText, feetShown⟩ := countText?_ok feet
  obtain ⟨inchesText, inchesShown⟩ := countText?_ok inches
  obtain ⟨fractionText, fractionShown⟩ := fraction
  have form : ∃ text, feetInchesText? l.feet.natAbs l.inches.natAbs l.numerator l.denominator =
      .ok text :=
    ⟨_, bind_eq_ok.mpr ⟨feetText, feetShown, bind_eq_ok.mpr ⟨inchesText, inchesShown,
      bind_eq_ok.mpr ⟨fractionText, fractionShown, rfl⟩⟩⟩⟩
  obtain ⟨text, shown⟩ := form
  exact ⟨_, bind_eq_ok.mpr ⟨text, shown, rfl⟩⟩

/-! Forms of finite totals -/

theorem carried_near (total : Binary64) (feet inches : Int) {fraction : Int × Int} {count : Nat}
    (shows : ShowsPart fraction count) :
    let l := Length.carried total feet inches fraction
    l.feet.natAbs ≤ feet.natAbs + 64 ∧ l.inches.natAbs ≤ inches.natAbs + 64 ∧
      ∃ text, fractionText? l.numerator l.denominator = .ok text := by
  obtain ⟨n, d, rfl, member, le, _⟩ := shows
  have unit : (if total.lt (.zero false) then -1 else 1 : Int).natAbs = 1 := by
    split <;> rfl
  intro l
  refine ⟨?_, ?_, ?_⟩
  · simp only [l, Length.carried, Int.natAbs_mul, unit, Nat.one_mul]
    split <;> split <;> simp only <;> omega
  · simp only [l, Length.carried, Int.natAbs_mul, unit, Nat.one_mul]
    split <;> split <;> simp only <;> omega
  · simp only [l, Length.carried]
    split
    · exact ⟨none, rfl⟩
    · exact fractionText?_ok member le

theorem carried_proper (total : Binary64) (feet inches : Int) {fraction : Int × Int} {count : Nat}
    (shows : ShowsPart fraction count) :
    let l := Length.carried total feet inches fraction
    0 ≤ l.numerator ∧ l.numerator < l.denominator := by
  obtain ⟨n, d, rfl, member, le, _⟩ := shows
  have positive : 0 < d := by
    apply Nat.pos_of_ne_zero
    rintro rfl
    simp at member
  intro l
  simp only [l, Length.carried]
  split <;> simp only <;> omega

/-- The steps from a total to its form: the whole feet, the inches that they are formed into, the
units that are left, and a fraction of `count` thirty-seconds. -/
structure Length.Steps (x : Binary64) (feet : Nat) (whole : Binary64) (rest : Int)
    (fraction : Int × Int) (count : Nat) : Prop where
  feet_eq : feet = rounded (x.units.natAbs * oneUnits) (12 * oneUnits) / oneUnits
  floor : (x.abs.div (.ofNat 12)).floor? = .ok (feet : Int)
  made : ofInt? ((feet : Int) * 12) = .ok whole
  product : Counts whole (rounded (feet * 12 * oneUnits) 1)
  remaining : Counts (x.abs.sub whole) rest
  shows : ShowsPart fraction count
  none_of_whole : (oneUnits : Int) ∣ rest → count = 0
  formed : ofTotal? x = .ok (carried x feet (rest / oneUnits) fraction)
  range : feet * oneUnits ≤ greatestUnits

theorem Length.exists_steps (known : x.isFinite) (other : x.abs ≠ greatest) :
    ∃ feet whole rest fraction count, Steps x feet whole rest fraction count := by
  obtain ⟨feet, whole, quotient, floor, made, product, range⟩ :=
    exists_split known other (s := 12) (by decide) (by decide)
  have total := (Counts.of_isFinite known).abs
  obtain ⟨r, remaining, small, _⟩ :=
    total.sub_bounded product representable_greatest (total.natAbs_sub_le product)
  obtain ⟨wholeInches, madeInches, inchesCounts⟩ := ofInt?_exact remaining.representable_floor
  have positive : (0 : Int) < oneUnits := Int.natCast_pos.mpr oneUnits_pos
  have rest : r - r / oneUnits * oneUnits = r % oneUnits := by
    rw [Int.emod_def, Int.mul_comm]
  have lower := Int.emod_nonneg r (Int.ne_of_gt positive)
  have upper := Int.emod_lt_of_pos r positive
  have unit : Representable oneUnits := by
    have one := representable_whole (n := 1) (by decide)
    rwa [Nat.one_mul] at one
  obtain ⟨p, part, short, nonnegative⟩ :=
    remaining.sub_bounded inchesCounts unit (by rw [rest]; omega)
  obtain ⟨m, rfl⟩ := Int.eq_ofNat_of_zero_le (nonnegative (by rw [rest]; exact lower))
  obtain ⟨fraction, found, shows⟩ := shows_commonFraction part short
  have even (divides : (oneUnits : Int) ∣ r) : roundHalfEven m thirtySecondUnits = 0 := by
    have nothing := remaining.sub inchesCounts
      (by rw [rest, Int.emod_eq_zero_of_dvd divides]; exact ⟨0, 0, by decide, by decide, rfl⟩)
    rw [rest, Int.emod_eq_zero_of_dvd divides] at nothing
    have zero : m = 0 := Int.ofNat.inj (part.unique nothing)
    rw [zero]
    exact roundHalfEven_exact thirtySecondUnits_pos 0
  have formed : ofTotal? x = .ok (carried x feet (r / oneUnits) fraction) :=
    bind_eq_ok.mpr ⟨_, floor, bind_eq_ok.mpr ⟨_, made, bind_eq_ok.mpr ⟨_, remaining.floor?,
      bind_eq_ok.mpr ⟨_, madeInches, bind_eq_ok.mpr ⟨_, found, rfl⟩⟩⟩⟩⟩
  exact ⟨feet, whole, r, fraction, _, quotient, floor, made, product, remaining, shows, even,
    formed, range⟩

theorem Length.exists_ofTotal? (known : x.isFinite) (other : x.abs ≠ greatest) :
    ∃ length, ofTotal? x = .ok length ∧ ∃ text, length.text? = .ok text := by
  obtain ⟨feet, whole, r, fraction, count, steps⟩ := exists_steps known other
  obtain ⟨feetNear, inchesNear, fractionShown⟩ := carried_near x feet (r / oneUnits) steps.shows
  refine ⟨_, steps.formed, text?_ok (written_of_units steps.range feetNear) ?_ fractionShown⟩
  have held := steps.remaining.representable_floor.le_greatest
  rw [natAbs_whole] at held
  exact written_of_units held inchesNear

theorem BigUnit.exists_extent? (u : BigUnit) (positive : 0 < u.size) (small : u.size ≤ 2 ^ 11)
    (known : x.isFinite) (other : x.abs ≠ greatest) : ∃ text, u.extent? x = .ok ⟨x, text⟩ := by
  obtain ⟨big, whole, _, floor, made, _⟩ := exists_split known other positive small
  have text : ∃ text, u.text? (.real x) = .ok text :=
    ⟨_, bind_eq_ok.mpr ⟨_, floor, bind_eq_ok.mpr ⟨_, made, rfl⟩⟩⟩
  obtain ⟨text, shown⟩ := text
  exact ⟨_, bind_eq_ok.mpr ⟨text, shown, rfl⟩⟩

theorem finite_of_abs_greatest (top : x.abs = greatest) :
    x = .finite false (2 ^ 53 - 1) 2045 (by decide) ∨
      x = .finite true (2 ^ 53 - 1) 2045 (by decide) := by
  cases x with
  | nan => cases top
  | infinite negative => cases top
  | finite negative mantissa exponent canonical =>
      cases top
      cases negative
      · exact Or.inl rfl
      · exact Or.inr rfl

/-- The greatest total has no form: its whole feet make more inches than can be held. -/
theorem Length.ofTotal?_greatest (top : x.abs = greatest) :
    ofTotal? x = .error .integerTooLarge := by
  rcases finite_of_abs_greatest top with rfl | rfl <;> decide +kernel

theorem squareFoot_greatest (top : x.abs = greatest) :
    squareFoot.extent? x = .error .integerTooLarge := by
  rcases finite_of_abs_greatest top with rfl | rfl <;> decide +kernel

theorem cubicFoot_greatest (top : x.abs = greatest) :
    cubicFoot.extent? x = .error .integerTooLarge := by
  rcases finite_of_abs_greatest top with rfl | rfl <;> decide +kernel

end FeetInches
