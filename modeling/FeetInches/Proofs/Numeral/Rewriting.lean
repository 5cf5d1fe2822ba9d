import FeetInches.Proofs.Decimal.TenDigits
import FeetInches.Proofs.Evaluation.ExactSum
import FeetInches.Proofs.Evaluation.Solution
/-!
The text of a number, read and written again. Whole numbers and what is shown without a power of ten
keep their text. With a power of ten the text shows a whole number, which is written with all its
digits from then on.
-/

namespace FeetInches

open Binary64 Decimal Numeral

namespace Binary64

variable {x y : Binary64}

/-! Texts -/

theorem magnitude_pos (known : x.isFinite) (part : x.isWhole = false) : 0 < x.magnitude := by
  apply Nat.pos_of_ne_zero
  intro zero
  have whole := (isWhole_iff known).mpr (zero ▸ Nat.dvd_zero _)
  rw [part] at whole
  cases whole

theorem text_of_whole (whole : x.isWhole) : x.text = intText (x.units / (oneUnits : Int)) :=
  if_pos whole

theorem text_of_part (known : x.isFinite) (part : x.isWhole = false) :
    x.text = (if x.isNegative then "-" else "") ++
      (significant 10 x.magnitude oneUnits).text ⟨-4, 10, false⟩ := by
  rw [text, if_neg (by simp [part]), general, laidOut_eq _ known, scientific,
    if_neg (magnitude_pos known part).ne']
  rfl

theorem text_congr (known : x.isFinite) (other : y.isFinite) (same : x.units = y.units) :
    x.text = y.text := by
  have whole : x.isWhole = y.isWhole := by rw [isWhole, isWhole, known, other, same]
  cases part : x.isWhole with
  | true => rw [text_of_whole part, text_of_whole (whole ▸ part), same]
  | false =>
      have positive := magnitude_pos known part
      have sign : y.isNegative = x.isNegative := by
        apply isNegative_of_counts positive
        rw [← units_eq_signed known, same]
        exact .of_isFinite other
      have count : x.magnitude = y.magnitude := congrArg Int.natAbs same
      rw [text_of_part known part, text_of_part other (whole ▸ part), sign, count]

/-! Reading back -/

theorem readReal_whole (known : x.isFinite) (whole : x.isWhole) :
    ∃ y, readReal x.text = .ok y ∧ Counts y x.units := by
  have counts := counts_wholeText known
  rw [text_of_whole whole]
  rw [isWhole, known, Bool.true_and, beq_iff_eq] at whole
  rw [Int.ediv_mul_cancel (Int.dvd_of_emod_eq_zero whole)] at counts
  refine ⟨_, ?_, counts⟩
  rw [← Spelling.readReal_chars (Spelling.proper_ofInt _), ← toList_intText]
  rfl

/-- The digits of a number that is not whole are far from both ends of the range. -/
theorem value_range (known : x.isFinite) (part : x.isWhole = false) :
    (10 : ℚ) ^ (-330 : ℤ) ≤ (significant 10 x.magnitude oneUnits).value ∧
      (significant 10 x.magnitude oneUnits).value < 2 ^ 53 := by
  have one := cast_oneUnits_pos
  have positive := magnitude_pos known part
  obtain ⟨lower, upper⟩ := significant_value_bounds positive
  have less : (x.magnitude : ℚ) / oneUnits < 2 ^ 52 := by
    rw [div_lt_iff₀ one]
    exact_mod_cast lt_of_not_isWhole known part
  have unit : 1 / (oneUnits : ℚ) ≤ x.magnitude / oneUnits :=
    div_le_div_of_nonneg_right (by exact_mod_cast positive) one.le
  have least : 2 * (10 : ℚ) ^ (-330 : ℤ) ≤ 1 / oneUnits := by
    have few := units_of_least.2
    rw [le_div_iff₀ one, show (-330 : ℤ) = -16 + -314 from rfl, ten_zpow_add, mul_assoc, mul_assoc]
    generalize (10 : ℚ) ^ (-314 : ℤ) * oneUnits = t at *
    norm_num
    linarith
  constructor <;> linarith

theorem exists_quotient (known : x.isFinite) (part : x.isWhole = false) :
    ∃ n d : Nat, 0 < d ∧ (significant 10 x.magnitude oneUnits).value * oneUnits = n / d := by
  have least := (value_range known part).1
  generalize same : (significant 10 x.magnitude oneUnits).value * oneUnits = q
  have nonnegative : 0 ≤ q :=
    same ▸ mul_nonneg ((ten_zpow_pos _).le.trans least) cast_oneUnits_pos.le
  have numerator : ((q.num.toNat : Nat) : ℚ) = q.num := by
    exact_mod_cast Int.toNat_of_nonneg (Rat.num_nonneg.mpr nonnegative)
  exact ⟨q.num.toNat, q.den, q.den_pos, by rw [numerator, Rat.num_div_den]⟩

theorem readReal_part (known : x.isFinite) (part : x.isWhole = false) {n d : Nat} (below : 0 < d)
    (units : (significant 10 x.magnitude oneUnits).value * oneUnits = n / d) :
    ∃ y, readReal x.text = .ok y ∧ Counts y (signedUnits x.isNegative (rounded n d)) := by
  have proper := proper_laidOut ⟨-4, 10, false⟩ (fun n => significant_ne_nil 10 n oneUnits) x
  have positive := magnitude_pos known part
  have amount : (x.spelling ⟨-4, 10, false⟩ fun n => significant 10 n oneUnits).amount =
      (significant 10 x.magnitude oneUnits).value := by
    rw [← amount_spelling ⟨-4, 10, false⟩ (significant_ne_nil 10 x.magnitude oneUnits),
      spelling, scientific, if_neg positive.ne']
    rfl
  have text : x.text = general 10 x := if_neg (by simp [part])
  obtain ⟨least, most⟩ := value_range known part
  rw [← amount] at units least most
  refine ⟨_, ?_, counts_ofDecimal _ below units least (most.trans (by norm_num))⟩
  rw [text]
  have read := Spelling.readReal_chars proper
  rw [← toList_laidOut _ known] at read
  exact read

/-! The second text -/

theorem intText_signed (negative : Bool) {k : Nat} (positive : 0 < k) :
    intText (signedUnits negative k) = (if negative then "-" else "") ++ natText k := by
  rw [intText, natAbs_signedUnits]
  cases negative with
  | true => rw [if_pos (by simp [signedUnits]; omega), if_pos rfl]
  | false => rw [if_neg (by simp [signedUnits]), if_neg Bool.false_ne_true]

theorem whole_of_counts {negative : Bool} {k : Nat} (positive : 0 < k)
    (counts : Counts y (signedUnits negative (k * oneUnits))) :
    y.isWhole ∧ y.text = (if negative then "-" else "") ++ natText k := by
  have whole : y.isWhole := by
    rw [isWhole_iff counts.1, magnitude, counts.2, natAbs_signedUnits]
    exact Nat.dvd_mul_left _ _
  have inch : (oneUnits : Int) ≠ 0 := by exact_mod_cast oneUnits_pos.ne'
  rw [text_of_whole whole, counts.2, signedUnits_mul, Int.mul_ediv_cancel _ inch]
  exact ⟨whole, intText_signed negative positive⟩

theorem text_kept {r : Nat} (known : x.isFinite) (part : x.isWhole = false)
    (counts : Counts y (signedUnits x.isNegative r)) (counted : 0 < r)
    (digits : significant 10 r oneUnits = significant 10 x.magnitude oneUnits)
    (low : (significant 10 x.magnitude oneUnits).exponent ≤ 9) : y.text = x.text := by
  have count : y.magnitude = r := by rw [magnitude, counts.2, natAbs_signedUnits]
  rw [text_of_part known part]
  cases whole : y.isWhole with
  | false =>
      rw [text_of_part counts.1 whole, isNegative_of_counts counted counts, count, digits]
  | true =>
      obtain ⟨k, rfl⟩ : ∃ k, r = k * oneUnits := by
        rw [isWhole_iff counts.1, count] at whole
        exact exists_eq_mul_left_of_dvd whole
      have positive : 0 < k := Nat.pos_of_mul_pos_right counted
      have small : k < 10 ^ 10 := by
        rw [← digits, exponent_le_nine_iff counted, Nat.cast_mul,
          mul_div_cancel_right₀ _ cast_oneUnits_pos.ne'] at low
        have less : (k : ℚ) < (10 ^ 10 : Nat) := by
          push_cast
          linarith
        exact_mod_cast less
      rw [(whole_of_counts positive counts).2, ← digits, text_whole positive small]

/-- Digits with a power of ten become a whole number. -/
theorem text_changed {r : Nat} (known : x.isFinite) (part : x.isWhole = false)
    (counts : Counts y (signedUnits x.isNegative r)) (positive : 0 < r)
    (high : 10 ≤ (significant 10 x.magnitude oneUnits).exponent) (whole : oneUnits ∣ r) :
    y.isWhole ∧ y.text ≠ x.text := by
  obtain ⟨k, rfl⟩ := exists_eq_mul_left_of_dvd whole
  obtain ⟨found, text⟩ := whole_of_counts (Nat.pos_of_mul_pos_right positive) counts
  have plain : 'e' ∉ y.text.toList := by
    have digits := not_mem_natText (c := 'e') (by decide) k
    rw [text, String.toList_append, List.mem_append]
    split <;> simp [digits]
  have marked : 'e' ∈ x.text.toList := by
    have power : 'e' ∈ (powerText (significant 10 x.magnitude oneUnits).exponent).toList := by
      rw [toList_powerText]
      exact List.mem_cons_self
    rw [text_of_part known part, Scientific.text, if_pos (Or.inr high), String.toList_append,
      String.toList_append]
    simp [power]
  refine ⟨found, fun same => plain ?_⟩
  rwa [same]

theorem exponent_le_iff (known : x.isFinite) (part : x.isWhole = false) :
    (significant 10 x.magnitude oneUnits).exponent ≤ 9 ↔ |x.value| < 10 ^ 10 - 1 / 2 := by
  rw [(Counts.of_isFinite known).abs_value]
  exact exponent_le_nine_iff (magnitude_pos known part)

/-! Read and written again -/

theorem numberValue?_eq_ok {text : Text} (read : readReal text = .ok x) (known : x.isFinite) :
    numberValue? text = .ok x := by
  have digits : ¬ (text = [] ∨ text = ".") := by
    rintro (rfl | rfl) <;> cases read
  have finite : (Amount.real x).finite? = .ok x := Amount.finite?_eq_ok rfl known
  rw [numberValue?, if_neg digits, read]
  refine bind_eq_ok.mpr ⟨x, rfl, ?_⟩
  rw [finite]
  rfl

theorem numberOf_eq_ok (known : x.isFinite) : UnitRule.numberOf x = .ok (.number x.text) := by
  have finite : (Amount.real x).finite? = .ok x := Amount.finite?_eq_ok rfl known
  refine bind_eq_ok.mpr ⟨x, ?_, rfl⟩
  rw [UnitRule.finite, finite]
  rfl

theorem solve?_plus_zero {text : Text} (read : readReal text = .ok y) (known : y.isFinite) :
    Expression.solve? [.number text, .operator Arith.plus.symbol, .typedNumber "0"] =
      .ok (.number y.text) := by
  have counts : Counts (y.add (zero false)) y.units := by
    have sum := (Counts.of_isFinite known).add (counts_zero false)
      (by rw [Int.add_zero]; exact (Counts.of_isFinite known).representable)
    rwa [Int.add_zero] at sum
  have combined : (Term.number text).combine? Arith.plus.symbol (.typedNumber "0") =
      .ok (.number y.text) := by
    have zeroRead : numberValue? "0" = .ok (zero false) := numberValue?_eq_ok rfl rfl
    refine (Term.combine?_eq rfl rfl rfl).trans (bind_eq_ok.mpr ⟨zero false, zeroRead, ?_⟩)
    refine bind_eq_ok.mpr ⟨y, numberValue?_eq_ok read known, ?_⟩
    rw [Arith.apply, numberOf_eq_ok counts.1, text_congr counts.1 known counts.2]
  exact bind_eq_ok.mpr ⟨_, rfl, bind_eq_ok.mpr ⟨_, combined, rfl⟩⟩

theorem shows_power (known : x.isFinite) (part : x.isWhole = false)
    (high : 10 ≤ (significant 10 x.magnitude oneUnits).exponent) :
    ∃ digits, ShowsPower digits ∧ x.text = (if x.isNegative then "-" else "") ++ digits :=
  ⟨_, showsPower_text (magnitude_pos known part) high, text_of_part known part⟩

theorem exists_intText (whole : x.isWhole) : ∃ n : Int, x.value = n ∧ x.text = intText n := by
  have known : x.isFinite := (Bool.and_eq_true_iff.mp whole).1
  have even : x.units % (oneUnits : Int) = 0 := by
    rwa [isWhole, known, Bool.true_and, beq_iff_eq] at whole
  refine ⟨x.units / (oneUnits : Int), ?_, text_of_whole whole⟩
  have units : x.units * (1 : Nat) = x.units / (oneUnits : Int) * oneUnits := by
    rw [Nat.cast_one, Int.mul_one, Int.ediv_mul_cancel (Int.dvd_of_emod_eq_zero even)]
  rw [x.value_eq_of_units Nat.one_pos units, Nat.cast_one, div_one]

/-- The text of a finite number is written again, or it shows a whole number with a power of ten. -/
theorem exists_reread (known : x.isFinite) :
    ∃ y, readReal x.text = .ok y ∧ y.isFinite ∧
      ((x.isWhole ∨ |x.value| < 10 ^ 10 - 1 / 2) ∧ y.text = x.text ∨
        ¬ (x.isWhole ∨ |x.value| < 10 ^ 10 - 1 / 2) ∧ y.isWhole ∧ y.text ≠ x.text ∧
          ∃ digits, ShowsPower digits ∧
            x.text = (if x.isNegative then "-" else "") ++ digits) := by
  cases part : x.isWhole with
  | true =>
      obtain ⟨y, read, counts⟩ := readReal_whole known part
      exact ⟨y, read, counts.1, Or.inl ⟨Or.inl rfl, text_congr counts.1 known counts.2⟩⟩
  | false =>
      have counted := magnitude_pos known part
      have limit := exponent_le_iff known part
      obtain ⟨_, most⟩ := value_range known part
      obtain ⟨n, d, below, units⟩ := exists_quotient known part
      obtain ⟨y, read, counts⟩ := readReal_part known part below units
      obtain ⟨positive, digits⟩ := significant_rounded counted below units
      refine ⟨y, read, counts.1, ?_⟩
      rcases lt_or_ge 9 (significant 10 x.magnitude oneUnits).exponent with high | low
      · have whole := dvd_rounded counted below units high most
        have beyond : ¬ (false = true ∨ |x.value| < 10 ^ 10 - 1 / 2) := by
          rintro (⟨⟨⟩⟩ | less)
          exact absurd (limit.mpr less) high.not_ge
        obtain ⟨found, other⟩ := text_changed known part counts positive high whole
        exact Or.inr ⟨beyond, found, other, shows_power known part high⟩
      · exact Or.inl ⟨Or.inr (limit.mp low), text_kept known part counts positive digits low⟩

/-- A finite number is read back from its text to one that is written the same, if it is whole or
nearer to zero than what ten digits show as `10 ^ 10`. Any other is written with a power of ten, and
what is read is a whole number, written with all its digits. The second text is not changed any more,
and it is the result of adding zero to the first. -/
theorem text_stable_iff (known : x.isFinite) :
    ∃ y, readReal x.text = .ok y ∧ y.isFinite ∧
      (y.text = x.text ↔ x.isWhole ∨ |x.value| < 10 ^ 10 - 1 / 2) ∧
      (y.text = x.text ∨
        (∃ digits, ShowsPower digits ∧ x.text = (if x.isNegative then "-" else "") ++ digits) ∧
          ∃ n : Int, y.value = n ∧ y.text = intText n) ∧
      (∃ z, readReal y.text = .ok z ∧ z.isFinite ∧ z.text = y.text) ∧
      ∃ outcome, Expression.evaluate? [.number x.text, .operator Arith.plus.symbol,
          .typedNumber "0", .operator equalsSymbol] = .ok outcome ∧
        outcome.result = .ok (.number y.text) := by
  obtain ⟨y, read, finite, cases⟩ := exists_reread known
  have added : ∃ outcome, Expression.evaluate? [.number x.text, .operator Arith.plus.symbol,
      .typedNumber "0", .operator equalsSymbol] = .ok outcome ∧
        outcome.result = .ok (.number y.text) := by
    have evaluated := Expression.evaluate?_equals
      [.number x.text, .operator Arith.plus.symbol, .typedNumber "0"]
    rw [solve?_plus_zero read finite] at evaluated
    exact ⟨_, evaluated, rfl⟩
  rcases cases with ⟨kept, same⟩ | ⟨changed, whole, other, form⟩
  · exact ⟨y, read, finite, iff_of_true same kept, Or.inl same,
      ⟨y, same ▸ read, finite, rfl⟩, added⟩
  · obtain ⟨z, again, counts⟩ := readReal_whole finite whole
    exact ⟨y, read, finite, iff_of_false other changed, Or.inr ⟨form, exists_intText whole⟩,
      ⟨z, again, counts.1, text_congr counts.1 finite counts.2⟩, added⟩

/-- `12345.5` is read back as it was written. -/
theorem half_kept : ∃ x y : Binary64, x.value = 12345.5 ∧ readReal x.text = .ok y ∧
    y.text = x.text := by
  let x : Binary64 := .finite false (24691 * 2 ^ 38) 1035 (by decide)
  have value : x.value = 12345.5 := by
    rw [x.value_eq_of_units (n := 24691) (d := 2) (by decide) (by decide +kernel)]
    norm_num
  obtain ⟨y, read, _, kept, _⟩ := text_stable_iff (x := x) rfl
  refine ⟨x, y, value, read, kept.mpr (Or.inr ?_)⟩
  rw [value]
  norm_num [abs_of_pos]

/-- `12345678910.5` is written as `1.234567891e+10`, and what that shows as `12345678910`. -/
theorem half_lost : ∃ x y : Binary64, x.value = 12345678910.5 ∧ x.text = "1.234567891e+10" ∧
    readReal x.text = .ok y ∧ y.text = "12345678910" ∧ y.text ≠ x.text := by
  let x : Binary64 := .finite false (24691357821 * 2 ^ 18) 1055 (by decide)
  let y : Binary64 := .finite false (12345678910 * 2 ^ 19) 1055 (by decide)
  have value : x.value = 12345678910.5 := by
    rw [x.value_eq_of_units (n := 24691357821) (d := 2) (by decide) (by decide +kernel)]
    norm_num
  have first : x.text = "1.234567891e+10" := by decide +kernel
  have second : y.text = "12345678910" := by decide +kernel
  refine ⟨x, y, value, first, ?_, second, ?_⟩
  · rw [first]
    decide +kernel
  · rw [first, second]
    decide

-- `10000000000.5`: of its ten digits the zeros behind the point are left out
example : (finite false (20000000001 * 2 ^ 18) 1055 (by decide)).text = "1e+10" := by
  decide +kernel

end Binary64

end FeetInches
