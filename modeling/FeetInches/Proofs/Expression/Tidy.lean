import FeetInches.Expression.Editing

namespace FeetInches

def Fraction.Proper (f : Fraction) : Prop :=
  f.denominator ∈ keyDenominators ∧ 0 < f.numerator ∧ f.numerator < f.denominator

theorem Fraction.proper_of_read {text : Text} {f : Fraction} (reads : Fraction.read text = .ok f) :
    f.Proper := by
  unfold Fraction.read at reads
  split at reads
  · cases reads
  · rename_i above below _
    split at reads
    · cases upper : Numeral.readInteger above with
      | error fault => rw [upper] at reads; cases reads
      | ok numerator =>
          cases lower : Numeral.readInteger below with
          | error fault => rw [upper, lower] at reads; cases reads
          | ok denominator =>
              rw [upper, lower] at reads
              change (if denominator ∉ keyDenominators then _ else _) = _ at reads
              split at reads
              · cases reads
              · rename_i known
                split at reads
                · rename_i range
                  cases reads
                  exact ⟨Decidable.not_not.mp known, range⟩
                · cases reads
    · cases reads

namespace TypedLength

structure Tidy (l : TypedLength) : Prop where
  feet : 0 ≤ l.feet
  inches : 0 ≤ l.inches
  fraction : l.numerator = 0 ∧ l.denominator = defaultDenominator ∨
    Fraction.Proper ⟨l.numerator, l.denominator⟩

theorem tidy_empty : Tidy {} := ⟨by decide, by decide, Or.inl ⟨rfl, rfl⟩⟩

theorem tidy_dropFraction {l : TypedLength} (tidy : l.Tidy) : l.dropFraction.Tidy :=
  ⟨tidy.feet, tidy.inches, Or.inl ⟨rfl, rfl⟩⟩

theorem tidy_typeDigit {l : TypedLength} (tidy : l.Tidy) (pad : LengthPad) (d : Decimal.Digit) :
    (l.typeDigit pad d).Tidy := by
  have feet := tidy.feet
  have inches := tidy.inches
  cases pad
  · exact ⟨by simp only [typeDigit]; omega, inches, tidy.fraction⟩
  · exact ⟨feet, by simp only [typeDigit]; omega, tidy.fraction⟩

theorem tidy_typeFraction {l : TypedLength} (tidy : l.Tidy) {f : Fraction} (proper : f.Proper) :
    (l.typeFraction f).Tidy :=
  ⟨tidy.feet, tidy.inches, Or.inr proper⟩

theorem tidy_eraseInput {l : TypedLength} (tidy : l.Tidy) : l.eraseInput.Tidy := by
  have feet := tidy.feet
  have inches := tidy.inches
  unfold eraseInput
  split
  · exact ⟨by simp only; omega, inches, tidy.fraction⟩
  · split
    · exact ⟨feet, by simp only; omega, tidy.fraction⟩
    · split
      · exact tidy_dropFraction tidy
      · exact tidy

end TypedLength

/-- A number as it can be typed: digits, and at most one point. -/
structure TidyNumber (text : Text) : Prop where
  nonempty : text ≠ []
  characters : ∀ c ∈ text, c = .char '.' ∨ ∃ d : Decimal.Digit, c = .char (Decimal.digitChar d)
  points : text.count (.char '.') ≤ 1

theorem digitChar_ne_point (d : Decimal.Digit) : Decimal.digitChar d ≠ '.' := by
  revert d
  decide

theorem tidyNumber_typeDigit {text : Text} (tidy : text = [] ∨ TidyNumber text)
    (d : Decimal.Digit) : TidyNumber (typeDigit text d) := by
  have last : ([.char (Decimal.digitChar d)] : Text).count (.char '.') = 0 := by
    simp [digitChar_ne_point]
  rcases tidy with rfl | tidy
  · refine ⟨by simp [typeDigit], ?_, by simp [typeDigit, last]⟩
    intro c member
    exact Or.inr ⟨d, List.mem_singleton.mp member⟩
  · refine ⟨by simp [typeDigit], ?_, ?_⟩
    · intro c member
      rcases List.mem_append.mp member with member | member
      · exact tidy.characters c member
      · exact Or.inr ⟨d, List.mem_singleton.mp member⟩
    · rw [typeDigit, List.count_append, last]
      exact tidy.points

theorem tidyNumber_typePoint {text : Text} (tidy : text = [] ∨ TidyNumber text) :
    TidyNumber (typePoint text) := by
  rcases tidy with rfl | tidy
  · exact ⟨by simp [typePoint], by simp [typePoint], by simp [typePoint]⟩
  · unfold typePoint
    split
    · exact tidy
    · rename_i absent
      refine ⟨by simp, ?_, ?_⟩
      · intro c member
        rcases List.mem_append.mp member with member | member
        · exact tidy.characters c member
        · exact Or.inl (List.mem_singleton.mp member)
      · have pointless : text.count (.char '.') = 0 := by
          rw [List.count_eq_zero]
          simpa using absent
        simp [List.count_append, pointless]

theorem tidyNumber_dropLast {text : Text} (tidy : TidyNumber text) (longer : 1 < text.length) :
    TidyNumber text.dropLast := by
  refine ⟨?_, ?_, ?_⟩
  · apply List.ne_nil_of_length_pos
    rw [List.length_dropLast]
    omega
  · intro c member
    exact tidy.characters c (List.dropLast_subset text member)
  · exact Nat.le_trans (List.Sublist.count_le _ (List.dropLast_sublist text)) tidy.points

def Term.Tidy : Term → Prop
  | typedLength l => l.Tidy
  | typedNumber text => TidyNumber text
  | operator _ => True
  | _ => False

theorem Term.not_isResult_of_tidy {term : Term} (tidy : term.Tidy) : term.isResult = false := by
  cases term <;> simp_all [Term.Tidy, Term.isResult]

theorem Term.eraseInput_eq_some {term left : Term} (erased : term.eraseInput = some left) :
    (∃ l : TypedLength, term = .typedLength l ∧ left = .typedLength l.eraseInput) ∨
      ∃ text : Text, 1 < text.length ∧ term = .typedNumber text ∧
        left = .typedNumber text.dropLast := by
  cases term with
  | typedLength l =>
      simp only [Term.eraseInput] at erased
      split at erased
      · cases erased
      · cases erased
        exact Or.inl ⟨l, rfl, rfl⟩
  | typedNumber text =>
      simp only [Term.eraseInput] at erased
      split at erased
      · rename_i longer
        cases erased
        exact Or.inr ⟨text, longer, rfl, rfl⟩
      · cases erased
  | _ => cases erased

theorem Term.tidy_eraseInput {term left : Term} (tidy : term.Tidy)
    (erased : term.eraseInput = some left) : left.Tidy := by
  rcases eraseInput_eq_some erased with ⟨l, rfl, rfl⟩ | ⟨text, longer, rfl, rfl⟩
  · exact TypedLength.tidy_eraseInput tidy
  · exact tidyNumber_dropLast tidy longer

theorem Expression.eraseInput_concat (front : Expression) (last : Term) :
    eraseInput (front ++ [last]) = front ++ last.eraseInput.toList := by
  simp [eraseInput]

end FeetInches
