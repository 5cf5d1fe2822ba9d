import FeetInches.Proofs.Expression.Display

namespace FeetInches

open Decimal

theorem Decimal.digitCount_succ {n : Nat} (positive : 0 < n) :
    digitCount n = digitCount (n / 10) + 1 := by
  have digits : digitCount n = (lowDigits n).length := if_neg (by omega)
  rw [digits, lowDigits]
  split
  · have short : n / 10 = 0 := by omega
    rw [short]
    rfl
  · have more : digitCount (n / 10) = (lowDigits (n / 10)).length := if_neg (by omega)
    rw [more, List.length_cons]

theorem digitCount_tenth {n : Int} (positive : 0 < n) :
    digitCount (n / 10).natAbs + 1 = digitCount n.natAbs := by
  have quotient : (n / 10).natAbs = n.natAbs / 10 := by omega
  rw [quotient, digitCount_succ (by omega : 0 < n.natAbs)]

namespace TypedLength

/-- The digits of feet and inches, a zero having none, and the fraction. -/
def pieces (l : TypedLength) : Nat :=
  digitCount l.feet.natAbs + digitCount l.inches.natAbs + l.hasFraction.toNat

theorem isBlank_iff {l : TypedLength} :
    l.isBlank ↔ l.feet = 0 ∧ l.inches = 0 ∧ l.hasFraction = false := by
  simp [isBlank, and_assoc]

theorem pieces_of_isBlank {l : TypedLength} (blank : l.isBlank) : l.pieces = 0 := by
  obtain ⟨feet, inches, fraction⟩ := isBlank_iff.mp blank
  rw [pieces, feet, inches, fraction]
  rfl

theorem eraseInput_of_isBlank {l : TypedLength} (blank : l.isBlank) : l.eraseInput = l := by
  obtain ⟨feet, inches, fraction⟩ := isBlank_iff.mp blank
  simp [eraseInput, feet, inches, fraction]

theorem pieces_eraseInput {l : TypedLength} (tidy : l.Tidy) (typed : ¬ l.isBlank) :
    l.eraseInput.pieces + 1 = l.pieces := by
  unfold eraseInput
  split
  · rename_i feet
    have fewer := digitCount_tenth feet
    change digitCount (l.feet / 10).natAbs + digitCount l.inches.natAbs + l.hasFraction.toNat + 1 =
      digitCount l.feet.natAbs + digitCount l.inches.natAbs + l.hasFraction.toNat
    omega
  · split
    · rename_i inches
      have fewer := digitCount_tenth inches
      change digitCount l.feet.natAbs + digitCount (l.inches / 10).natAbs + l.hasFraction.toNat +
        1 = digitCount l.feet.natAbs + digitCount l.inches.natAbs + l.hasFraction.toNat
      omega
    · split
      · rename_i fraction
        rw [pieces, pieces, fraction]
        rfl
      · rename_i noFeet noInches noFraction
        have feet := tidy.feet
        have inches := tidy.inches
        exact absurd (isBlank_iff.mpr ⟨by omega, by omega, by simpa using noFraction⟩) typed

theorem pieces_pos {l : TypedLength} (tidy : l.Tidy) (typed : ¬ l.isBlank) : 0 < l.pieces := by
  rw [← pieces_eraseInput tidy typed]
  omega

theorem written_eraseInput {l : TypedLength} (written : ∀ pad, Written (l.count pad)) :
    ∀ pad, Written (l.eraseInput.count pad) := by
  have tenth {n : Int} (written : Written n) : Written (n / 10) := by
    rw [written_iff] at written ⊢
    omega
  have feet := written .feet
  have inches := written .inches
  intro pad
  unfold eraseInput
  split
  · cases pad
    · exact tenth feet
    · exact inches
  · split
    · cases pad
      · exact feet
      · exact tenth inches
    · split
      · cases pad
        · exact feet
        · exact inches
      · exact written pad

end TypedLength

namespace Term

def presses : Term → Nat
  | typedLength l => max 1 l.pieces
  | typedNumber text => text.length
  | _ => 1

theorem presses_eraseInput {term : Term} (tidy : term.isResult ∨ term.Tidy) :
    (term.eraseInput.map presses).getD 0 + 1 = term.presses := by
  cases term with
  | typedLength l =>
      have tidy : l.Tidy := tidy.resolve_left (by simp [isResult])
      simp only [eraseInput, presses]
      by_cases blank : l.isBlank
      · rw [TypedLength.eraseInput_of_isBlank blank, if_pos blank,
          TypedLength.pieces_of_isBlank blank]
        rfl
      · have fewer := TypedLength.pieces_eraseInput tidy blank
        split
        · rename_i gone
          rw [← fewer, TypedLength.pieces_of_isBlank gone]
          rfl
        · rename_i left
          have positive := TypedLength.pieces_pos (TypedLength.tidy_eraseInput tidy) left
          simp only [Option.map_some, Option.getD_some, presses]
          omega
  | typedNumber text =>
      have number : TidyNumber text := tidy.resolve_left (by simp [isResult])
      have positive := List.length_pos_iff.mpr number.nonempty
      simp only [eraseInput, presses]
      split
      · simp only [Option.map_some, Option.getD_some, presses, List.length_dropLast]
        omega
      · simp only [Option.map_none, Option.getD_none]
        omega
  | _ => rfl

theorem shown_eraseInput {term left : Term} (tidy : term.Tidy)
    (shown : ∃ text, term.text? = .ok text) (erased : term.eraseInput = some left) :
    ∃ text, left.text? = .ok text := by
  rcases eraseInput_eq_some erased with ⟨l, rfl, rfl⟩ | ⟨text, _, rfl, rfl⟩
  · rw [TypedLength.text?_ok tidy] at shown
    rw [TypedLength.text?_ok (TypedLength.tidy_eraseInput tidy)]
    exact TypedLength.written_eraseInput shown
  · exact ⟨_, rfl⟩

end Term

/-! An expression that is shown has keys -/

theorem keysOfCount_ok (pad : LengthPad) {n : Int} (nonneg : 0 ≤ n) (written : Written n) :
    ∃ keys, keysOfCount pad.pad n = .ok keys := by
  unfold keysOfCount
  split
  · exact ⟨_, rfl⟩
  · have text : writtenInt? n = .ok (intText n) := if_pos written
    have digits := keysOfText_digits pad (digits n.natAbs)
    rw [← ofString_intText nonneg] at digits
    exact ⟨_, bind_eq_ok.mpr ⟨intText n, text, digits⟩⟩

theorem fractionKeys_ok {l : TypedLength} (tidy : l.Tidy) :
    ∃ keys, l.fractionKeys = .ok keys := by
  rcases fractionKeys_eq tidy with ⟨_, _, keys⟩ | ⟨_, _, keys⟩
  · exact ⟨_, keys⟩
  · exact ⟨_, keys⟩

theorem length_keys_ok {l : TypedLength} (tidy : l.Tidy)
    (written : ∀ pad, Written (l.count pad)) : ∃ keys, l.keys = .ok keys := by
  obtain ⟨feet, feetKeys⟩ := keysOfCount_ok .feet tidy.feet (written .feet)
  obtain ⟨inches, inchesKeys⟩ := keysOfCount_ok .inches tidy.inches (written .inches)
  obtain ⟨fraction, fractionKeys⟩ := fractionKeys_ok tidy
  exact ⟨_, bind_eq_ok.mpr ⟨feet, feetKeys, bind_eq_ok.mpr ⟨inches, inchesKeys,
    bind_eq_ok.mpr ⟨fraction, fractionKeys, rfl⟩⟩⟩⟩

theorem number_keys_ok {text : Text}
    (characters : ∀ c ∈ text, c = .char '.' ∨ ∃ d : Digit, c = .char (digitChar d)) :
    ∃ keys, keysOfText .scalar text = .ok keys := by
  induction text with
  | nil => exact ⟨[], rfl⟩
  | cons c rest ih =>
      obtain ⟨keys, following⟩ := ih fun other member => characters other (by simp [member])
      have first : ∃ key, Key.ofText .scalar [c] = .ok key := by
        rcases characters c (by simp) with rfl | ⟨d, rfl⟩
        · exact ⟨.point, rfl⟩
        · exact ⟨.scalarDigit d, by simp only [Key.ofText, Key.digitOfText?, digit?_digitChar]⟩
      obtain ⟨key, first⟩ := first
      exact ⟨_, bind_eq_ok.mpr ⟨key, first, bind_eq_ok.mpr ⟨keys, following, rfl⟩⟩⟩

theorem operatorKey_ok {key : Key} (operator : key.isOperator) :
    ∃ again, Key.ofText .operator key.text = .ok again := by
  cases key with
  | operator op => exact ⟨.operator op, by simp only [Key.ofText, Key.text, Arith.ofSymbol?_symbol]⟩
  | equals => exact ⟨.equals, rfl⟩
  | _ => cases operator

theorem Term.keys_ok {term : Term} (tidy : term.Tidy)
    (operators : ∀ symbol, term = .operator symbol →
      ∃ key : Key, key.isOperator ∧ key.text = symbol)
    (shown : ∃ text, term.text? = .ok text) : ∃ keys, term.keys = .ok keys := by
  cases term with
  | typedLength l => exact length_keys_ok tidy ((l.text?_ok tidy).mp shown)
  | typedNumber text =>
      have number : TidyNumber text := tidy
      rw [Term.keys, if_neg number.nonempty]
      exact number_keys_ok number.characters
  | operator symbol =>
      obtain ⟨key, operator, rfl⟩ := operators symbol rfl
      obtain ⟨again, written⟩ := operatorKey_ok operator
      exact ⟨[again], bind_eq_ok.mpr ⟨again, written, rfl⟩⟩
  | _ => exact False.elim tidy

namespace Expression

def OperatorsHaveKeys (terms : Expression) : Prop :=
  ∀ symbol, .operator symbol ∈ terms → ∃ key : Key, key.isOperator ∧ key.text = symbol

theorem Arithmetic.operatorsHaveKeys {terms : Expression} (arithmetic : terms.Arithmetic) :
    terms.OperatorsHaveKeys := by
  intro symbol member
  obtain ⟨op, same⟩ := arithmetic _ member rfl
  cases same
  exact ⟨.operator op, rfl, rfl⟩

theorem keys_ok {terms : Expression} (tidy : ∀ term ∈ terms, term.Tidy)
    (operators : terms.OperatorsHaveKeys) (shown : ∃ text, terms.text? = .ok text) :
    ∃ log, terms.keys = .ok log := by
  induction terms with
  | nil => exact ⟨[], rfl⟩
  | cons term rest ih =>
      obtain ⟨text, shown⟩ := shown
      obtain ⟨firstText, firstShown, more⟩ := bind_eq_ok.mp shown
      obtain ⟨restText, restShown, _⟩ := bind_eq_ok.mp more
      have ofTerm : ∀ symbol, term = .operator symbol →
          ∃ key : Key, key.isOperator ∧ key.text = symbol := by
        rintro symbol rfl
        exact operators symbol (by simp)
      obtain ⟨first, firstKeys⟩ := Term.keys_ok (tidy term (by simp)) ofTerm
        ⟨firstText, firstShown⟩
      obtain ⟨others, otherKeys⟩ := ih (fun other member => tidy other (by simp [member]))
        (fun symbol member => operators symbol (by simp [member])) ⟨restText, restShown⟩
      exact ⟨_, bind_eq_ok.mpr ⟨first, firstKeys, bind_eq_ok.mpr ⟨others, otherKeys, rfl⟩⟩⟩

end Expression

end FeetInches
