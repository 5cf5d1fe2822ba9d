import FeetInches.Proofs.Evaluation.Finiteness
import FeetInches.Proofs.Expression.Typing

namespace FeetInches

open Numeral Text

/-- What a user can come to have on the display: terms that were typed, of some of which input was
taken back, operators, and results of evaluating such terms. -/
inductive Term.Arises : Term → Prop where
  | typed (log : List Key) (times : Nat) {term : Term}
      (member : term ∈ Expression.eraseInput^[times] (Expression.ofKeys log)) : Arises term
  | operator (symbol : Text) : Arises (.operator symbol)
  | result {terms : Expression} {outcome : Outcome} {result : Term}
      (arise : ∀ term ∈ terms, Arises term) (evaluated : Expression.evaluate? terms = .ok outcome)
      (solved : outcome.result = .ok result) : Arises result

namespace Expression

theorem tidy_eraseInput {terms : Expression} (tidy : ∀ term ∈ terms, term.Tidy) :
    ∀ term ∈ terms.eraseInput, term.Tidy := by
  rcases List.eq_nil_or_concat' terms with rfl | ⟨front, last, rfl⟩
  · exact tidy
  · rw [eraseInput_concat]
    intro term member
    rcases List.mem_append.mp member with inFront | left
    · exact tidy term (List.mem_append_left _ inFront)
    · exact Term.tidy_eraseInput (tidy last (by simp)) (Option.mem_toList.mp left)

theorem tidy_eraseInput_iterate {terms : Expression} (tidy : ∀ term ∈ terms, term.Tidy)
    (times : Nat) : ∀ term ∈ eraseInput^[times] terms, term.Tidy := by
  induction times with
  | zero => exact tidy
  | succ times ih =>
      rw [Function.iterate_succ_apply']
      exact tidy_eraseInput ih

end Expression

theorem Term.Arises.legible {term : Term} (arises : term.Arises) : term.Legible := by
  induction arises with
  | typed log times member =>
      have typed := Typing.tidy_ofKeys log
      exact legible_of_tidy (Expression.tidy_eraseInput_iterate typed times _ member)
  | operator symbol => exact trivial
  | result _ evaluated solved legible =>
      exact Expression.legible_of_evaluate? legible evaluated solved

/-- The text is a number as it is typed or written; a point alone is a zero. -/
def Text.Writes (text : Text) (x : Binary64) : Prop :=
  (text = "." ∧ x = .zero false) ∨
    ∃ s : Spelling, s.Proper ∧ text = ofChars s.chars ∧ x = s.value

theorem Numeral.Spelling.Proper.magnitude {s : Spelling} (proper : s.Proper) :
    Text.magnitude (ofChars s.chars) = s.value := by
  have read := Spelling.readReal_chars proper
  have other : ¬ (ofChars s.chars = [] ∨ ofChars s.chars = ".") := by
    rintro (none | point)
    · rw [none] at read
      cases read
    · rw [point] at read
      cases read
  rw [Text.magnitude, if_neg other, read]
  rfl

theorem numberValue?_chars {s : Spelling} (proper : s.Proper) :
    numberValue? (ofChars s.chars) =
      if s.value.isFinite then .ok s.value else .error (.calc (.invalid .numberTooLarge)) := by
  rw [numberValue?_eq (Or.inr ⟨s, proper, rfl⟩), UnitRule.finite_eq, proper.magnitude]

namespace Term

theorem Legible.exists_writes {term : Term} {text : Text} (legible : term.Legible)
    (shown : term.numberText? = some text) :
    ∃ x, text.Writes x ∧
      term.value? = if x.isFinite then .ok x else .error (.calc (.invalid .numberTooLarge)) := by
  have read : term.value? = numberValue? text := by cases term <;> cases shown <;> rfl
  have known : text = "." ∨ Readable text := by
    cases term <;> cases shown <;> exact legible
  rw [read]
  rcases known with rfl | ⟨s, proper, rfl⟩
  · exact ⟨.zero false, Or.inl ⟨rfl, rfl⟩, rfl⟩
  · exact ⟨s.value, Or.inr ⟨s, proper, rfl, rfl⟩, numberValue?_chars proper⟩

/-- Every number on the display can be read: it has the value that is written there, or it is too
large for one. -/
theorem Arises.number_has_value {term : Term} {text : Text} (arises : term.Arises)
    (shown : term.numberText? = some text) :
    ∃ x, text.Writes x ∧
      term.value? = if x.isFinite then .ok x else .error (.calc (.invalid .numberTooLarge)) :=
  arises.legible.exists_writes shown

/-- `1 / 100000.` with the point taken back is `1e-05`, which has a value. -/
theorem small_quotient_has_value :
    let keys : List Key := [.scalarDigit 1, .operator .dividedBy, .scalarDigit 1, .scalarDigit 0,
      .scalarDigit 0, .scalarDigit 0, .scalarDigit 0, .scalarDigit 0, .point]
    ∃ outcome x, Expression.evaluate? ((Expression.ofKeys keys).eraseInput ++
        [.operator equalsSymbol]) = .ok outcome ∧
      outcome.result = .ok (.number "1e-05") ∧ Text.Writes "1e-05" x ∧
      (Term.number "1e-05").value? = .ok x := by
  intro keys
  have solved : Expression.solve? (Expression.ofKeys keys).eraseInput = .ok (.number "1e-05") := by
    decide +kernel
  have evaluated := Expression.evaluate?_equals (Expression.ofKeys keys).eraseInput
  rw [solved] at evaluated
  have arise : ∀ term ∈ (Expression.ofKeys keys).eraseInput ++ [.operator equalsSymbol],
      Arises term := by
    intro term member
    rcases List.mem_append.mp member with typed | equals
    · exact .typed keys 1 typed
    · rw [List.mem_singleton.mp equals]
      exact .operator equalsSymbol
  obtain ⟨x, written, read⟩ := Arises.number_has_value (.result arise evaluated rfl) rfl
  have legible : (Term.number "1e-05").value?.isOk := by decide +kernel
  cases finite : x.isFinite with
  | true => exact ⟨_, x, evaluated, rfl, written, by rw [read, if_pos finite]⟩
  | false =>
      rw [read, finite] at legible
      cases legible

end Term

end FeetInches
