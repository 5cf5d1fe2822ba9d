import FeetInches.Proofs.Keypad.Tracking

namespace FeetInches

theorem refusal?_operator {front : Expression} {log : List Key} {key : Key}
    (results : ∀ term ∈ front, term.isResult) (plain : ∀ key ∈ log, key.isControl = false)
    (alternates : (front ++ Expression.ofKeys log).Alternates) (operator : key.isOperator) :
    let terms := front ++ Expression.ofKeys log
    (terms = [] ∧ terms.mode.refusal? key log.getLast? = some .emptyExpression) ∨
      (terms ≠ [] ∧ terms.AwaitsOperand ∧
        terms.mode.refusal? key log.getLast? = some .consecutiveOperator) ∨
      (¬ terms.AwaitsOperand ∧ terms.mode.refusal? key log.getLast? = none) := by
  intro terms
  have unfolded (previous : Option Key) : terms.mode.refusal? key previous =
      if previous.any Key.isOperator then some .consecutiveOperator
      else terms.mode.operatorRefusal? := by
    cases key <;> first | rfl | cases operator
  have passes (ended : terms.mode ≠ .input) : terms.mode.operatorRefusal? = none := by
    have sound := Expression.mode_ne_error terms
    cases mode : terms.mode <;> simp_all [Mode.operatorRefusal?]
  have awaits := Expression.mode_eq_input_iff alternates
  rcases List.eq_nil_or_concat' log with rfl | ⟨before, last, rfl⟩
  · have first : terms.mode.refusal? key [].getLast? = terms.mode.operatorRefusal? := unfolded none
    rw [first]
    rcases List.eq_nil_or_concat' front with rfl | ⟨others, result, rfl⟩
    · exact Or.inl ⟨rfl, rfl⟩
    · have operand := Term.isOperand_of_isResult (results result (by simp))
      have ended : terms.mode ≠ .input := by
        simp [terms, Term.mode_eq_input, operand]
      exact Or.inr (Or.inr ⟨mt awaits.mpr ended, passes ended⟩)
  · have implied : terms.mode = last.entryMode := Expression.mode_press (plain last (by simp))
    have someTerm : terms ≠ [] := by
      simp [terms, Expression.ofKeys_ne_nil plain]
    rw [unfolded, List.getLast?_concat, Option.any_some]
    rcases last.cases_kind with operand | lastOperator | control
    · have ended : terms.mode ≠ .input := by
        rw [implied]
        exact Key.entryMode_of_isOperand operand
      rw [Key.not_isOperator_of_isOperand operand]
      exact Or.inr (Or.inr ⟨mt awaits.mpr ended, passes ended⟩)
    · have input := implied.trans (Key.entryMode_of_isOperator lastOperator)
      exact Or.inr (Or.inl ⟨someTerm, awaits.mp input, if_pos lastOperator⟩)
    · simp [plain last (by simp)] at control

theorem refusal?_operand (terms : Expression) {key : Key} (operand : key.isOperand)
    (previous : Option Key) :
    ((terms.mode = .input ∨ terms.mode = key.entryMode) ∧
        terms.mode.refusal? key previous = none) ∨
      (terms.mode ≠ .input ∧ terms.mode ≠ key.entryMode ∧
        terms.mode.refusal? key previous = some .mixedType) := by
  have sound := Expression.mode_ne_error terms
  generalize terms.mode = mode at sound ⊢
  cases key <;> cases mode <;> simp_all [Key.isOperand, Key.entryMode, Mode.refusal?,
    Mode.imperialRefusal?, Mode.scalarRefusal?]

namespace Expression

theorem mode_append {front back : Expression} (nonempty : back ≠ []) :
    mode (front ++ back) = mode back := by
  rcases List.eq_nil_or_concat' back with rfl | ⟨start, last, rfl⟩
  · exact absurd rfl nonempty
  · rw [← List.append_assoc, mode_concat, mode_concat]

/-- A key that has its turn keeps operands and operators in turn. An operand may not be typed right
behind a result. -/
theorem alternates_concat_key {front : Expression} {log : List Key} {key : Key}
    (plain : ∀ key ∈ log, key.isControl = false) (alternates : Alternates (front ++ ofKeys log))
    (turn : key.HasTurn (mode (front ++ ofKeys log)))
    (apart : key.isOperand → front = [] ∨ log ≠ []) :
    Alternates (front ++ ofKeys (log ++ [key])) := by
  rcases turn with ⟨operand, ready⟩ | ⟨operator, ended⟩
  · obtain ⟨new, family, ⟨rest, old, was, same, pressed⟩ | ⟨other, pressed⟩⟩ :=
      ofKeys_operand log operand
    · rw [was, ← List.append_assoc] at alternates
      rw [pressed, ← List.append_assoc]
      exact (alternates_replace old.isOperand_term new.isOperand_term).mp alternates
    · have input : mode (front ++ ofKeys log) = .input := by
        refine ready.resolve_right ?_
        intro same
        by_cases empty : log = []
        · subst empty
          rw [(apart operand).resolve_right (by simp)] at same
          exact Key.entryMode_of_isOperand operand same.symm
        · rw [mode_append (ofKeys_ne_nil plain empty)] at same
          exact other same
      rw [pressed, ← List.append_assoc, alternates_concat]
      exact ⟨alternates, Or.inl ⟨(mode_eq_input_iff alternates).mp input, new.isOperand_term⟩⟩
  · rw [ofKeys_operator log operator, ← List.append_assoc, alternates_concat]
    exact ⟨alternates, Or.inr ⟨mt mode_eq_input_of_awaitsOperand ended, rfl⟩⟩

end Expression

end FeetInches
