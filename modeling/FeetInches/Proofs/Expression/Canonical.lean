import FeetInches.Proofs.Expression.Erasure

namespace FeetInches

namespace Expression

/-- An expression as typing leaves it. Operators may follow one another, and equals signs may stand
anywhere. -/
structure Canonical (terms : Expression) : Prop where
  tidy : ∀ term ∈ terms, term.Tidy
  operators : terms.OperatorsHaveKeys
  apart : terms.IsChain Term.Apart

def CountsWritten (terms : Expression) : Prop :=
  ∀ l, .typedLength l ∈ terms → ∀ pad, Written (l.count pad)

theorem canonical_nil : Canonical [] :=
  ⟨by simp, by simp [OperatorsHaveKeys], List.isChain_nil⟩

variable {front terms : Expression} {last : Term}

theorem Canonical.of_append {back : Expression} (canonical : Canonical (front ++ back)) :
    Canonical front := by
  refine ⟨?_, ?_, canonical.apart.left_of_append⟩
  · intro term member
    exact canonical.tidy term (List.mem_append_left back member)
  · intro symbol member
    exact canonical.operators symbol (List.mem_append_left back member)

theorem Canonical.concat (canonical : terms.Canonical) (tidy : last.Tidy)
    (operator : ∀ symbol, last = .operator symbol → ∃ key : Key, key.isOperator ∧ key.text = symbol)
    (apart : ∀ previous ∈ terms.getLast?, Term.Apart previous last) :
    Canonical (terms ++ [last]) := by
  refine ⟨?_, ?_, List.isChain_append.mpr ⟨canonical.apart, List.isChain_singleton last, ?_⟩⟩
  · intro term member
    rcases List.mem_append.mp member with member | member
    · exact canonical.tidy term member
    · rw [List.mem_singleton.mp member]
      exact tidy
  · intro symbol member
    rcases List.mem_append.mp member with member | member
    · exact canonical.operators symbol member
    · exact operator symbol (List.mem_singleton.mp member).symm
  · intro previous found next only
    obtain rfl : last = next := by simpa using only
    exact apart previous found

theorem Canonical.concat_operand (canonical : terms.Canonical) {new : Operand}
    (tidy : new.term.Tidy) (apart : ∀ previous ∈ terms.getLast?, previous.mode ≠ new.term.mode) :
    Canonical (terms ++ [new.term]) := by
  refine canonical.concat tidy ?_ ?_
  · intro symbol same
    cases new <;> cases same
  · intro previous found _
    exact apart previous found

theorem Canonical.replace {old new : Operand} (canonical : Canonical (front ++ [old.term]))
    (tidy : new.term.Tidy) (family : new.term.mode = old.term.mode) :
    Canonical (front ++ [new.term]) := by
  refine canonical.of_append.concat_operand tidy ?_
  intro previous found
  have apart := (List.isChain_append.mp canonical.apart).2.2 previous found old.term (by simp)
  rw [family]
  exact apart old.isOperand_term

/-- One key more leaves an expression canonical, whatever the key. -/
theorem canonical_press {log : List Key} (canonical : Canonical (ofKeys log)) (key : Key) :
    Canonical (ofKeys (log ++ [key])) := by
  have tidy := Typing.tidy_ofKeys (log ++ [key])
  rw [← ofKeys_eq_terms] at tidy
  rcases key.cases_kind with operand | operator | control
  · obtain ⟨new, family, ⟨front, old, was, same, pressed⟩ | ⟨other, pressed⟩⟩ :=
      ofKeys_operand log operand
    · rw [was] at canonical
      rw [pressed] at tidy ⊢
      exact canonical.replace (tidy new.term (by simp)) (family.trans same.symm)
    · rw [pressed] at tidy ⊢
      refine canonical.concat_operand (tidy new.term (by simp)) ?_
      intro previous found
      obtain ⟨rest, same⟩ := List.getLast?_eq_some_iff.mp found
      rwa [same, mode_concat, ← family] at other
  · rw [ofKeys_operator log operator]
    refine canonical.concat trivial ?_ ?_
    · intro symbol same
      cases same
      exact ⟨key, operator, rfl⟩
    · intro previous _ operand
      cases operand
  · rw [ofKeys_control log control]
    exact canonical

theorem canonical_ofKeys (log : List Key) : Canonical (ofKeys log) := by
  induction log using List.reverseRecOn with
  | nil => exact canonical_nil
  | append_singleton log key ih => exact canonical_press ih key

theorem Canonical.shown (canonical : terms.Canonical) (written : terms.CountsWritten) :
    ∃ text, terms.text? = .ok text := by
  induction terms using List.reverseRecOn with
  | nil => exact ⟨[], rfl⟩
  | append_singleton front last ih =>
      have before := ih canonical.of_append fun l member =>
        written l (List.mem_append_left _ member)
      refine text?_concat_ok.mpr ⟨before, ?_⟩
      have tidy := canonical.tidy last (by simp)
      cases last with
      | typedLength l => exact (l.text?_ok tidy).mpr (written l (by simp))
      | typedNumber text => exact ⟨_, rfl⟩
      | operator symbol => exact ⟨_, rfl⟩
      | _ => exact False.elim tidy

theorem Canonical.typed_again (canonical : terms.Canonical) (written : terms.CountsWritten) :
    ∃ log, terms.keys = .ok log ∧ ofKeys log = terms := by
  obtain ⟨log, keys⟩ := keys_ok canonical.tidy canonical.operators (canonical.shown written)
  exact ⟨log, keys, ofKeys_keys canonical.tidy canonical.apart keys⟩

/-- Writing an expression as keys is the inverse of typing: the keys of a canonical expression type
it, and every log types one. -/
theorem keys_inverse_of_typing :
    (∀ terms : Expression, terms.Canonical → terms.CountsWritten →
      ∃ log, terms.keys = .ok log ∧ ofKeys log = terms) ∧
    ∀ log : List Key, (ofKeys log).Canonical ∧
      ((ofKeys log).CountsWritten →
        ∃ again, (ofKeys log).keys = .ok again ∧ ofKeys again = ofKeys log) := by
  constructor
  · intro terms canonical written
    exact canonical.typed_again written
  · intro log
    exact ⟨canonical_ofKeys log, fun written => (canonical_ofKeys log).typed_again written⟩

/-- 12ft 4 3/8in x 2.5 = 0 as keys and back, and the log of 7.1 with the point pressed twice. -/
theorem length_and_numbers_typed_again :
    let terms : Expression := [.typedLength ⟨12, 4, 3, 8⟩, .operator "x", .typedNumber "2.5",
      .operator "=", .typedLength {}]
    let log : List Key := [.scalarDigit 7, .point, .control .backspace, .point, .scalarDigit 1]
    terms.Canonical ∧ terms.CountsWritten ∧
      (∃ keys, terms.keys = .ok keys ∧ ofKeys keys = terms) ∧
      (ofKeys log).CountsWritten ∧
      ∃ keys, (ofKeys log).keys = .ok keys ∧ ofKeys keys = ofKeys log := by
  intro terms log
  have fraction : Fraction.Proper ⟨3, 8⟩ := ⟨by decide, by decide, by decide⟩
  have number : TidyNumber "2.5" := ⟨by decide, by decide, by decide⟩
  have canonical : terms.Canonical := by
    refine ⟨?_, ?_, ?_⟩
    · simp only [terms, List.forall_mem_cons]
      exact ⟨⟨by decide, by decide, Or.inr fraction⟩, trivial, number, trivial,
        TypedLength.tidy_empty, by simp⟩
    · intro symbol member
      simp only [terms, List.mem_cons, reduceCtorEq, Term.operator.injEq, false_or, or_false,
        List.not_mem_nil] at member
      rcases member with rfl | rfl
      · exact ⟨.operator .times, rfl, rfl⟩
      · exact ⟨.equals, rfl, rfl⟩
    · simp [terms, Term.Apart, Term.isOperand, Term.mode]
  have written : terms.CountsWritten := by
    intro l member pad
    simp only [terms, List.mem_cons, reduceCtorEq, Term.typedLength.injEq, false_or, or_false,
      List.not_mem_nil] at member
    rcases member with rfl | rfl
    · cases pad <;> exact written_small (by decide)
    · cases pad <;> exact written_small (by decide)
  have logged : (ofKeys log).CountsWritten := by
    have typed : ofKeys log = [.typedNumber "7.1"] := by decide
    intro l member
    simp [typed] at member
  exact ⟨canonical, written, keys_inverse_of_typing.1 terms canonical written, logged,
    (keys_inverse_of_typing.2 log).2 logged⟩

end Expression

end FeetInches
