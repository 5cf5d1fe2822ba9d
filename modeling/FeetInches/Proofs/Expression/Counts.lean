import FeetInches.Proofs.Expression.Canonical

namespace FeetInches

namespace TypedLength

theorem written_of_typeDigit {l : TypedLength} (tidy : l.Tidy) {pad : LengthPad}
    {d : Decimal.Digit} (written : ∀ other, Written ((l.typeDigit pad d).count other))
    (other : LengthPad) : Written (l.count other) := by
  have shorter {n : Int} (nonneg : 0 ≤ n) (written : Written (n * 10 + d.val)) : Written n := by
    rw [written_iff] at written ⊢
    omega
  have longer := written other
  cases pad <;> cases other
  · exact shorter tidy.feet longer
  · exact longer
  · exact longer
  · exact shorter tidy.inches longer

end TypedLength

namespace Expression

variable {front back terms : Expression} {log : List Key} {key : Key}

theorem countsWritten_append :
    CountsWritten (front ++ back) ↔ CountsWritten front ∧ CountsWritten back := by
  simp only [CountsWritten, List.mem_append, or_imp, forall_and]

theorem countsWritten_length (l : TypedLength) :
    CountsWritten [.typedLength l] ↔ ∀ pad, Written (l.count pad) := by
  simp [CountsWritten]

theorem countsWritten_of_other (other : ∀ l, .typedLength l ∉ terms) : CountsWritten terms :=
  fun l member => absurd member (other l)

theorem countsWritten_nil : CountsWritten [] := countsWritten_of_other (by simp)

theorem countsWritten_of_results (results : ∀ term ∈ terms, term.isResult) :
    CountsWritten terms := by
  refine countsWritten_of_other fun l member => ?_
  cases results _ member

theorem term_writes {term : Term} (tidy : term.Tidy) :
    WritesIf (CountsWritten [term]) term.text? := by
  cases term with
  | typedLength l =>
      rw [countsWritten_length]
      exact (l.text_writes tidy).map Text.ofString
  | typedNumber text => exact countsWritten_of_other (by simp)
  | operator symbol => exact countsWritten_of_other (by simp)
  | _ => exact False.elim tidy

theorem text_writes (writes : ∀ term ∈ terms, WritesIf (CountsWritten [term]) term.text?) :
    WritesIf terms.CountsWritten terms.text? := by
  induction terms with
  | nil => exact countsWritten_nil
  | cons first rest ih =>
      have before := writes first (by simp)
      have behind := ih fun term member => writes term (by simp [member])
      rw [show first :: rest = [first] ++ rest from rfl, countsWritten_append]
      exact before.both behind (· ++ ·)

theorem ofKeys_writes (log : List Key) : WritesIf (ofKeys log).CountsWritten (ofKeys log).text? :=
  text_writes fun term member => term_writes (Typing.tidy_ofKeys log term member)

theorem countsWritten_of_lengthKey {type : TypedLength → TypedLength}
    (presses : ∀ t : Typing, t.press key = t.onLength type)
    (shorter : ∀ l : TypedLength, l.Tidy → (∀ pad, Written ((type l).count pad)) →
      ∀ pad, Written (l.count pad))
    (written : CountsWritten (ofKeys (log ++ [key]))) : CountsWritten (ofKeys log) := by
  rw [ofKeys_lengthKey log presses, countsWritten_append, countsWritten_length] at written
  obtain ⟨before, last⟩ := written
  rcases beforeLength_cases (ofKeys log) with ⟨same, _⟩ | same
  · rwa [same] at before
  · have tidy : (openLength (ofKeys log)).Tidy :=
      Typing.tidy_ofKeys log _ (mem_of_beforeLength same)
    rw [same, countsWritten_append]
    exact ⟨before, (countsWritten_length _).mpr (shorter _ tidy last)⟩

theorem countsWritten_of_numberKey (operand : key.isOperand) (family : key.entryMode = .scalar)
    (written : CountsWritten (ofKeys (log ++ [key]))) : CountsWritten (ofKeys log) := by
  obtain ⟨new, _, ⟨front, old, was, scalar, pressed⟩ | ⟨_, pressed⟩⟩ := ofKeys_operand log operand
  · rw [pressed, countsWritten_append] at written
    rw [was, countsWritten_append]
    refine ⟨written.1, ?_⟩
    cases old with
    | length l => cases scalar.trans family
    | number text => exact countsWritten_of_other (by simp [Operand.term])
  · rw [pressed, countsWritten_append] at written
    exact written.1

theorem countsWritten_of_press (written : CountsWritten (ofKeys (log ++ [key]))) :
    CountsWritten (ofKeys log) := by
  cases key with
  | digit pad d =>
      refine countsWritten_of_lengthKey (fun t => rfl) (fun l tidy => ?_) written
      exact TypedLength.written_of_typeDigit tidy
  | fraction pad literal =>
      refine countsWritten_of_lengthKey (fun t => rfl) (fun l _ counts pad => ?_) written
      have same := counts pad
      cases pad <;> exact same
  | scalarDigit d => exact countsWritten_of_numberKey rfl rfl written
  | point => exact countsWritten_of_numberKey rfl rfl written
  | operator op =>
      rw [ofKeys_operator log rfl, countsWritten_append] at written
      exact written.1
  | equals =>
      rw [ofKeys_operator log rfl, countsWritten_append] at written
      exact written.1
  | control command =>
      rwa [ofKeys_control log rfl] at written

/-- With one key more all counts can be written if they could before, and none overflows. -/
theorem countsWritten_press (plain : key.isControl = false) :
    CountsWritten (ofKeys (log ++ [key])) ↔
      CountsWritten (ofKeys log) ∧ ¬ Overflows (ofKeys log) key := by
  have shows (written : CountsWritten (ofKeys log)) :
      CountsWritten (ofKeys (log ++ [key])) ↔ ¬ Overflows (ofKeys log) key := by
    have before := ofKeys_writes log
    have behind := ofKeys_writes (log ++ [key])
    cases display : text? (ofKeys log) with
    | error fault =>
        rw [display] at before
        exact absurd written before.2
    | ok shown =>
        have empty : ∀ term ∈ ([] : Expression), term.isResult := by simp
        have pressed := typed_writes empty plain display
        rw [List.nil_append, List.nil_append] at pressed
        cases more : text? (ofKeys (log ++ [key])) with
        | error fault =>
            rw [more] at behind pressed
            exact iff_of_false behind.2 pressed.2
        | ok text =>
            rw [more] at behind pressed
            exact iff_of_true behind pressed
  constructor
  · intro written
    have before := countsWritten_of_press written
    exact ⟨before, (shows before).mp written⟩
  · rintro ⟨written, short⟩
    exact (shows written).mpr short

/-! Taking back input -/

theorem countsWritten_eraseInput (written : terms.CountsWritten) :
    terms.eraseInput.CountsWritten := by
  rcases List.eq_nil_or_concat' terms with rfl | ⟨front, last, rfl⟩
  · exact written
  · rw [eraseInput_concat, countsWritten_append]
    rw [countsWritten_append] at written
    refine ⟨written.1, ?_⟩
    cases left : last.eraseInput with
    | none => exact countsWritten_nil
    | some shorter =>
        rcases Term.eraseInput_eq_some left with ⟨l, rfl, rfl⟩ | ⟨text, _, rfl, rfl⟩
        · have counts := (countsWritten_length l).mp written.2
          exact (countsWritten_length _).mpr (TypedLength.written_eraseInput counts)
        · exact countsWritten_of_other (by simp)

theorem Canonical.eraseInput (canonical : terms.Canonical) : Canonical terms.eraseInput := by
  rcases List.eq_nil_or_concat' terms with rfl | ⟨front, last, rfl⟩
  · exact canonical
  · rw [eraseInput_concat]
    cases left : last.eraseInput with
    | none => simpa using canonical.of_append
    | some shorter =>
        have tidy := Term.tidy_eraseInput (canonical.tidy last (by simp)) left
        obtain ⟨old, new, rfl, rfl, family⟩ := Operand.of_eraseInput left
        exact canonical.replace tidy family

end Expression

end FeetInches
