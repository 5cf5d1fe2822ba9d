import FeetInches.Keypad.Admission
import FeetInches.Proofs.Expression.Typing

namespace FeetInches

/-- An operand goes on in its own mode or starts from the input mode, and an operator ends it. -/
def Key.HasTurn (key : Key) (mode : Mode) : Prop :=
  key.isOperand ∧ (mode = .input ∨ mode = key.entryMode) ∨ key.isOperator ∧ mode ≠ .input

theorem Key.HasTurn.ready {key : Key} {mode : Mode} (turn : key.HasTurn mode)
    (operand : key.isOperand) : mode = .input ∨ mode = key.entryMode := by
  rcases turn with ⟨_, ready⟩ | ⟨operator, _⟩
  · exact ready
  · simp [Key.not_isOperator_of_isOperand operand] at operator

namespace Keypad

theorem typeLength_of_ready {k : Keypad} (ready : k.mode = .input ∨ k.mode = .imperial)
    (pad : LengthPad) (edit : PadValue → PadValue) :
    k.typeLength pad edit =
      { k.onLengthPad pad edit with activePad := some (.length pad), mode := .imperial } := by
  rcases k with ⟨mode, _, _, _, _, _⟩
  rcases ready with ready | ready <;> cases ready <;> cases pad <;> rfl

theorem typeScalar_of_ready {k : Keypad} (ready : k.mode = .input ∨ k.mode = .scalar)
    (edit : Text → Text) :
    k.typeScalar edit =
      { k with scalar := edit k.scalar, activePad := some .scalar, mode := .scalar } := by
  rcases k with ⟨mode, _, _, _, _, _⟩
  rcases ready with ready | ready <;> cases ready <;> rfl

theorem pressOperator_frame (k : Keypad) :
    k.pressOperator = { k with mode := k.pressOperator.mode } := by
  unfold pressOperator
  split <;> rfl

theorem press_denominator (k : Keypad) (key : Key) :
    (k.press key).denominator = k.denominator := by
  cases key with
  | digit pad d | fraction pad literal =>
      cases pad <;> cases mode : k.mode <;>
        simp [press, typeLength, onLengthPad, mode]
  | scalarDigit d => cases mode : k.mode <;> simp [press, typeScalar, mode]
  | point => cases mode : k.mode <;> simp [press, typeScalar, mode]
  | operator op => cases mode : k.mode <;> simp [press, pressOperator, mode]
  | equals => cases mode : k.mode <;> simp [press, pressOperator, mode]
  | control command =>
      cases command with
      | clear => rfl
      | backspace =>
          rcases active : k.activePad with _ | ⟨_ | _⟩ | _ <;>
            simp [press, control, eraseDigit, onLengthPad, active]
      | errorTimeout =>
          simp only [press, control]
          split <;> rfl

theorem replay_denominator (k : Keypad) (log : List Key) :
    (k.replay log).denominator = k.denominator := by
  induction log generalizing k with
  | nil => rfl
  | cons key log ih => exact (ih (k.press key)).trans (press_denominator k key)

theorem replay_concat (k : Keypad) (log : List Key) (key : Key) :
    k.replay (log ++ [key]) = (k.replay log).press key := by
  simp [replay]

theorem press_mode {k : Keypad} {key : Key} (noError : k.mode ≠ .error)
    (turn : key.HasTurn k.mode) : (k.press key).mode = key.entryMode := by
  cases key with
  | digit pad d | fraction pad literal =>
      rw [press, typeLength_of_ready (turn.ready rfl)]
      rfl
  | scalarDigit d | point =>
      rw [press, typeScalar_of_ready (turn.ready rfl)]
      rfl
  | operator op | equals =>
      have ended : k.mode ≠ .input := (turn.resolve_left fun first => by cases first.1).2
      cases mode : k.mode with
      | input => exact absurd mode ended
      | error => exact absurd mode noError
      | imperial | scalar => simp [press, pressOperator, mode, Key.entryMode]
  | control command => rcases turn with ⟨operand, _⟩ | ⟨operator, _⟩ <;> contradiction

end Keypad

namespace Expression

variable {front : Expression} {log : List Key} {key : Key}

theorem ofKeys_ne_nil (plain : ∀ key ∈ log, key.isControl = false) (typed : log ≠ []) :
    ofKeys log ≠ [] := by
  rcases List.eq_nil_or_concat' log with rfl | ⟨before, last, rfl⟩
  · exact absurd rfl typed
  · rcases last.cases_kind with operand | operator | control
    · obtain ⟨new, _, ⟨_, _, _, _, pressed⟩ | ⟨_, pressed⟩⟩ := ofKeys_operand before operand
      · simp [pressed]
      · simp [pressed]
    · simp [ofKeys_operator before operator]
    · simp [plain last (by simp)] at control

theorem operator_mem_ofKeys (plain : ∀ key ∈ log, key.isControl = false) (symbol : Text) :
    .operator symbol ∈ ofKeys log ↔ ∃ key ∈ log, key.isOperator ∧ key.text = symbol := by
  induction log using List.reverseRecOn with
  | nil => simp
  | append_singleton log key ih =>
      have before := ih fun key member => plain key (List.mem_append_left [_] member)
      have different (new : Operand) : Term.operator symbol ≠ new.term := by
        cases new <;> simp [Operand.term]
      rcases key.cases_kind with operand | operator | control
      · have notOperator := Key.not_isOperator_of_isOperand operand
        obtain ⟨new, _, ⟨rest, old, was, _, pressed⟩ | ⟨_, pressed⟩⟩ := ofKeys_operand log operand
        · rw [was] at before
          simp [pressed, notOperator, different, ← before]
        · simp [pressed, notOperator, different, before]
      · simp [ofKeys_operator log operator, operator, before, or_and_right, exists_or,
          @eq_comm _ symbol]
      · simp [plain key (by simp)] at control

/-- Where an expression with one key more alternates, it did so before, and the key had its
turn. -/
theorem alternates_press (plain : key.isControl = false)
    (alternates : Alternates (front ++ ofKeys (log ++ [key]))) :
    Alternates (front ++ ofKeys log) ∧ key.HasTurn (mode (front ++ ofKeys log)) := by
  rcases key.cases_kind with operand | operator | control
  · obtain ⟨new, family, ⟨rest, old, was, same, pressed⟩ | ⟨_, pressed⟩⟩ :=
      ofKeys_operand log operand
    · rw [pressed, ← List.append_assoc,
        ← alternates_replace old.isOperand_term new.isOperand_term] at alternates
      rw [was, ← List.append_assoc, mode_concat]
      exact ⟨alternates, Or.inl ⟨operand, Or.inr same⟩⟩
    · rw [pressed, ← List.append_assoc, alternates_concat] at alternates
      have awaits : AwaitsOperand (front ++ ofKeys log) := by
        simpa [new.isOperand_term, Term.not_isOperator_of_isOperand] using alternates.2
      exact ⟨alternates.1, Or.inl ⟨operand, Or.inl (mode_eq_input_of_awaitsOperand awaits)⟩⟩
  · rw [ofKeys_operator log operator, ← List.append_assoc, alternates_concat] at alternates
    obtain ⟨before, follows⟩ := alternates
    have ended : ¬ AwaitsOperand (front ++ ofKeys log) := by
      simpa [Term.isOperand, Term.isOperator] using follows
    exact ⟨before, Or.inr ⟨operator, mt (mode_eq_input_iff before).mp ended⟩⟩
  · simp [plain] at control

theorem mode_press (plain : key.isControl = false) :
    mode (front ++ ofKeys (log ++ [key])) = key.entryMode := by
  rcases key.cases_kind with operand | operator | control
  · obtain ⟨new, family, ⟨_, _, _, _, pressed⟩ | ⟨_, pressed⟩⟩ := ofKeys_operand log operand
    · rw [pressed, ← List.append_assoc, mode_concat, family]
    · rw [pressed, ← List.append_assoc, mode_concat, family]
  · rw [ofKeys_operator log operator, ← List.append_assoc, mode_concat,
      Key.entryMode_of_isOperator operator]
    rfl
  · simp [plain] at control

theorem isChain_of_alternates (plain : ∀ key ∈ log, key.isControl = false)
    (alternates : Alternates (front ++ ofKeys log)) :
    log.IsChain fun first second => ¬ (first.isOperator ∧ second.isOperator) := by
  induction log using List.reverseRecOn with
  | nil => exact List.isChain_nil
  | append_singleton log key ih =>
      obtain ⟨before, turn⟩ := alternates_press (plain key (by simp)) alternates
      have chain := ih (fun key member => plain key (List.mem_append_left _ member)) before
      refine List.isChain_append.mpr ⟨chain, List.isChain_singleton key, ?_⟩
      intro previous last next only
      obtain rfl : key = next := by simpa using only
      rintro ⟨previousOperator, operator⟩
      obtain ⟨rest, rfl⟩ := List.getLast?_eq_some_iff.mp last
      rcases turn with ⟨operand, _⟩ | ⟨_, ended⟩
      · simp [Key.not_isOperator_of_isOperand operand] at operator
      · rw [mode_press (plain previous (by simp)),
          Key.entryMode_of_isOperator previousOperator] at ended
        exact ended rfl

end Expression

theorem Keypad.mode_replay {front : Expression} {base : Keypad} {log : List Key}
    (start : base.mode = front.mode) (plain : ∀ key ∈ log, key.isControl = false)
    (alternates : (front ++ Expression.ofKeys log).Alternates) :
    (base.replay log).mode = (front ++ Expression.ofKeys log).mode := by
  induction log using List.reverseRecOn with
  | nil => simpa [replay] using start
  | append_singleton log key ih =>
      obtain ⟨before, turn⟩ := Expression.alternates_press (plain key (by simp)) alternates
      have follows := ih (fun key member => plain key (List.mem_append_left _ member)) before
      rw [replay_concat, Expression.mode_press (plain key (by simp))]
      refine press_mode ?_ (by rwa [follows])
      rw [follows]
      exact Expression.mode_ne_error _

/-- What holds of the keypads before a log and is kept by each key of it that has its turn holds
after the log, if the log goes on with an expression that alternates. -/
theorem Keypad.replay_induction {front : Expression} {base : Keypad} {log : List Key}
    {motive : List Key → Keypad → Prop} (start : base.mode = front.mode)
    (plain : ∀ key ∈ log, key.isControl = false)
    (alternates : (front ++ Expression.ofKeys log).Alternates) (first : motive [] base)
    (press : ∀ before k key, key.isControl = false → key.HasTurn k.mode → motive before k →
      motive (before ++ [key]) (k.press key)) :
    motive log (base.replay log) := by
  induction log using List.reverseRecOn with
  | nil => exact first
  | append_singleton log key ih =>
      obtain ⟨before, turn⟩ := Expression.alternates_press (plain key (by simp)) alternates
      have plainBefore : ∀ key ∈ log, key.isControl = false := by
        intro key member
        exact plain key (List.mem_append_left _ member)
      rw [← mode_replay start plainBefore before] at turn
      rw [replay_concat]
      exact press log _ key (plain key (by simp)) turn (ih plainBefore before)

end FeetInches
