import FeetInches.Proofs.Keypad.Admission
import Mathlib.Tactic.TFAE

namespace FeetInches

namespace Keypad

/-- Every key is admitted behind the key before it and in the mode it finds, and then pressed. -/
def Admits (k : Keypad) (previous : Option Key) : List Key → Prop
  | [] => True
  | key :: rest => k.mode.refusal? key previous = none ∧ (k.press key).Admits (some key) rest

instance decidableAdmits (k : Keypad) (previous : Option Key) (log : List Key) :
    Decidable (k.Admits previous log) :=
  match log with
  | [] => inferInstanceAs (Decidable True)
  | key :: rest =>
    have := decidableAdmits (k.press key) (some key) rest
    inferInstanceAs (Decidable (k.mode.refusal? key previous = none ∧ _))

theorem admits_concat (k : Keypad) (previous : Option Key) (log : List Key) (key : Key) :
    k.Admits previous (log ++ [key]) ↔
      k.Admits previous log ∧
        (k.replay log).mode.refusal? key (log.getLast?.or previous) = none := by
  induction log generalizing k previous with
  | nil => simp [Admits, replay]
  | cons first rest ih =>
      have last : ((first :: rest).getLast?.or previous) = rest.getLast?.or (some first) := by
        cases rest <;> simp [List.getLast?_cons]
      rw [List.cons_append, Admits, Admits, ih, last, and_assoc]
      rfl

theorem press_mode_ne_error (k : Keypad) {key : Key} (plain : key.isControl = false) :
    (k.press key).mode ≠ .error ↔ k.mode ≠ .error ∧ key.HasTurn k.mode := by
  cases key with
  | digit pad d | fraction pad literal =>
      cases pad <;> cases mode : k.mode <;>
        simp [press, typeLength, onLengthPad, mode, Key.HasTurn, Key.isOperand, Key.isOperator,
          Key.entryMode]
  | scalarDigit d | point =>
      cases mode : k.mode <;>
        simp [press, typeScalar, mode, Key.HasTurn, Key.isOperand, Key.isOperator, Key.entryMode]
  | operator op | equals =>
      cases mode : k.mode <;>
        simp [press, pressOperator, mode, Key.HasTurn, Key.isOperand, Key.isOperator]
  | control command => cases plain

theorem press_operator_mode (k : Keypad) {key : Key} (operator : key.isOperator) :
    (k.press key).mode = .input ∨ (k.press key).mode = .error := by
  cases key with
  | operator op | equals => cases mode : k.mode <;> simp [press, pressOperator, mode]
  | _ => cases operator

end Keypad

/-- Where the key before an operator shows in the mode, only the keys in turn are admitted. -/
theorem Mode.refusal?_eq_none_iff {mode : Mode} {key : Key} {previous : Option Key}
    (plain : key.isControl = false)
    (shows : ∀ last ∈ previous, last.isOperator → mode = .input ∨ mode = .error) :
    mode.refusal? key previous = none ↔ mode ≠ .error ∧ key.HasTurn mode := by
  cases key with
  | digit pad d | fraction pad literal =>
      cases mode <;>
        simp [refusal?, imperialRefusal?, Key.HasTurn, Key.isOperand, Key.isOperator,
          Key.entryMode]
  | scalarDigit d | point =>
      cases mode <;>
        simp [refusal?, scalarRefusal?, Key.HasTurn, Key.isOperand, Key.isOperator, Key.entryMode]
  | operator op | equals =>
      by_cases second : previous.any Key.isOperator
      · obtain ⟨last, found, operator⟩ := (Option.any_eq_true _ _).mp second
        rcases shows last found operator with rfl | rfl <;>
          simp [refusal?, second, Key.HasTurn, Key.isOperand]
      · cases mode <;>
          simp [refusal?, second, operatorRefusal?, Key.HasTurn, Key.isOperand, Key.isOperator]
  | control command => cases plain

section

variable {log : List Key} {key : Key}

theorem Expression.alternates_ofKeys_concat (plain : ∀ key ∈ log, key.isControl = false)
    (plainKey : key.isControl = false) :
    (ofKeys (log ++ [key])).Alternates ↔
      (ofKeys log).Alternates ∧ key.HasTurn (ofKeys log).mode := by
  constructor
  · intro alternates
    exact @alternates_press [] log key plainKey alternates
  · rintro ⟨before, turn⟩
    exact @alternates_concat_key [] log key plain before turn fun _ => Or.inl rfl

namespace Keypad

/-- Admission keeps out just the keys that lead to the error mode. -/
theorem admits_iff {k : Keypad} (ready : k.mode ≠ .error)
    (plain : ∀ key ∈ log, key.isControl = false) :
    k.Admits none log ↔ (k.replay log).mode ≠ .error := by
  induction log using List.reverseRecOn with
  | nil => simpa [Admits, replay] using ready
  | append_singleton log key ih =>
      have before := ih fun key member => plain key (List.mem_append_left _ member)
      have plainKey := plain key (by simp)
      have shows : ∀ last ∈ log.getLast?, last.isOperator →
          (k.replay log).mode = .input ∨ (k.replay log).mode = .error := by
        intro last found operator
        obtain ⟨rest, rfl⟩ := List.getLast?_eq_some_iff.mp found
        rw [replay_concat]
        exact press_operator_mode _ operator
      rw [admits_concat, Option.or_none, before, Mode.refusal?_eq_none_iff plainKey shows,
        replay_concat, press_mode_ne_error _ plainKey, and_self_left]

theorem replay_mode_ne_error (denominator : Int) (plain : ∀ key ∈ log, key.isControl = false) :
    ((initial denominator).replay log).mode ≠ .error ↔ (Expression.ofKeys log).Alternates := by
  induction log using List.reverseRecOn with
  | nil => simp [replay, initial]
  | append_singleton log key ih =>
      have plainLog : ∀ key ∈ log, key.isControl = false :=
        fun key member => plain key (List.mem_append_left _ member)
      have plainKey := plain key (by simp)
      rw [replay_concat, press_mode_ne_error _ plainKey, ih plainLog,
        Expression.alternates_ofKeys_concat plainLog plainKey]
      refine and_congr_right fun alternates => ?_
      rw [@mode_replay [] _ log rfl plainLog alternates, List.nil_append]

/-- Admission key by key, the mode of the keypads and the terms of the expression tell apart the
same logs. -/
theorem log_accepted_tfae (denominator : Int) (plain : ∀ key ∈ log, key.isControl = false) :
    [(initial denominator).Admits none log,
      ((initial denominator).replay log).mode ≠ .error,
      (Expression.ofKeys log).Alternates].TFAE := by
  tfae_have 1 ↔ 2 := admits_iff (by simp [initial]) plain
  tfae_have 2 ↔ 3 := replay_mode_ne_error denominator plain
  tfae_finish

/-- 1 2 + 3 . = 4, with a length in front of the plus sign and numbers behind it. -/
theorem length_and_numbers_accepted :
    let log : List Key := [.digit .feet 1, .digit .inches 2, .operator .plus, .scalarDigit 3,
      .point, .equals, .scalarDigit 4]
    (∀ key ∈ log, key.isControl = false) ∧ (initial 8).Admits none log ∧
      ((initial 8).replay log).mode ≠ .error ∧ (Expression.ofKeys log).Alternates := by
  intro log
  have plain : ∀ key ∈ log, key.isControl = false := by decide
  have admitted : (initial 8).Admits none log := by decide
  have accepted := log_accepted_tfae 8 plain
  exact ⟨plain, admitted, (accepted.out 0 1).mp admitted, (accepted.out 0 2).mp admitted⟩

end Keypad

end

end FeetInches
