import FeetInches.Proofs.Calculator.Order
import FeetInches.Proofs.Calculator.Step

namespace FeetInches.Calculator

structure Steady (c : Calculator) : Prop where
  plain : ∀ key ∈ c.log, key.isControl = false
  carried : ∀ result ∈ c.carry, result.isResult
  alternates : c.terms.Alternates
  mode : c.keypad.mode ≠ .error → c.keypad.mode = c.terms.mode

theorem steady_rebuild {c : Calculator} (plain : ∀ key ∈ c.log, key.isControl = false)
    (carried : ∀ result ∈ c.carry, result.isResult) (alternates : c.terms.Alternates) :
    c.rebuild.Steady :=
  ⟨plain, carried, alternates, fun _ => rebuild_mode plain alternates⟩

theorem steady_of_empty {c : Calculator} (log : c.log = []) (carry : c.carry = none)
    (input : c.keypad.mode = .input) : c.Steady := by
  have empty : c.terms = [] := by
    rw [terms, log, carry]
    rfl
  refine ⟨by simp [log], by simp [carry], ?_, fun _ => ?_⟩
  · rw [empty]
    exact Expression.alternates_nil
  · rw [empty, input]
    rfl

namespace Steady

variable {c d : Calculator}

theorem results (steady : c.Steady) : ∀ term ∈ c.carry.toList, term.isResult := by
  intro term member
  exact steady.carried term (Option.mem_toList.mp member)

theorem rebuild (steady : c.Steady) : c.rebuild.Steady :=
  steady_rebuild steady.plain steady.carried steady.alternates

theorem cancelTimers (steady : c.Steady) : c.cancelTimers.Steady :=
  ⟨steady.plain, steady.carried, steady.alternates, steady.mode⟩

theorem recover (steady : c.Steady) : c.recover.Steady ∧ c.recover.keypad.mode ≠ .error := by
  unfold Calculator.recover
  split
  · refine ⟨steady.rebuild, ?_⟩
    rw [rebuild_mode steady.plain steady.alternates]
    exact Expression.mode_ne_error _
  · rename_i other
    exact ⟨steady, other⟩

theorem rejecting (steady : c.Steady) (error : CalcError) : (c.rejecting error).Steady := by
  rw [rejecting_frame]
  exact ⟨steady.plain, steady.carried, steady.alternates, fun other => absurd rfl other⟩

theorem readied (steady : c.Steady) (key : Key) :
    (c.readied key).Steady ∧ (c.readied key).keypad.mode = (c.readied key).terms.mode ∧
      (key.isOperand → (c.readied key).carry = none ∨ (c.readied key).log ≠ []) := by
  obtain ⟨recovered, other⟩ := steady.cancelTimers.recover
  unfold Calculator.readied dropCarry
  split
  · rename_i dropped
    have empty : c.cancelTimers.recover.log = [] := by
      simp only [Bool.and_eq_true, List.isEmpty_iff] at dropped
      exact dropped.2
    have fresh := steady_of_empty (c := { c.cancelTimers.recover with
      carry := none, keypad := .initial c.cancelTimers.recover.denominator }) empty rfl rfl
    exact ⟨fresh, fresh.mode (by simp [Keypad.initial]), fun _ => Or.inl rfl⟩
  · rename_i kept
    refine ⟨recovered, recovered.mode other, ?_⟩
    intro operand
    by_contra both
    rw [not_or, not_not] at both
    refine kept ?_
    rw [operand, both.2, Option.isSome_iff_ne_none.mpr both.1]
    rfl

theorem turn (steady : c.Steady) (tracked : c.keypad.mode = c.terms.mode) {key : Key}
    (plain : key.isControl = false) (admitted : c.refusal? key = none) :
    key.HasTurn c.terms.mode := by
  rw [refusal?, tracked] at admitted
  rcases key.cases_kind with operand | operator | control
  · left
    rcases refusal?_operand c.terms operand c.log.getLast? with ⟨ready, _⟩ | ⟨_, _, refused⟩
    · exact ⟨operand, ready⟩
    · rw [admitted] at refused
      cases refused
  · right
    refine ⟨operator, ?_⟩
    rcases refusal?_operator steady.results steady.plain steady.alternates operator
      with ⟨_, refused⟩ | ⟨_, _, refused⟩ | ⟨ended, _⟩
    · exact absurd (admitted.symm.trans refused) (by simp)
    · exact absurd (admitted.symm.trans refused) (by simp)
    · exact mt (Expression.mode_eq_input_iff steady.alternates).mp ended
  · simp [plain] at control

theorem typed (steady : c.Steady) (tracked : c.keypad.mode = c.terms.mode) {key : Key}
    (plain : key.isControl = false) (apart : key.isOperand → c.carry = none ∨ c.log ≠ [])
    (admitted : c.refusal? key = none) : (c.typed key).Steady := by
  have turn := steady.turn tracked plain admitted
  have front : key.isOperand → c.carry.toList = [] ∨ c.log ≠ [] := by
    intro operand
    exact (apart operand).imp_left fun dropped => by rw [dropped]; rfl
  refine ⟨?_, steady.carried,
    Expression.alternates_concat_key steady.plain steady.alternates turn front, fun _ => ?_⟩
  · intro other member
    rcases List.mem_append.mp member with member | member
    · exact steady.plain other member
    · rw [List.mem_singleton.mp member]
      exact plain
  · refine (Keypad.press_mode ?_ ?_).trans (Expression.mode_press plain).symm
    · rw [tracked]
      exact Expression.mode_ne_error _
    · rw [tracked]
      exact turn

theorem withdrawn (steady : c.Steady) : (c.typed .equals).withdrawn.Steady := by
  have log : (c.typed .equals).log.dropLast = c.log := List.dropLast_concat
  refine steady_rebuild ?_ steady.carried ?_
  · rw [log]
    exact steady.plain
  · rw [terms, log]
    exact steady.alternates

end Steady

end FeetInches.Calculator
