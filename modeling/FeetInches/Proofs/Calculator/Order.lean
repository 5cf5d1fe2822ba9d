import FeetInches.Proofs.Calculator.Run
import FeetInches.Proofs.Expression.Transcript
import FeetInches.Proofs.Keypad.Admission

namespace FeetInches

theorem Arith.symbol_ne_equals (op : Arith) : (op.symbol : Text) ≠ equalsSymbol := by
  cases op <;> decide

namespace Expression

/-- An expression that a calculator can hold: operands and arithmetic operators in turn, typed but
for a result in first place. -/
structure Orderly (terms : Expression) : Prop where
  alternates : Alternates terms
  arithmetic : Arithmetic terms
  first : ∀ term ∈ terms.head?, term.isResult ∨ term.Tidy
  others : ∀ term ∈ terms.tail, term.Tidy

theorem Orderly.front {front back : Expression} (orderly : Orderly (front ++ back)) :
    Orderly front := by
  refine ⟨alternates_front orderly.alternates, ?_, ?_, ?_⟩
  · intro term member
    exact orderly.arithmetic term (List.mem_append_left back member)
  · intro term found
    exact orderly.first term (List.mem_head?_append_of_mem_head? found)
  · intro term member
    refine orderly.others term ?_
    cases front with
    | nil => cases member
    | cons head tail => exact List.mem_append_left back member

theorem Orderly.replace {front : Expression} {old new : Term} (orderly : Orderly (front ++ [old]))
    (oldOperand : old.isOperand) (newOperand : new.isOperand) (tidy : new.Tidy) :
    Orderly (front ++ [new]) := by
  have before := orderly.front
  refine ⟨(alternates_replace oldOperand newOperand).mp orderly.alternates, ?_, ?_, ?_⟩
  · intro term member operator
    rcases List.mem_append.mp member with member | member
    · exact before.arithmetic term member operator
    · rw [List.mem_singleton.mp member, Term.not_isOperator_of_isOperand newOperand] at operator
      cases operator
  · intro term found
    cases front with
    | nil =>
        obtain rfl : new = term := by simpa using found
        exact Or.inr tidy
    | cons head tail => exact before.first term found
  · intro term member
    cases front with
    | nil => cases member
    | cons head tail =>
        rcases List.mem_append.mp member with member | member
        · exact before.others term member
        · rw [List.mem_singleton.mp member]
          exact tidy

theorem Orderly.last {front : Expression} {last : Term} (orderly : Orderly (front ++ [last])) :
    last.isResult ∨ last.Tidy := by
  cases front with
  | nil => exact orderly.first last rfl
  | cons head tail => exact Or.inr (orderly.others last (List.mem_append_right tail (by simp)))

theorem Orderly.eraseInput {terms : Expression} (orderly : Orderly terms) :
    Orderly terms.eraseInput := by
  rcases List.eq_nil_or_concat' terms with rfl | ⟨front, last, rfl⟩
  · exact orderly
  · rw [eraseInput_concat]
    cases left : last.eraseInput with
    | none => simpa using orderly.front
    | some shorter =>
        obtain ⟨old, new, rfl, rfl, _⟩ := Operand.of_eraseInput left
        have tidy : old.term.Tidy :=
          orderly.last.resolve_left (by cases old <;> exact Bool.false_ne_true)
        exact orderly.replace old.isOperand_term new.isOperand_term (Term.tidy_eraseInput tidy left)

theorem Orderly.dropFraction {front : Expression} {l : TypedLength}
    (orderly : Orderly (front ++ [.typedLength l])) :
    Orderly (front ++ [.typedLength l.dropFraction]) := by
  refine orderly.replace rfl rfl ?_
  exact TypedLength.tidy_dropFraction (orderly.last.resolve_left (by simp [Term.isResult]))

end Expression

/-- A carried result and a log as they stand between two actions. -/
structure InOrder (carry : Option Term) (log : List Key) : Prop where
  plain : ∀ key ∈ log, key.isControl = false
  unanswered : .equals ∉ log
  carried : ∀ result ∈ carry, result.isResult
  alternates : Expression.Alternates (carry.toList ++ Expression.ofKeys log)

namespace InOrder

open Expression

variable {carry : Option Term} {log : List Key}

theorem results (order : InOrder carry log) : ∀ term ∈ carry.toList, term.isResult := by
  intro term member
  exact order.carried term (Option.mem_toList.mp member)

theorem empty : InOrder none [] :=
  ⟨by simp, by simp, by simp, alternates_nil⟩

theorem result {term : Term} (isResult : term.isResult) : InOrder (some term) [] :=
  ⟨by simp, by simp, by simpa using isResult,
    (alternates_singleton term).mpr (Term.isOperand_of_isResult isResult)⟩

theorem concat (order : InOrder carry log) {key : Key} (plain : key.isControl = false)
    (notEquals : key ≠ .equals)
    (alternates : Alternates (carry.toList ++ ofKeys (log ++ [key]))) :
    InOrder carry (log ++ [key]) := by
  refine ⟨?_, ?_, order.carried, alternates⟩
  · intro other member
    rcases List.mem_append.mp member with member | member
    · exact order.plain other member
    · rw [List.mem_singleton.mp member]
      exact plain
  · intro member
    rcases List.mem_append.mp member with member | member
    · exact order.unanswered member
    · exact notEquals (List.mem_singleton.mp member).symm

theorem arithmetic (order : InOrder carry log) : Arithmetic (carry.toList ++ ofKeys log) := by
  intro term member operator
  rcases List.mem_append.mp member with member | member
  · have result := order.results term member
    cases term <;> simp_all [Term.isResult, Term.isOperator]
  · cases term with
    | operator symbol =>
        obtain ⟨key, pressed, isOperator, rfl⟩ :=
          (operator_mem_ofKeys order.plain symbol).mp member
        cases key with
        | operator op => exact ⟨op, rfl⟩
        | equals => exact absurd pressed order.unanswered
        | _ => cases isOperator
    | _ => cases operator

theorem orderly (order : InOrder carry log) : Orderly (carry.toList ++ ofKeys log) := by
  refine ⟨order.alternates, order.arithmetic, ?_, ?_⟩
  · intro term found
    cases carry with
    | none => exact Or.inr (Typing.tidy_ofKeys log term (List.mem_of_mem_head? found))
    | some result =>
        obtain rfl : result = term := by simpa using found
        exact Or.inl (order.carried result rfl)
  · intro term member
    cases carry with
    | none => exact Typing.tidy_ofKeys log term (List.mem_of_mem_tail member)
    | some result => exact Typing.tidy_ofKeys log term member

theorem spaced (order : InOrder carry log) :
    log.IsChain fun first second => ¬ (first.isOperator ∧ second.isOperator) :=
  isChain_of_alternates order.plain order.alternates

end InOrder

namespace Calculator

theorem store_eq (c : Calculator) {carry : Option Term} {rest : Expression}
    (carried : ∀ result ∈ carry, result.isResult) (tidy : ∀ term ∈ rest, term.Tidy) :
    c.store (carry.toList ++ rest) =
      match Expression.keys rest with
      | .ok log => ({ c with carry := carry, log := log }, .ok ())
      | .error fault => ({ c with carry := carry }, .error fault) := by
  cases carry with
  | some result =>
      have isResult : result.isResult := carried result rfl
      cases written : Expression.keys rest <;>
        simp only [store, Option.toList_some, List.singleton_append, isResult, if_true, written]
  | none =>
      cases rest with
      | nil => rfl
      | cons first others =>
          have typed := Term.not_isResult_of_tidy (tidy first (by simp))
          cases written : Expression.keys (first :: others) <;>
            simp only [store, Option.toList_none, List.nil_append, typed, if_false,
              Bool.false_eq_true, written]

theorem store_cases (c : Calculator) {terms : Expression} (orderly : terms.Orderly) :
    ∃ carry rest, terms = carry.toList ++ rest ∧ (∀ result ∈ carry, result.isResult) ∧
      (∀ term ∈ rest, term.Tidy) ∧
      c.store terms =
        match Expression.keys rest with
        | .ok log => ({ c with carry := carry, log := log }, .ok ())
        | .error fault => ({ c with carry := carry }, .error fault) := by
  obtain ⟨carry, rest, rfl, carried, tidy⟩ : ∃ (carry : Option Term) (rest : Expression),
      terms = carry.toList ++ rest ∧ (∀ result ∈ carry, result.isResult) ∧
        ∀ term ∈ rest, term.Tidy := by
    cases terms with
    | nil => exact ⟨none, [], rfl, by simp, by simp⟩
    | cons first rest =>
        by_cases result : first.isResult
        · exact ⟨some first, rest, rfl, by simpa using result, orderly.others⟩
        · refine ⟨none, first :: rest, rfl, by simp, ?_⟩
          intro term member
          rcases List.mem_cons.mp member with rfl | member
          · exact (orderly.first term rfl).resolve_left result
          · exact orderly.others term member
  exact ⟨carry, rest, rfl, carried, tidy, c.store_eq carried tidy⟩

theorem store_orderly {c next : Calculator} {terms : Expression} (orderly : terms.Orderly)
    (stored : c.store terms = (next, .ok ())) :
    ∃ carry log, next = { c with carry := carry, log := log } ∧ InOrder carry log ∧
      carry.toList ++ Expression.ofKeys log = terms := by
  have apart : terms.IsChain Term.Apart :=
    orderly.alternates.2.imp fun first second => Term.apart_of_takesTurn
  obtain ⟨carry, rest, rfl, carried, tidy, same⟩ := c.store_cases orderly
  rw [same] at stored
  cases written : Expression.keys rest with
  | error fault =>
      rw [written] at stored
      cases stored
  | ok log =>
      rw [written] at stored
      cases stored
      -- what was typed of the expression becomes a log that types it again
      have back : Expression.ofKeys log = rest :=
        Expression.ofKeys_keys tidy apart.right_of_append written
      have plain := Expression.plain_keys tidy written
      refine ⟨carry, log, rfl, ⟨plain, ?_, carried, ?_⟩, by rw [back]⟩
      · intro pressed
        have member := (Expression.operator_mem_ofKeys plain _).mpr ⟨_, pressed, rfl, rfl⟩
        rw [back] at member
        obtain ⟨op, same⟩ := orderly.arithmetic _ (List.mem_append_right _ member) rfl
        exact Arith.symbol_ne_equals op (Term.operator.inj same).symm
      · rw [back]
        exact orderly.alternates

def replayBase (c : Calculator) : Keypad :=
  { Keypad.initial c.denominator with mode := (c.carry.map Term.mode).getD .input }

theorem replayBase_mode (c : Calculator) :
    c.replayBase.mode = Expression.mode c.carry.toList := by
  unfold replayBase
  cases c.carry with
  | none => rfl
  | some result => rfl

theorem rebuiltKeypad_eq (c : Calculator) : c.rebuiltKeypad = c.replayBase.replay c.log := by
  unfold rebuiltKeypad replayBase
  cases c.carry with
  | none => rfl
  | some result => rfl

theorem rebuild_mode {c : Calculator} (plain : ∀ key ∈ c.log, key.isControl = false)
    (alternates : c.terms.Alternates) : c.rebuild.keypad.mode = c.terms.mode := by
  change c.rebuiltKeypad.mode = _
  rw [rebuiltKeypad_eq]
  exact Keypad.mode_replay c.replayBase_mode plain alternates

theorem rebuild_denominator (c : Calculator) : c.rebuild.keypad.denominator = c.denominator := by
  change c.rebuiltKeypad.denominator = _
  rw [rebuiltKeypad_eq]
  exact Keypad.replay_denominator c.replayBase c.log

end Calculator

end FeetInches
