import FeetInches.Proofs.Calculator.Run
import FeetInches.Proofs.Evaluation.Solution
import FeetInches.Proofs.Expression.Typing

namespace FeetInches

theorem Step.answering_eq_ok {α β : Type} {step : Step α} {answer : α → β} {next : Calculator}
    {given : β} : step.answering answer = (next, .ok given) ↔
      ∃ value, step = (next, .ok value) ∧ answer value = given := by
  rcases step with ⟨state, _ | value⟩
  · simp [Step.answering, Except.map]
  · simp [Step.answering, Except.map, and_assoc]

namespace Calculator

theorem reply_eq_ok {c next : Calculator} {accepted : Bool} {reply : Reply} :
    c.reply accepted = (next, .ok reply) ↔
      next = c ∧ ∃ text, c.display? = .ok text ∧
        reply = ⟨accepted, c.keypad, text, c.error⟩ := by
  unfold Calculator.reply
  cases c.display? with
  | error fault => simp [Bind.bind, Except.bind]
  | ok text => simp [Bind.bind, Except.bind, pure, Except.pure, eq_comm]

def Faithful (step : Step Reply) : Prop :=
  ∀ next reply, step = (next, .ok reply) →
    next.display? = .ok reply.display ∧ reply.keypad = next.keypad ∧ reply.error = next.error

theorem faithful_reply (c : Calculator) (accepted : Bool) : Faithful (c.reply accepted) := by
  intro next reply done
  obtain ⟨rfl, text, shown, rfl⟩ := reply_eq_ok.mp done
  exact ⟨shown, rfl, rfl⟩

def evaluationOf (c : Calculator) (reply : Reply) : Evaluation :=
  match reply.error with
  | some error => ⟨[], reply.display, some error⟩
  | none => ⟨reply.display, c.lastExpression, none⟩

theorem pressEquals_eq_ok {c next : Calculator} {evaluation : Evaluation} :
    c.pressEquals = (next, .ok evaluation) ↔
      ∃ reply, c.press .equals = (next, .ok reply) ∧ evaluation = next.evaluationOf reply := by
  unfold pressEquals
  rcases c.press .equals with ⟨state, _ | reply⟩
  · simp
  · simp only [evaluationOf, Prod.mk.injEq, Except.ok.injEq, and_assoc, exists_and_left,
      exists_eq_left']
    cases error : reply.error with
    | none =>
        simp only [Prod.mk.injEq, Except.ok.injEq]
        exact and_congr_right fun same => by rw [same, eq_comm]
    | some error =>
        simp only [Prod.mk.injEq, Except.ok.injEq]
        exact and_congr_right fun _ => eq_comm

def rejecting (c : Calculator) (error : CalcError) : Calculator :=
  { c with error := some error, keypad := { c.keypad with mode := .error } }.startTimers

theorem reject_eq (c : Calculator) (error : CalcError) :
    c.reject error = (c.rejecting error).reply false := rfl

theorem reject_state (c : Calculator) (error : CalcError) :
    (c.reject error).1 = c.rejecting error := rfl

theorem rejecting_frame (c : Calculator) (error : CalcError) :
    c.rejecting error =
      { c with
        error := some error
        keypad := { c.keypad with mode := .error }
        held := (c.rejecting error).held
        started := (c.rejecting error).started } := by
  unfold rejecting startTimers
  split <;> rfl

theorem rejecting_terms (c : Calculator) (error : CalcError) :
    (c.rejecting error).terms = c.terms := by
  rw [rejecting_frame]
  rfl

theorem rejecting_display (c : Calculator) (error : CalcError) :
    (c.rejecting error).display? = c.display? := by
  rw [display?, rejecting_terms, display?]

theorem rejecting_error (c : Calculator) (error : CalcError) :
    (c.rejecting error).error = some error := by
  rw [rejecting_frame]

/-- The calculator that a key meets: no timers, out of the error mode, and without a result that
the key does not go on from. -/
def readied (c : Calculator) (key : Key) : Calculator := c.cancelTimers.recover.dropCarry key

def typed (c : Calculator) (key : Key) : Calculator :=
  { c with keypad := c.keypad.press key, log := c.log ++ [key], error := none }

def refusal? (c : Calculator) (key : Key) : Option CalcError :=
  c.keypad.mode.refusal? key c.log.getLast?

theorem enter_eq (c : Calculator) (key : Key) :
    c.enter key =
      match (c.readied key).refusal? key with
      | some error => (c.readied key).reject error
      | none =>
        if key = .equals then ((c.readied key).typed key).evaluate
        else ((c.readied key).typed key).reply true := rfl

theorem press_eq_enter (c : Calculator) {key : Key} (plain : key.isControl = false) :
    c.press key = c.enter key := by
  cases key <;> first | rfl | cases plain

theorem terms_typed_equals (c : Calculator) :
    (c.typed .equals).terms = c.terms ++ [.operator equalsSymbol] := by
  change c.carry.toList ++ Expression.ofKeys (c.log ++ [.equals]) = _
  rw [Expression.ofKeys_operator c.log rfl, ← List.append_assoc]
  rfl

def withdrawn (c : Calculator) : Calculator := { c with log := c.log.dropLast }.rebuild

theorem withdrawn_terms (c : Calculator) : (c.typed .equals).withdrawn.terms = c.terms := by
  change c.carry.toList ++ Expression.ofKeys (c.log ++ [Key.equals]).dropLast = c.terms
  rw [List.dropLast_concat]
  rfl

def concluded (c : Calculator) (result : Term) (expression text : Text) : Calculator :=
  { { c with lastExpression := expression }.remember ⟨expression, text⟩ with
    carry := some result
    log := [] }.rebuild

def brokenOff (c : Calculator) (expression : Text) : Calculator :=
  { c with lastExpression := expression }

theorem evaluate_cases (c : Calculator) :
    (∃ fault expression,
      (c.typed .equals).evaluate = ((c.typed .equals).brokenOff expression, .error fault)) ∨
      (∃ error, Expression.solve? c.terms = .error (.calc error) ∧
        (c.typed .equals).evaluate = (c.typed .equals).withdrawn.reject error) ∨
      ∃ result expression text, Expression.solve? c.terms = .ok result ∧
        Expression.text? c.terms = .ok expression ∧ result.text? = .ok text ∧
        (c.typed .equals).evaluate =
          ((c.typed .equals).concluded result expression text).reply true := by
  have evaluated := Expression.evaluate?_equals c.terms
  rw [← terms_typed_equals] at evaluated
  have shorter : (c.typed .equals).terms.dropLast = c.terms := by
    rw [terms_typed_equals, List.dropLast_concat]
  cases solved : Expression.solve? c.terms with
  | error failure =>
      rcases failure with error | fault
      · right; left
        refine ⟨error, rfl, ?_⟩
        simp only [evaluate, evaluated, solved]
        rfl
      · left
        refine ⟨fault, (c.typed .equals).lastExpression, ?_⟩
        simp only [evaluate, evaluated, solved]
        rfl
  | ok result =>
      cases written : Expression.text? c.terms with
      | error fault =>
          left
          refine ⟨fault, (c.typed .equals).lastExpression, ?_⟩
          simp only [evaluate, evaluated, solved, shorter, written]
          rfl
      | ok expression =>
          cases shown : result.text? with
          | error fault =>
              left
              refine ⟨fault, expression, ?_⟩
              simp only [evaluate, evaluated, solved, shorter, written, shown]
              rfl
          | ok text =>
              right; right
              refine ⟨result, expression, text, rfl, rfl, shown, ?_⟩
              simp only [evaluate, evaluated, solved, shorter, written, shown]
              rfl

/-- An evaluation that answers takes its equals sign back with an error, or concludes. -/
theorem evaluate_eq_ok {c next : Calculator} {reply : Reply}
    (done : (c.typed .equals).evaluate = (next, .ok reply)) :
    (∃ error, Expression.solve? c.terms = .error (.calc error) ∧
      next = (c.typed .equals).withdrawn.rejecting error ∧ reply.accepted = false ∧
      reply.error = some error) ∨
    ∃ result expression text, Expression.solve? c.terms = .ok result ∧
      Expression.text? c.terms = .ok expression ∧ result.text? = .ok text ∧
      next = (c.typed .equals).concluded result expression text ∧ reply.accepted = true ∧
      reply.error = none := by
  rcases evaluate_cases c with ⟨fault, _, broken⟩ | ⟨error, failed, rejected⟩ |
    ⟨result, expression, text, solved, written, shown, concluded⟩
  · rw [done] at broken
    cases broken
  · left
    rw [rejected, reject_eq] at done
    obtain ⟨rfl, _, _, rfl⟩ := reply_eq_ok.mp done
    exact ⟨error, failed, rfl, rfl, rejecting_error _ error⟩
  · right
    rw [concluded] at done
    obtain ⟨rfl, _, _, rfl⟩ := reply_eq_ok.mp done
    exact ⟨result, expression, text, solved, written, shown, rfl, rfl, rfl⟩

/-- What a typed key comes to: it is refused, its calculation breaks off, fails or gives a result,
or the key is just taken. A fault in the answer leaves the state as it is then. -/
inductive Enters (c : Calculator) (key : Key) (step : Step Reply) : Prop where
  | refused (error : CalcError) : (c.readied key).refusal? key = some error →
      step = (c.readied key).reject error → Enters c key step
  | broken (fault : Fault) (expression : Text) : key = .equals →
      (c.readied key).refusal? key = none →
      step = (((c.readied key).typed key).brokenOff expression, .error fault) → Enters c key step
  | failed (error : CalcError) : key = .equals → (c.readied key).refusal? key = none →
      Expression.solve? (c.readied key).terms = .error (.calc error) →
      step = ((c.readied key).typed key).withdrawn.reject error → Enters c key step
  | calculated (result : Term) (expression text : Text) : key = .equals →
      (c.readied key).refusal? key = none →
      Expression.solve? (c.readied key).terms = .ok result →
      (c.readied key).display? = .ok expression → result.text? = .ok text →
      step = (((c.readied key).typed key).concluded result expression text).reply true →
      Enters c key step
  | taken : key ≠ .equals → (c.readied key).refusal? key = none →
      step = ((c.readied key).typed key).reply true → Enters c key step

theorem enters (c : Calculator) (key : Key) : c.Enters key (c.enter key) := by
  rw [enter_eq]
  split
  · rename_i error refused
    exact .refused error refused rfl
  · rename_i admitted
    split
    · rename_i equals
      subst equals
      rcases evaluate_cases (c.readied .equals) with ⟨fault, expression, broken⟩ |
        ⟨error, failed, rejected⟩ | ⟨result, expression, text, solved, written, shown, concluded⟩
      · exact .broken fault expression rfl admitted broken
      · exact .failed error rfl admitted failed rejected
      · exact .calculated result expression text rfl admitted solved written shown concluded
    · rename_i notEquals
      exact .taken notEquals admitted rfl

/-- What a typed key has come to once it is answered: the key was refused, its calculation failed or
gave a result, or the key was just taken. -/
inductive Entered (c : Calculator) (key : Key) (next : Calculator) (reply : Reply) : Prop where
  | refused (error : CalcError) : (c.readied key).refusal? key = some error →
      next = (c.readied key).rejecting error → reply.accepted = false →
      reply.error = some error → Entered c key next reply
  | failed (error : CalcError) : key = .equals → (c.readied key).refusal? key = none →
      Expression.solve? (c.readied key).terms = .error (.calc error) →
      next = ((c.readied key).typed key).withdrawn.rejecting error → reply.accepted = false →
      reply.error = some error → Entered c key next reply
  | calculated (result : Term) (expression text : Text) : key = .equals →
      (c.readied key).refusal? key = none →
      Expression.solve? (c.readied key).terms = .ok result →
      next = ((c.readied key).typed key).concluded result expression text →
      reply.accepted = true → reply.error = none →
      (c.readied key).display? = .ok expression → result.text? = .ok text →
      Entered c key next reply
  | taken : key ≠ .equals → (c.readied key).refusal? key = none →
      next = (c.readied key).typed key → reply.accepted = true → reply.error = none →
      Entered c key next reply

theorem entered {c next : Calculator} {key : Key} {reply : Reply}
    (done : c.enter key = (next, .ok reply)) : c.Entered key next reply := by
  cases c.enters key with
  | refused error refused step =>
      obtain ⟨rfl, _, _, rfl⟩ := reply_eq_ok.mp (step.symm.trans done)
      exact .refused error refused rfl rfl (rejecting_error _ error)
  | broken fault expression _ _ step => cases step.symm.trans done
  | failed error equals admitted failed step =>
      obtain ⟨rfl, _, _, rfl⟩ := reply_eq_ok.mp (step.symm.trans done)
      exact .failed error equals admitted failed rfl rfl (rejecting_error _ error)
  | calculated result expression text equals admitted solved written shown step =>
      obtain ⟨rfl, _, _, rfl⟩ := reply_eq_ok.mp (step.symm.trans done)
      exact .calculated result expression text equals admitted solved rfl rfl rfl written shown
  | taken notEquals admitted step =>
      obtain ⟨rfl, _, _, rfl⟩ := reply_eq_ok.mp (step.symm.trans done)
      exact .taken notEquals admitted rfl rfl rfl

theorem faithful_enter (c : Calculator) (key : Key) : Faithful (c.enter key) := by
  cases c.enters key with
  | refused _ _ step | failed _ _ _ _ step | calculated _ _ _ _ _ _ _ _ step | taken _ _ step =>
      rw [step]
      exact faithful_reply _ _
  | broken _ _ _ _ step =>
      rw [step]
      rintro _ _ ⟨⟩

theorem faithful_backspace (c : Calculator) : Faithful c.backspace := by
  intro next reply done
  unfold backspace at done
  simp only at done
  split at done
  · cases done
  · exact faithful_reply _ _ next reply done

theorem faithful_setDenominator (c : Calculator) (denominator : Int) :
    Faithful (c.setDenominator denominator) := by
  intro next reply done
  unfold setDenominator at done
  split at done
  · cases done
  · simp only at done
    split at done
    · cases done
    · exact faithful_reply _ _ next reply done

theorem faithful_press (c : Calculator) (key : Key) : Faithful (c.press key) := by
  cases key using Key.cases_control with
  | entered key plain =>
      rw [press_eq_enter c plain]
      exact faithful_enter c key
  | clear => exact faithful_reply _ _
  | backspace => exact faithful_backspace c
  | errorTimeout => exact faithful_reply _ _

theorem recover_frame (c : Calculator) :
    c.recover = { c with keypad := c.recover.keypad } := by
  unfold recover
  split <;> rfl

theorem fire_terms (c : Calculator) (timer : Timer) : (c.fire timer).1.terms = c.terms := by
  unfold fire
  split
  · rfl
  · split
    · change c.recover.terms = c.terms
      rw [recover_frame]
      rfl
    · rfl

/-- A key meets the expression on the display, but for a result that an operand does not go on
from. -/
theorem readied_terms (c : Calculator) (key : Key) :
    (c.readied key).carry = c.carry ∧ (c.readied key).log = c.log ∨
      key.isOperand ∧ (∃ result, c.carry = some result) ∧ c.log = [] ∧
        (c.readied key).carry = none ∧ (c.readied key).log = [] := by
  have same : c.cancelTimers.recover.carry = c.carry ∧ c.cancelTimers.recover.log = c.log := by
    rw [recover_frame]
    exact ⟨rfl, rfl⟩
  unfold readied dropCarry
  split
  · rename_i dropped
    rw [same.1, same.2] at dropped
    simp only [Bool.and_eq_true, Option.isSome_iff_exists, List.isEmpty_iff] at dropped
    exact Or.inr ⟨dropped.1.1, dropped.1.2, dropped.2, rfl, same.2.trans dropped.2⟩
  · exact Or.inl same

def cleared (c : Calculator) : Calculator :=
  { c.cancelTimers with
    keypad := c.keypad.control .clear
    log := []
    carry := none
    error := none }

def renewed (c : Calculator) : Calculator :=
  { c with
    denominator := c.settings.denominator
    history := []
    lastExpression := []
    keypad := .initial c.settings.denominator }

/-- What an answered action has done. A control key does what its command does, and the equals sign
is typed like the other keys. -/
inductive Acted (c : Calculator) (action : Action) (next : Calculator) : Prop where
  | entered (key : Key) (reply : Reply) : key.isControl = false →
      c.enter key = (next, .ok reply) → Acted c action next
  | erased (reply : Reply) : c.backspace = (next, .ok reply) → Acted c action next
  | cleared : next = c.cleared → Acted c action next
  | reset : next = c.renewed.cleared → Acted c action next
  | recovered : next = c.recover → Acted c action next
  | turned (denominator : Int) (reply : Reply) : action = .setDenominator denominator →
      c.setDenominator denominator = (next, .ok reply) → Acted c action next
  | closed : next = c.cancelTimers → Acted c action next
  | fired (timer : Timer) : next = (c.fire timer).1 → Acted c action next

theorem acted_of_press {c next : Calculator} {key : Key} {reply : Reply}
    (done : c.press key = (next, .ok reply)) (action : Action) : c.Acted action next := by
  cases key using Key.cases_control with
  | entered key plain =>
      rw [press_eq_enter c plain] at done
      exact .entered key reply plain done
  | clear => exact .cleared (reply_eq_ok.mp done).1
  | backspace => exact .erased reply done
  | errorTimeout => exact .recovered (reply_eq_ok.mp done).1

theorem acted_of_act {c next : Calculator} {action : Action} {answer : Answer}
    (done : c.act action = (next, .ok answer)) : c.Acted action next := by
  cases action with
  | press key =>
      obtain ⟨reply, done, _⟩ := Step.answering_eq_ok.mp done
      exact acted_of_press done _
  | pressEquals =>
      obtain ⟨evaluation, done, _⟩ := Step.answering_eq_ok.mp done
      obtain ⟨reply, pressed, _⟩ := pressEquals_eq_ok.mp done
      exact acted_of_press pressed _
  | backspace =>
      obtain ⟨reply, done, _⟩ := Step.answering_eq_ok.mp done
      exact .erased reply done
  | clear =>
      obtain ⟨reply, done, _⟩ := Step.answering_eq_ok.mp done
      exact .cleared (reply_eq_ok.mp done).1
  | reset =>
      obtain ⟨reply, done, _⟩ := Step.answering_eq_ok.mp done
      exact .reset (reply_eq_ok.mp done).1
  | errorTimeout =>
      obtain ⟨reply, done, _⟩ := Step.answering_eq_ok.mp done
      exact .recovered (reply_eq_ok.mp done).1
  | setDenominator denominator =>
      obtain ⟨reply, done, _⟩ := Step.answering_eq_ok.mp done
      exact .turned denominator reply rfl done
  | close =>
      cases done
      exact .closed rfl
  | fire timer =>
      obtain ⟨nothing, done, _⟩ := Step.answering_eq_ok.mp done
      exact .fired timer (by rw [done])

end Calculator

end FeetInches
