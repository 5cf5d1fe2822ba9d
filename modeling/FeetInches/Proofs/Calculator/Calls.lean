import FeetInches.Proofs.Calculator.Step
import FeetInches.Proofs.Keypad.Turning

namespace FeetInches

/-- A call from outside: an action of the user, or a timer that fires, told by how many timers were
started before it. -/
inductive Call where
  | user (action : Action) (ofUser : action.isOfUser)
  | timer (number : Nat)

namespace Calculator

def call? (c : Calculator) : Call → Option (Step Answer)
  | .user action _ => some (c.act action)
  | .timer number => c.started[number]?.map fun timer => c.act (.fire timer)

/-- The calculator that a call leaves, be it answered or broken off by a fault. -/
def afterCall (c : Calculator) (call : Call) : Calculator :=
  ((c.call? call).map Prod.fst).getD c

def after (c : Calculator) (calls : List Call) : Calculator := calls.foldl afterCall c

/-- One step after another. A fault of the first is one of both. -/
def andThen {α β : Type} (step : Step α) (next : Calculator → α → Step β) : Step β :=
  match step with
  | (c, .error fault) => (c, .error fault)
  | (c, .ok value) => next c value

theorem backspace_eq (c : Calculator) :
    c.backspace =
      andThen (c.cancelTimers.store c.cancelTimers.terms.eraseInput) fun edited _ =>
        { edited with error := none }.rebuild.reply true := by
  unfold backspace andThen
  simp only
  rcases c.cancelTimers.store c.cancelTimers.terms.eraseInput with ⟨edited, fault | value⟩ <;> rfl

theorem pressEquals_eq (c : Calculator) :
    c.pressEquals = andThen (c.press .equals) fun next reply =>
      (next, .ok (next.evaluationOf reply)) := by
  unfold pressEquals andThen evaluationOf
  rcases c.press .equals with ⟨next, fault | reply⟩
  · rfl
  · cases shown : reply.error <;> simp only [shown]

theorem pressEquals_state (c : Calculator) : c.pressEquals.1 = (c.press .equals).1 := by
  rw [pressEquals_eq]
  rcases c.press .equals with ⟨next, fault | reply⟩ <;> rfl

theorem pressEquals_isOk (c : Calculator) : c.pressEquals.2.isOk = (c.press .equals).2.isOk := by
  rw [pressEquals_eq]
  rcases c.press .equals with ⟨next, fault | reply⟩ <;> rfl

/-- The keypads are left alone in the error mode. -/
def refreshed (c : Calculator) : Calculator := if c.keypad.mode = .error then c else c.rebuild

theorem dropLastFraction_eq (c : Calculator) :
    c.dropLastFraction =
      match c.terms.getLast? with
      | some (.typedLength l) =>
        if l.hasFraction then
          andThen (c.store (c.terms.dropLast ++ [.typedLength l.dropFraction])) fun edited _ =>
            (edited.refreshed, .ok ())
        else (c, .ok ())
      | _ => (c, .ok ()) := by
  unfold dropLastFraction andThen
  cases c.terms.getLast? with
  | none => rfl
  | some last =>
      cases last with
      | typedLength l =>
          simp only
          generalize c.store (c.terms.dropLast ++ [.typedLength l.dropFraction]) = stored
          rcases stored with ⟨edited, fault | value⟩ <;> rfl
      | _ => rfl

def choosing (c : Calculator) (denominator : Int) : Calculator :=
  { c with denominator := denominator }

theorem setDenominator_eq (c : Calculator) (denominator : Int) :
    c.setDenominator denominator =
      if denominator ∉ padDenominators then (c, .error .denominatorChoice)
      else
        andThen (c.choosing denominator).dropLastFraction fun edited _ =>
          { edited with keypad := edited.keypad.turnedTo denominator }.reply true := by
  unfold setDenominator andThen
  split
  · rfl
  · rcases dropped : (c.choosing denominator).dropLastFraction with ⟨edited, fault | value⟩
    · unfold choosing at dropped
      simp only [dropped]
    · unfold choosing at dropped
      simp only [dropped]
      rfl

end Calculator

end FeetInches
