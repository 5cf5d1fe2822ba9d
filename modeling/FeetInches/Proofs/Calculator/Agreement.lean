import FeetInches.Proofs.Calculator.Invariant
/-!
Calculators that agree on what is calculated and may differ in keypads, in the error that is shown
and in timers. What a user does leads from calculators that agree to calculators that agree, with
the same answers, and a timer leads nowhere else. So nobody can tell from the calculation whether
timers have fired.
-/

namespace FeetInches

/-- What a user sees of an answer, apart from the keypads and an error still shown. -/
inductive Shown where
  | reply (accepted : Bool) (display : Text)
  | evaluation (evaluation : Calculator.Evaluation)
  | nothing
  deriving DecidableEq

def Answer.shown : Answer → Shown
  | .reply given => .reply given.accepted given.display
  | .evaluation given => .evaluation given
  | .nothing => .nothing

structure Observation where
  shown : Shown
  log : List Key
  carry : Option Term
  terms : Expression
  history : List HistoryEntry
  denominator : Int
  deriving DecidableEq

def Event.observed (event : Event) : Observation :=
  ⟨event.answer.shown, event.state.log, event.state.carry, event.state.terms,
    event.state.history, event.state.denominator⟩

namespace Calculator

def Agrees (c d : Calculator) : Prop :=
  ∃ keypad error generation held started,
    d = { c with
      keypad := keypad
      error := error
      generation := generation
      held := held
      started := started }

namespace Agrees

variable {c d e : Calculator}

theorem refl (c : Calculator) : c.Agrees c := ⟨_, _, _, _, _, rfl⟩

theorem symm (agrees : c.Agrees d) : d.Agrees c := by
  obtain ⟨_, _, _, _, _, rfl⟩ := agrees
  exact ⟨_, _, _, _, _, rfl⟩

theorem trans (first : c.Agrees d) (second : d.Agrees e) : c.Agrees e := by
  obtain ⟨_, _, _, _, _, rfl⟩ := first
  obtain ⟨_, _, _, _, _, rfl⟩ := second
  exact ⟨_, _, _, _, _, rfl⟩

theorem terms (agrees : c.Agrees d) : d.terms = c.terms := by
  obtain ⟨_, _, _, _, _, rfl⟩ := agrees
  rfl

theorem recover (c : Calculator) : c.Agrees c.recover := by
  rw [recover_frame]
  exact ⟨_, _, _, _, _, rfl⟩

theorem rejecting (c : Calculator) (error : CalcError) : c.Agrees (c.rejecting error) := by
  rw [rejecting_frame]
  exact ⟨_, _, _, _, _, rfl⟩

theorem cancelTimers (c : Calculator) : c.Agrees c.cancelTimers := ⟨_, _, _, _, _, rfl⟩

theorem dropCarry (agrees : c.Agrees d) (key : Key) :
    (c.dropCarry key).Agrees (d.dropCarry key) := by
  obtain ⟨_, _, _, _, _, rfl⟩ := agrees
  unfold Calculator.dropCarry
  simp only
  split <;> exact ⟨_, _, _, _, _, rfl⟩

theorem readied (agrees : c.Agrees d) (key : Key) : (c.readied key).Agrees (d.readied key) := by
  have left := (cancelTimers c).trans (recover c.cancelTimers)
  have right := (cancelTimers d).trans (recover d.cancelTimers)
  exact ((left.symm.trans agrees).trans right).dropCarry key

theorem typed (agrees : c.Agrees d) (key : Key) : (c.typed key).Agrees (d.typed key) := by
  obtain ⟨_, _, _, _, _, rfl⟩ := agrees
  exact ⟨_, _, _, _, _, rfl⟩

theorem withdrawn (agrees : c.Agrees d) : c.withdrawn.Agrees d.withdrawn := by
  obtain ⟨_, _, _, _, _, rfl⟩ := agrees
  exact ⟨_, _, _, _, _, rfl⟩

theorem concluded (agrees : c.Agrees d) (result : Term) (expression text : Text) :
    (c.concluded result expression text).Agrees (d.concluded result expression text) := by
  obtain ⟨_, _, _, _, _, rfl⟩ := agrees
  exact ⟨_, _, _, _, _, rfl⟩

theorem store (agrees : c.Agrees d) (terms : Expression) :
    (c.store terms).1.Agrees (d.store terms).1 := by
  obtain ⟨_, _, _, _, _, rfl⟩ := agrees
  unfold Calculator.store
  rcases terms with _ | ⟨first, rest⟩
  · exact ⟨_, _, _, _, _, rfl⟩
  · by_cases result : first.isResult <;> simp only [result, if_true, if_false, Bool.false_eq_true]
    · cases Expression.keys rest <;> exact ⟨_, _, _, _, _, rfl⟩
    · cases Expression.keys (first :: rest) <;> exact ⟨_, _, _, _, _, rfl⟩

theorem fire (c : Calculator) (timer : Timer) : c.Agrees (c.fire timer).1 := by
  unfold Calculator.fire
  split
  · exact refl c
  · split
    · exact recover c
    · exact ⟨_, _, _, _, _, rfl⟩

theorem evaluate (agrees : c.Agrees d) {next other : Calculator} {reply otherReply : Reply}
    (done : (c.typed .equals).evaluate = (next, .ok reply))
    (otherDone : (d.typed .equals).evaluate = (other, .ok otherReply)) :
    next.Agrees other ∧ reply.accepted = otherReply.accepted ∧ reply.error = otherReply.error := by
  have same := agrees.typed .equals
  rcases evaluate_eq_ok done with ⟨error, failed, rfl, rejected, shown⟩ |
    ⟨result, expression, text, solved, written, resultText, rfl, accepted, shown⟩
  · rcases evaluate_eq_ok otherDone with ⟨otherError, otherFailed, rfl, otherRejected, otherShown⟩ |
      ⟨result, expression, text, solved, _⟩
    · rw [agrees.terms, failed] at otherFailed
      cases otherFailed
      refine ⟨?_, rejected.trans otherRejected.symm, shown.trans otherShown.symm⟩
      exact ((rejecting _ error).symm.trans same.withdrawn).trans (rejecting _ error)
    · rw [agrees.terms, failed] at solved
      cases solved
  · rcases evaluate_eq_ok otherDone with ⟨otherError, failed, _⟩ |
      ⟨otherResult, otherExpression, otherText, otherSolved, otherWritten, otherResultText, rfl,
        otherAccepted, otherShown⟩
    · rw [agrees.terms, solved] at failed
      cases failed
    · rw [agrees.terms] at otherSolved otherWritten
      cases solved.symm.trans otherSolved
      cases written.symm.trans otherWritten
      cases resultText.symm.trans otherResultText
      exact ⟨same.concluded result expression text, accepted.trans otherAccepted.symm,
        shown.trans otherShown.symm⟩

section Steps

variable {next other : Calculator} {reply otherReply : Reply}

theorem enter (agrees : c.Agrees d) (sound : c.Sound) (otherSound : d.Sound) {key : Key}
    (done : c.enter key = (next, .ok reply)) (otherDone : d.enter key = (other, .ok otherReply)) :
    next.Agrees other ∧ reply.accepted = otherReply.accepted ∧ reply.error = otherReply.error := by
  have ready := agrees.readied key
  have refusals : (d.readied key).refusal? key = (c.readied key).refusal? key := by
    have logs : (d.readied key).log = (c.readied key).log := by
      obtain ⟨_, _, _, _, _, same⟩ := ready
      rw [same]
    rw [refusal?, refusal?, (sound.readied key).2.1, (otherSound.readied key).2.1, ready.terms,
      logs]
  rw [enter_eq] at done otherDone
  rw [refusals] at otherDone
  split at done
  · rename_i error refused
    rw [refused] at otherDone
    simp only [reject_eq] at done otherDone
    obtain ⟨rfl, _, _, rfl⟩ := reply_eq_ok.mp done
    obtain ⟨rfl, _, _, rfl⟩ := reply_eq_ok.mp otherDone
    refine ⟨?_, rfl, ?_⟩
    · exact ((rejecting _ error).symm.trans ready).trans (rejecting _ error)
    · exact (rejecting_error _ error).trans (rejecting_error _ error).symm
  · rename_i admitted
    rw [admitted] at otherDone
    simp only at otherDone
    split at done
    · rename_i equals
      subst equals
      rw [if_pos rfl] at otherDone
      exact ready.evaluate done otherDone
    · rename_i notEquals
      rw [if_neg notEquals] at otherDone
      obtain ⟨rfl, _, _, rfl⟩ := reply_eq_ok.mp done
      obtain ⟨rfl, _, _, rfl⟩ := reply_eq_ok.mp otherDone
      exact ⟨ready.typed key, rfl, rfl⟩

theorem backspace (agrees : c.Agrees d) (done : c.backspace = (next, .ok reply))
    (otherDone : d.backspace = (other, .ok otherReply)) :
    next.Agrees other ∧ reply.accepted = otherReply.accepted := by
  have same := ((cancelTimers c).symm.trans agrees).trans (cancelTimers d)
  have stored := same.store (Expression.eraseInput c.cancelTimers.terms)
  unfold Calculator.backspace at done otherDone
  simp only [same.terms] at done otherDone
  split at done
  · cases done
  · rename_i edited left
    split at otherDone
    · cases otherDone
    · rename_i otherEdited right
      rw [left, right] at stored
      obtain ⟨_, _, _, _, _, rfl⟩ := stored
      obtain ⟨rfl, _, _, rfl⟩ := reply_eq_ok.mp done
      obtain ⟨rfl, _, _, rfl⟩ := reply_eq_ok.mp otherDone
      exact ⟨⟨_, _, _, _, _, rfl⟩, rfl⟩

theorem dropLastFraction (agrees : c.Agrees d) (done : c.dropLastFraction = (next, .ok ()))
    (otherDone : d.dropLastFraction = (other, .ok ())) : next.Agrees other := by
  -- only one of the two may be in the error mode, but a rebuild changes no more than keypads
  have rebuilt (edited : Calculator) :
      edited.Agrees (if edited.keypad.mode = .error then edited else edited.rebuild) := by
    split
    · exact refl edited
    · exact ⟨_, _, _, _, _, rfl⟩
  unfold Calculator.dropLastFraction at done otherDone
  rw [agrees.terms] at otherDone
  split at done
  · rename_i l last
    simp only [last] at otherDone
    split at done
    · rename_i fraction
      rw [if_pos fraction] at otherDone
      have stored := agrees.store (c.terms.dropLast ++ [.typedLength l.dropFraction])
      split at done
      · cases done
      · rename_i edited left
        split at otherDone
        · cases otherDone
        · rename_i otherEdited right
          cases done
          cases otherDone
          rw [left, right] at stored
          exact ((rebuilt edited).symm.trans stored).trans (rebuilt otherEdited)
    · rename_i whole
      rw [if_neg whole] at otherDone
      cases done
      cases otherDone
      exact agrees
  · rename_i notLength
    split at otherDone
    · rename_i l last
      exact absurd last (notLength l)
    · cases done
      cases otherDone
      exact agrees

theorem setDenominator (agrees : c.Agrees d) {denominator : Int}
    (done : c.setDenominator denominator = (next, .ok reply))
    (otherDone : d.setDenominator denominator = (other, .ok otherReply)) :
    next.Agrees other ∧ reply.accepted = otherReply.accepted := by
  unfold Calculator.setDenominator at done otherDone
  split at done
  · cases done
  · rename_i known
    rw [if_neg known] at otherDone
    simp only at done otherDone
    split at done
    · cases done
    · rename_i edited left
      split at otherDone
      · cases otherDone
      · rename_i otherEdited right
        have chosen : { c with denominator := denominator }.Agrees
            { d with denominator := denominator } := by
          obtain ⟨_, _, _, _, _, rfl⟩ := agrees
          exact ⟨_, _, _, _, _, rfl⟩
        obtain ⟨_, _, _, _, _, rfl⟩ := chosen.dropLastFraction left right
        obtain ⟨rfl, _, _, rfl⟩ := reply_eq_ok.mp done
        obtain ⟨rfl, _, _, rfl⟩ := reply_eq_ok.mp otherDone
        exact ⟨⟨_, _, _, _, _, rfl⟩, rfl⟩

theorem clear (agrees : c.Agrees d) (done : c.clear = (next, .ok reply))
    (otherDone : d.clear = (other, .ok otherReply)) :
    next.Agrees other ∧ reply.accepted = otherReply.accepted := by
  obtain ⟨_, _, _, _, _, rfl⟩ := agrees
  obtain ⟨rfl, _, _, rfl⟩ := reply_eq_ok.mp done
  obtain ⟨rfl, _, _, rfl⟩ := reply_eq_ok.mp otherDone
  exact ⟨⟨_, _, _, _, _, rfl⟩, rfl⟩

theorem reset (agrees : c.Agrees d) (done : c.reset = (next, .ok reply))
    (otherDone : d.reset = (other, .ok otherReply)) :
    next.Agrees other ∧ reply.accepted = otherReply.accepted := by
  obtain ⟨_, _, _, _, _, rfl⟩ := agrees
  obtain ⟨rfl, _, _, rfl⟩ := reply_eq_ok.mp done
  obtain ⟨rfl, _, _, rfl⟩ := reply_eq_ok.mp otherDone
  exact ⟨⟨_, _, _, _, _, rfl⟩, rfl⟩

theorem errorTimeout (agrees : c.Agrees d) (done : c.errorTimeout = (next, .ok reply))
    (otherDone : d.errorTimeout = (other, .ok otherReply)) :
    next.Agrees other ∧ reply.accepted = otherReply.accepted := by
  obtain ⟨rfl, _, _, rfl⟩ := reply_eq_ok.mp done
  obtain ⟨rfl, _, _, rfl⟩ := reply_eq_ok.mp otherDone
  exact ⟨((recover c).symm.trans agrees).trans (recover d), rfl⟩

theorem press (agrees : c.Agrees d) (sound : c.Sound) (otherSound : d.Sound) {key : Key}
    (done : c.press key = (next, .ok reply)) (otherDone : d.press key = (other, .ok otherReply)) :
    next.Agrees other ∧ reply.accepted = otherReply.accepted := by
  cases key using Key.cases_control with
  | entered key plain =>
      rw [press_eq_enter _ plain] at done otherDone
      obtain ⟨after, accepted, _⟩ := agrees.enter sound otherSound done otherDone
      exact ⟨after, accepted⟩
  | clear => exact agrees.clear done otherDone
  | backspace => exact agrees.backspace done otherDone
  | errorTimeout => exact agrees.errorTimeout done otherDone

theorem shown (after : next.Agrees other) {step otherStep : Step Reply} (faithful : Faithful step)
    (otherFaithful : Faithful otherStep) (done : step = (next, .ok reply))
    (otherDone : otherStep = (other, .ok otherReply)) : reply.display = otherReply.display := by
  have display := (faithful next reply done).1
  have otherDisplay := (otherFaithful other otherReply otherDone).1
  rw [display?, after.terms] at otherDisplay
  exact Except.ok.inj (display.symm.trans otherDisplay)

end Steps

theorem act (agrees : c.Agrees d) (sound : c.Sound) (otherSound : d.Sound) {action : Action}
    (ofUser : action.isOfUser) {next other : Calculator} {answer otherAnswer : Answer}
    (done : c.act action = (next, .ok answer))
    (otherDone : d.act action = (other, .ok otherAnswer)) :
    next.Agrees other ∧ answer.shown = otherAnswer.shown := by
  have replied {step otherStep : Step Reply} (faithful : Faithful step)
      (otherFaithful : Faithful otherStep)
      (alike : ∀ reply otherReply, step = (next, .ok reply) →
        otherStep = (other, .ok otherReply) →
        next.Agrees other ∧ reply.accepted = otherReply.accepted)
      (done : step.answering Answer.reply = (next, .ok answer))
      (otherDone : otherStep.answering Answer.reply = (other, .ok otherAnswer)) :
      next.Agrees other ∧ answer.shown = otherAnswer.shown := by
    obtain ⟨reply, left, rfl⟩ := Step.answering_eq_ok.mp done
    obtain ⟨otherReply, right, rfl⟩ := Step.answering_eq_ok.mp otherDone
    obtain ⟨after, accepted⟩ := alike reply otherReply left right
    have display := after.shown faithful otherFaithful left right
    exact ⟨after, by rw [Answer.shown, Answer.shown, accepted, display]⟩
  cases action with
  | press key =>
      exact replied (faithful_press c key) (faithful_press d key)
        (fun _ _ => agrees.press sound otherSound) done otherDone
  | pressEquals =>
      obtain ⟨evaluation, left, rfl⟩ := Step.answering_eq_ok.mp done
      obtain ⟨otherEvaluation, right, rfl⟩ := Step.answering_eq_ok.mp otherDone
      obtain ⟨reply, pressed, rfl⟩ := pressEquals_eq_ok.mp left
      obtain ⟨otherReply, otherPressed, rfl⟩ := pressEquals_eq_ok.mp right
      obtain ⟨after, _, errors⟩ := agrees.enter sound otherSound pressed otherPressed
      have display := after.shown (faithful_press c .equals) (faithful_press d .equals) pressed
        otherPressed
      have expression : next.lastExpression = other.lastExpression := by
        obtain ⟨_, _, _, _, _, rfl⟩ := after
        rfl
      refine ⟨after, ?_⟩
      rw [Answer.shown, Answer.shown, evaluationOf, evaluationOf, errors, display, expression]
  | backspace =>
      exact replied (faithful_backspace c) (faithful_backspace d)
        (fun _ _ => agrees.backspace) done otherDone
  | clear =>
      exact replied (faithful_reply _ _) (faithful_reply _ _) (fun _ _ => agrees.clear) done
        otherDone
  | reset =>
      exact replied (faithful_reply _ _) (faithful_reply _ _) (fun _ _ => agrees.reset) done
        otherDone
  | errorTimeout =>
      exact replied (faithful_reply _ _) (faithful_reply _ _) (fun _ _ => agrees.errorTimeout) done
        otherDone
  | setDenominator denominator =>
      exact replied (faithful_setDenominator c denominator)
        (faithful_setDenominator d denominator) (fun _ _ => agrees.setDenominator) done otherDone
  | close =>
      cases done
      cases otherDone
      exact ⟨((cancelTimers c).symm.trans agrees).trans (cancelTimers d), rfl⟩
  | fire timer => cases ofUser

end Agrees

theorem Agrees.observed {c d : Calculator} (agrees : c.Agrees d) {action other : Action}
    {answer otherAnswer : Answer} (shown : answer.shown = otherAnswer.shown) :
    Event.observed ⟨action, answer, c⟩ = Event.observed ⟨other, otherAnswer, d⟩ := by
  obtain ⟨_, _, _, _, _, rfl⟩ := agrees
  rw [Event.observed, shown]
  rfl

/-- Two runs with the same actions of the user, one with timers that fire, agree at their ends and
after each of these actions. -/
theorem Run.agrees {first c d : Calculator} {fired quiet : List Event} (sound : first.Sound)
    (firedRun : Run first fired c) (quietRun : Run first quiet d)
    (same : quiet.map Event.action = (fired.map Event.action).filter Action.isOfUser) :
    c.Agrees d ∧ (fired.filter Event.isOfUser).map Event.observed =
      quiet.map Event.observed := by
  induction firedRun generalizing quiet d with
  | start =>
      obtain rfl : quiet = [] := by simpa using same
      rw [run_nil.mp quietRun]
      exact ⟨Agrees.refl first, rfl⟩
  | @act events c next action answer firedRun _ done before =>
      cases ofUser : action.isOfUser with
      | false =>
          -- a timer fires, and the other run stands still
          have rest : (events ++ [Event.mk action answer next]).filter Event.isOfUser =
              events.filter Event.isOfUser := by
            simp [Event.isOfUser, ofUser]
          rw [rest]
          obtain ⟨agrees, observed⟩ := before quietRun (by simpa [ofUser] using same)
          refine ⟨?_, observed⟩
          cases action with
          | fire timer =>
              obtain ⟨nothing, fired, _⟩ := Step.answering_eq_ok.mp done
              have after := Agrees.fire c timer
              rw [fired] at after
              exact after.symm.trans agrees
          | _ => cases ofUser
      | true =>
          have more : (events ++ [Event.mk action answer next]).filter Event.isOfUser =
              events.filter Event.isOfUser ++ [⟨action, answer, next⟩] := by
            simp [Event.isOfUser, ofUser]
          have sameMore : quiet.map Event.action =
              (events.map Event.action).filter Action.isOfUser ++ [action] := by
            simpa [ofUser] using same
          rw [more, List.map_append]
          rcases List.eq_nil_or_concat' quiet with rfl | ⟨earlier, ⟨other, otherAnswer, _⟩, rfl⟩
          · simp at sameMore
          · obtain ⟨otherState, earlierRun, _, otherDone, rfl⟩ := run_concat.mp quietRun
            rw [List.map_append] at sameMore
            obtain ⟨sameEarlier, last⟩ := List.append_inj' sameMore rfl
            obtain rfl : other = action := List.singleton_inj.mp last
            obtain ⟨agrees, observed⟩ := before earlierRun sameEarlier
            obtain ⟨after, shown⟩ :=
              agrees.act (firedRun.sound sound) (earlierRun.sound sound) ofUser done otherDone
            rw [List.map_append, observed]
            refine ⟨after, congrArg _ ?_⟩
            exact List.singleton_inj.mpr (after.observed shown)

/-- Timers leave no trace in the calculation: with them or without them, every action of the user
is answered alike and leads to the same calculation. -/
theorem timers_invisible {settings : Settings} (valid : settings.fault? = none)
    {fired quiet : List Event} {c d : Calculator} (firedRun : Run (fresh settings) fired c)
    (quietRun : Run (fresh settings) quiet d)
    (same : quiet.map Event.action = (fired.map Event.action).filter Action.isOfUser) :
    (fired.filter Event.isOfUser).map Event.observed = quiet.map Event.observed :=
  (firedRun.agrees (sound_fresh valid) quietRun same).2

/-- A timer ends the error mode in one of two runs, and a new denominator is answered alike. -/
theorem timer_invisible_after_refusal :
    ∃ fired quiet c d, Run (fresh {}) fired c ∧ Run (fresh {}) quiet d ∧
      c.keypad.mode = .input ∧ d.keypad.mode = .error ∧
      (fired.filter Event.isOfUser).map Event.observed = quiet.map Event.observed := by
  obtain ⟨fired, c, firedRun, firedActions, firedMode⟩ := exists_run (fresh {})
    [.press (.digit .feet 5), .press (.operator .plus), .press (.operator .plus),
      .fire ⟨({} : Settings).modeTimeout, .mode, 3⟩, .setDenominator 8]
    (fun c => c.keypad.mode = .input) (by decide +kernel)
  obtain ⟨quiet, d, quietRun, quietActions, quietMode⟩ := exists_run (fresh {})
    [.press (.digit .feet 5), .press (.operator .plus), .press (.operator .plus),
      .setDenominator 8]
    (fun c => c.keypad.mode = .error) (by decide +kernel)
  have same : quiet.map Event.action = (fired.map Event.action).filter Action.isOfUser := by
    rw [firedActions, quietActions]
    rfl
  exact ⟨fired, quiet, c, d, firedRun, quietRun, of_decide_eq_true firedMode,
    of_decide_eq_true quietMode, timers_invisible (by decide +kernel) firedRun quietRun same⟩

end Calculator

end FeetInches
