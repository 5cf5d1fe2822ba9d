import FeetInches.Calculator.Basic

namespace FeetInches

inductive Action where
  | press (key : Key)
  | pressEquals
  | backspace
  | clear
  | reset
  | errorTimeout
  | setDenominator (denominator : Int)
  | close
  | fire (timer : Timer)
  deriving DecidableEq

inductive Answer where
  | reply (reply : Reply)
  | evaluation (evaluation : Calculator.Evaluation)
  | nothing
  deriving DecidableEq

def Action.isOfUser : Action → Bool
  | fire _ => false
  | _ => true

structure Event where
  action : Action
  answer : Answer
  state : Calculator
  deriving DecidableEq

def Event.isOfUser (event : Event) : Bool := event.action.isOfUser

def Step.answering {α β : Type} (step : Step α) (answer : α → β) : Step β :=
  (step.1, step.2.map answer)

namespace Calculator

def act (c : Calculator) : Action → Step Answer
  | .press key => (c.press key).answering .reply
  | .pressEquals => c.pressEquals.answering .evaluation
  | .backspace => c.backspace.answering .reply
  | .clear => c.clear.answering .reply
  | .reset => c.reset.answering .reply
  | .errorTimeout => c.errorTimeout.answering .reply
  | .setDenominator denominator => (c.setDenominator denominator).answering .reply
  | .close => (c.close, .ok .nothing)
  | .fire timer => (c.fire timer).answering fun _ => .nothing

/-- A timer fires only after it was started; it may do so late, and more than once. -/
def Admits (c : Calculator) : Action → Prop
  | .fire timer => timer ∈ c.started
  | _ => True

inductive Run (first : Calculator) : List Event → Calculator → Prop where
  | start : Run first [] first
  | act {events : List Event} {c next : Calculator} {action : Action} {answer : Answer} :
      Run first events c → c.Admits action → c.act action = (next, .ok answer) →
      Run first (events ++ [⟨action, answer, next⟩]) next

theorem run_nil {first last : Calculator} : Run first [] last ↔ last = first := by
  constructor
  · intro run
    generalize shape : ([] : List Event) = events at run
    cases run with
    | start => rfl
    | act => simp at shape
  · rintro rfl
    exact .start

theorem run_concat {first last : Calculator} {events : List Event} {event : Event} :
    Run first (events ++ [event]) last ↔
      ∃ c, Run first events c ∧ c.Admits event.action ∧
        c.act event.action = (last, .ok event.answer) ∧ event.state = last := by
  constructor
  · intro run
    generalize shape : events ++ [event] = all at run
    cases run with
    | start => simp at shape
    | act before admits done =>
        obtain ⟨rfl, last⟩ := List.append_inj' shape rfl
        obtain rfl := List.singleton_inj.mp last
        exact ⟨_, before, admits, done, rfl⟩
  · rintro ⟨c, before, admits, done, rfl⟩
    exact .act before admits done

instance (c : Calculator) (action : Action) : Decidable (c.Admits action) := by
  cases action <;> unfold Admits <;> infer_instance

def perform? (events : List Event) (c : Calculator) :
    List Action → Option (List Event × Calculator)
  | [] => some (events, c)
  | action :: rest =>
    if c.Admits action then
      match c.act action with
      | (next, .ok answer) => next.perform? (events ++ [⟨action, answer, next⟩]) rest
      | (_, .error _) => none
    else none

theorem run_of_perform? {first c last : Calculator} {events all : List Event}
    {actions : List Action} (run : Run first events c)
    (performed : c.perform? events actions = some (all, last)) :
    Run first all last ∧ all.map Event.action = events.map Event.action ++ actions := by
  induction actions generalizing events c with
  | nil =>
      cases performed
      exact ⟨run, (List.append_nil _).symm⟩
  | cons action rest ih =>
      unfold perform? at performed
      split at performed
      · rename_i admits
        split at performed
        · rename_i next answer done
          obtain ⟨whole, actions⟩ := ih (.act run admits done) performed
          refine ⟨whole, ?_⟩
          rw [actions, List.map_append, List.append_assoc]
          rfl
        · cases performed
      · cases performed

theorem exists_run (first : Calculator) (actions : List Action) (seen : Calculator → Bool)
    (performed : (first.perform? [] actions).map (fun done => seen done.2) = some true) :
    ∃ events last, Run first events last ∧ events.map Event.action = actions ∧ seen last := by
  obtain ⟨⟨events, last⟩, done, holds⟩ := Option.map_eq_some_iff.mp performed
  obtain ⟨run, same⟩ := run_of_perform? .start done
  exact ⟨events, last, run, same, holds⟩

/-- A calculator that a run leads to from a fresh one with settings that are in order. -/
def Reached (c : Calculator) : Prop :=
  ∃ settings events, settings.fault? = none ∧ Run (fresh settings) events c

theorem Reached.act {c next : Calculator} {action : Action} {answer : Answer} (reached : c.Reached)
    (admits : c.Admits action) (done : c.act action = (next, .ok answer)) : next.Reached := by
  obtain ⟨settings, events, valid, run⟩ := reached
  exact ⟨settings, _, valid, run.act admits done⟩

end Calculator

end FeetInches
