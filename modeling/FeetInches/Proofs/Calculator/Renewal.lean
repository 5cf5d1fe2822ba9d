import FeetInches.Calculator.Snapshot
import FeetInches.Proofs.Calculator.Timers
/-!
A reset makes a calculator as good as new. All that is left of its past is how often its timers
were cancelled and which timers there were. Calls do the same to such an older calculator as to the
new one, also where a fault breaks them off, and the timers of the past do nothing to it.
-/

namespace FeetInches

/-- The same call to a calculator without its first timers. These cannot fire there. -/
def Call.since (count : Nat) : Call → Option Call
  | user action ofUser => some (user action ofUser)
  | timer number => if number < count then none else some (timer (number - count))

def Timer.later (timer : Timer) (age : Nat) : Timer :=
  { timer with generation := age + timer.generation }

@[simp] theorem Timer.later_role (timer : Timer) (age : Nat) :
    (timer.later age).role = timer.role := rfl

namespace Calculator

/-! Older calculators -/

/-- The same calculator with a past: timers that were started before, and a number of
cancellations. -/
def older (c : Calculator) (timers : List Timer) (age : Nat) : Calculator :=
  { c with
    generation := age + c.generation
    held := c.held.map (·.later age)
    started := timers ++ c.started.map (·.later age) }

end Calculator

def Step.older {α : Type} (step : Step α) (timers : List Timer) (age : Nat) : Step α :=
  (step.1.older timers age, step.2)

namespace Calculator

variable (c : Calculator) (timers : List Timer) (age : Nat)

@[simp] theorem older_settings : (c.older timers age).settings = c.settings := rfl

@[simp] theorem older_terms : (c.older timers age).terms = c.terms := rfl

@[simp] theorem older_refusal? (key : Key) :
    (c.older timers age).refusal? key = c.refusal? key := rfl

theorem older_reply (accepted : Bool) :
    (c.older timers age).reply accepted = (c.reply accepted).older timers age := rfl

theorem older_cancelTimers :
    (c.older timers age).cancelTimers = c.cancelTimers.older timers age := rfl

theorem older_recover : (c.older timers age).recover = c.recover.older timers age :=
  (apply_ite (older · timers age) (c.keypad.mode = .error) c.rebuild c).symm

theorem older_dropCarry (key : Key) :
    (c.older timers age).dropCarry key = (c.dropCarry key).older timers age :=
  (apply_ite (older · timers age) (key.isOperand && c.carry.isSome && c.log.isEmpty)
    { c with carry := none, keypad := .initial c.denominator } c).symm

theorem older_startTimers :
    (c.older timers age).startTimers = c.startTimers.older timers age := by
  by_cases asked : c.settings.autoRecover
  · simp [startTimers, asked, older, Timer.later]
  · simp [startTimers, asked]

theorem older_reject (error : CalcError) :
    (c.older timers age).reject error = (c.reject error).older timers age :=
  congrArg (·.reply false) (older_startTimers
    { c with error := some error, keypad := { c.keypad with mode := .error } } timers age)

theorem older_store (terms : Expression) :
    (c.older timers age).store terms = (c.store terms).older timers age := by
  unfold store
  simp only
  split <;> rfl

theorem older_evaluate : (c.older timers age).evaluate = c.evaluate.older timers age := by
  simp only [evaluate, older_terms]
  cases Expression.evaluate? c.terms with
  | error fault => rfl
  | ok outcome =>
      cases answer : outcome.result with
      | error error =>
          simp only [answer]
          exact older_reject { c with log := c.log.dropLast }.rebuild timers age error
      | ok result =>
          simp only [answer]
          cases Expression.text? c.terms.dropLast with
          | error fault => rfl
          | ok expression =>
              simp only
              cases result.text? <;> rfl

theorem older_readied (key : Key) :
    (c.older timers age).readied key = (c.readied key).older timers age := by
  simp only [readied, older_cancelTimers, older_recover, older_dropCarry]

theorem older_enter (key : Key) :
    (c.older timers age).enter key = (c.enter key).older timers age := by
  rw [enter_eq, enter_eq, older_readied, older_refusal?]
  cases (c.readied key).refusal? key with
  | some error => exact older_reject (c.readied key) timers age error
  | none =>
      simp only
      split
      · exact older_evaluate ((c.readied key).typed key) timers age
      · rfl

variable {timers age} in
theorem older_andThen {α β : Type} (step : Step α) {next : Calculator → α → Step β}
    (commutes : ∀ c value, next (c.older timers age) value = (next c value).older timers age) :
    andThen (step.older timers age) next = (andThen step next).older timers age := by
  rcases step with ⟨c, fault | value⟩
  · rfl
  · exact commutes c value

theorem older_backspace : (c.older timers age).backspace = c.backspace.older timers age := by
  rw [backspace_eq, backspace_eq, older_cancelTimers, older_terms, older_store]
  exact older_andThen _ fun _ _ => rfl

theorem older_errorTimeout :
    (c.older timers age).errorTimeout = c.errorTimeout.older timers age := by
  simp only [errorTimeout, older_recover, older_reply]

theorem older_press (key : Key) :
    (c.older timers age).press key = (c.press key).older timers age := by
  cases key using Key.cases_control with
  | entered key plain => rw [press_eq_enter _ plain, press_eq_enter _ plain, older_enter]
  | clear => rfl
  | backspace => exact older_backspace c timers age
  | errorTimeout => exact older_errorTimeout c timers age

theorem older_pressEquals : (c.older timers age).pressEquals = c.pressEquals.older timers age := by
  rw [pressEquals_eq, pressEquals_eq, older_press]
  exact older_andThen _ fun _ _ => rfl

theorem older_refreshed : (c.older timers age).refreshed = c.refreshed.older timers age :=
  (apply_ite (older · timers age) (c.keypad.mode = .error) c c.rebuild).symm

theorem older_dropLastFraction :
    (c.older timers age).dropLastFraction = c.dropLastFraction.older timers age := by
  rw [dropLastFraction_eq, dropLastFraction_eq, older_terms]
  cases c.terms.getLast? with
  | none => rfl
  | some last =>
      cases last with
      | typedLength l =>
          by_cases fraction : l.hasFraction
          · simp only [if_pos fraction, older_store]
            refine older_andThen _ fun edited _ => ?_
            rw [older_refreshed]
            rfl
          · simp only [if_neg fraction]
            rfl
      | _ => rfl

theorem older_setDenominator (denominator : Int) :
    (c.older timers age).setDenominator denominator =
      (c.setDenominator denominator).older timers age := by
  have chosen : (c.older timers age).choosing denominator =
      (c.choosing denominator).older timers age := rfl
  rw [setDenominator_eq, setDenominator_eq, chosen, older_dropLastFraction]
  split
  · rfl
  · exact older_andThen _ fun _ _ => rfl

theorem older_fire (timer : Timer) :
    (c.older timers age).fire (timer.later age) = (c.fire timer).older timers age := by
  have present : (timer.later age).generation ≠ (c.older timers age).generation ↔
      timer.generation ≠ c.generation := not_congr Nat.add_left_cancel_iff
  simp only [fire, present, older_errorTimeout, Timer.later_role]
  split
  · rfl
  · cases timer.role <;> rfl

theorem older_act {action : Action} (ofUser : action.isOfUser) :
    (c.older timers age).act action = (c.act action).older timers age := by
  cases action with
  | press key =>
      simp only [act, older_press]
      rfl
  | pressEquals =>
      simp only [act, older_pressEquals]
      rfl
  | backspace =>
      simp only [act, older_backspace]
      rfl
  | clear => rfl
  | reset => rfl
  | errorTimeout =>
      simp only [act, older_errorTimeout]
      rfl
  | setDenominator denominator =>
      simp only [act, older_setDenominator]
      rfl
  | close => rfl
  | fire timer => cases ofUser

variable {timers : List Timer} {age : Nat}

/-- A call does the same to an older calculator as to the new one, and nothing where the new one
cannot get it. -/
theorem older_call? (past : ∀ timer ∈ timers, timer.generation < age) (call : Call) :
    (c.older timers age).call? call =
      match call.since timers.length with
      | some again => (c.call? again).map (·.older timers age)
      | none => some (c.older timers age, .ok .nothing) := by
  cases call with
  | user action ofUser => exact congrArg some (older_act c timers age ofUser)
  | timer number =>
      by_cases old : number < timers.length
      · have found : (c.older timers age).started[number]? = some timers[number] := by
          simp [older, List.getElem?_append_left old]
        have before : timers[number].generation < (c.older timers age).generation :=
          Nat.lt_of_lt_of_le (past _ (List.getElem_mem old)) (Nat.le_add_right age c.generation)
        simp only [Call.since, if_pos old, call?, found, Option.map_some,
          fire_other (Nat.ne_of_lt before)]
      · have found : (c.older timers age).started[number]? =
            c.started[number - timers.length]?.map (·.later age) := by
          simp [older, List.getElem?_append_right (Nat.le_of_not_lt old)]
        simp only [Call.since, if_neg old, call?, found, Option.map_map]
        refine Option.map_congr ?_
        intro timer _
        exact congrArg (·.answering fun _ => Answer.nothing) (older_fire c timers age timer)

theorem older_afterCall (past : ∀ timer ∈ timers, timer.generation < age) (call : Call) :
    (c.older timers age).afterCall call =
      ((call.since timers.length).elim c c.afterCall).older timers age := by
  unfold afterCall
  rw [older_call? c past call]
  cases call.since timers.length with
  | none => rfl
  | some again => cases done : c.call? again <;> simp [done, Step.older]

theorem older_after (past : ∀ timer ∈ timers, timer.generation < age) (calls : List Call) :
    (c.older timers age).after calls =
      (c.after (calls.filterMap (Call.since timers.length))).older timers age := by
  induction calls generalizing c with
  | nil => rfl
  | cons call rest ih =>
      change ((c.older timers age).afterCall call).after rest = _
      rw [older_afterCall c past call, ih]
      cases same : call.since timers.length with
      | none => simp [same]
      | some again => simp [same, after]

theorem renewed_cleared_eq :
    c.renewed.cleared = (fresh c.settings).older c.started (c.generation + 1) := by
  simp [renewed, cleared, cancelTimers, fresh, older, Keypad.control, Keypad.initial]

/-- After a reset, whatever went before it, every call is answered as a fresh calculator with the
same settings answers it and leaves the same state but for the past, be it answered or broken off.
Timers count from the reset on, and those from before it do nothing. -/
theorem reset_renews (settings : Settings) (past future : List Call) (call : Call) :
    let c := (fresh settings).after past
    let renewed := c.reset.1.after future
    let new := (fresh settings).after (future.filterMap (Call.since c.started.length))
    c.reset.2 = .ok ⟨true, .initial settings.denominator, [], none⟩ ∧
      renewed = new.older c.started (c.generation + 1) ∧
      renewed.writtenSnapshot? = new.writtenSnapshot? ∧
      renewed.call? call =
        match call.since c.started.length with
        | some again => (new.call? again).map (·.older c.started (c.generation + 1))
        | none => some (renewed, .ok .nothing) := by
  intro c renewed new
  have timely : Timely settings c := ((Timed.fresh settings).after past).toTimely
  have old : ∀ timer ∈ c.started, timer.generation < c.generation + 1 :=
    fun timer member => Nat.lt_succ_of_le (timely.timers timer member)
  have reset : c.reset.1 = (fresh settings).older c.started (c.generation + 1) := by
    rw [← timely.settings]
    exact renewed_cleared_eq c
  have answer : c.reset.2 = .ok ⟨true, .initial settings.denominator, [], none⟩ := by
    rw [← timely.settings]
    rfl
  have state : renewed = new.older c.started (c.generation + 1) := by
    change c.reset.1.after future = _
    rw [reset]
    exact older_after (fresh settings) old future
  refine ⟨answer, state, ?_, ?_⟩
  · rw [state]
    rfl
  · rw [state]
    exact older_call? new old call

end Calculator

end FeetInches
