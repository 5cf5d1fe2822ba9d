import FeetInches.Proofs.Calculator.Calls
/-!
The timers of a calculator. An action leaves them alone, or it cancels them all by moving on to the
next generation, in which a rejection starts two of its own. So the timers that are held are those
of the present generation, and a timer that is not held does nothing when it fires.
-/

namespace FeetInches

def Action.keepsTimers : Action → Bool
  | press (.control .errorTimeout) | errorTimeout | setDenominator _ | fire _ => true
  | _ => false

namespace Calculator

def recoveryTimers (c : Calculator) : List Timer :=
  [⟨c.settings.modeTimeout, .mode, c.generation⟩,
    ⟨c.settings.bannerTimeout, .banner, c.generation⟩]

structure SameTimers (c d : Calculator) : Prop where
  settings : d.settings = c.settings
  generation : d.generation = c.generation
  held : d.held = c.held
  started : d.started = c.started

inductive Cancels (c next : Calculator) : Prop where
  | quietly : c.cancelTimers.SameTimers next → Cancels c next
  | rejecting (before : Calculator) (error : CalcError) : c.cancelTimers.SameTimers before →
      next = before.rejecting error → Cancels c next

namespace SameTimers

variable {c d e : Calculator}

theorem refl (c : Calculator) : c.SameTimers c := ⟨rfl, rfl, rfl, rfl⟩

theorem trans (first : c.SameTimers d) (second : d.SameTimers e) : c.SameTimers e where
  settings := second.settings.trans first.settings
  generation := second.generation.trans first.generation
  held := second.held.trans first.held
  started := second.started.trans first.started

theorem recover (c : Calculator) : c.SameTimers c.recover := by
  rw [recover_frame]
  exact ⟨rfl, rfl, rfl, rfl⟩

theorem dropCarry (c : Calculator) (key : Key) : c.SameTimers (c.dropCarry key) := by
  unfold Calculator.dropCarry
  split <;> exact ⟨rfl, rfl, rfl, rfl⟩

theorem readied (c : Calculator) (key : Key) : c.cancelTimers.SameTimers (c.readied key) :=
  (recover c.cancelTimers).trans (dropCarry c.cancelTimers.recover key)

theorem typed (c : Calculator) (key : Key) : c.SameTimers (c.typed key) := ⟨rfl, rfl, rfl, rfl⟩

theorem withdrawn (c : Calculator) : c.SameTimers c.withdrawn := ⟨rfl, rfl, rfl, rfl⟩

theorem store (c : Calculator) (terms : Expression) : c.SameTimers (c.store terms).1 := by
  unfold Calculator.store
  simp only
  split <;> exact ⟨rfl, rfl, rfl, rfl⟩

theorem refreshed (c : Calculator) : c.SameTimers c.refreshed := by
  unfold Calculator.refreshed
  split <;> exact ⟨rfl, rfl, rfl, rfl⟩

theorem andThen {α β : Type} {step : Step α} {next : Calculator → α → Step β}
    (first : c.SameTimers step.1)
    (keeps : ∀ (d : Calculator) (value : α), d.SameTimers (next d value).1) :
    c.SameTimers (Calculator.andThen step next).1 := by
  rcases step with ⟨d, fault | value⟩
  · exact first
  · exact first.trans (keeps d value)

theorem dropLastFraction (c : Calculator) : c.SameTimers c.dropLastFraction.1 := by
  rw [dropLastFraction_eq]
  split
  · split
    · exact andThen (store c _) fun edited _ => refreshed edited
    · exact refl c
  · exact refl c

theorem setDenominator (c : Calculator) (denominator : Int) :
    c.SameTimers (c.setDenominator denominator).1 := by
  rw [setDenominator_eq]
  split
  · exact refl c
  · have chosen : c.SameTimers (c.choosing denominator) := ⟨rfl, rfl, rfl, rfl⟩
    exact andThen (chosen.trans (dropLastFraction _)) fun _ _ => ⟨rfl, rfl, rfl, rfl⟩

theorem fire (c : Calculator) (timer : Timer) : c.SameTimers (c.fire timer).1 := by
  unfold Calculator.fire
  split
  · exact refl c
  · split
    · exact recover c
    · exact ⟨rfl, rfl, rfl, rfl⟩

end SameTimers

theorem rejecting_timers (c : Calculator) (error : CalcError) :
    let timers := if c.settings.autoRecover then c.recoveryTimers else []
    (c.rejecting error).settings = c.settings ∧ (c.rejecting error).generation = c.generation ∧
      (c.rejecting error).held = c.held ++ timers ∧
      (c.rejecting error).started = c.started ++ timers := by
  unfold rejecting startTimers recoveryTimers
  split <;> simp_all

theorem Cancels.generation {c next : Calculator} (cancels : c.Cancels next) :
    next.generation = c.generation + 1 := by
  cases cancels with
  | quietly same => exact same.generation
  | rejecting before error same rejected =>
      rw [rejected, (before.rejecting_timers error).2.1]
      exact same.generation

theorem cancels_enter (c : Calculator) (key : Key) : c.Cancels (c.enter key).1 := by
  have ready := SameTimers.readied c key
  have typed := ready.trans (SameTimers.typed _ key)
  cases c.enters key with
  | refused error _ step =>
      rw [step]
      exact .rejecting _ error ready rfl
  | broken _ _ _ _ step =>
      rw [step]
      exact .quietly (typed.trans ⟨rfl, rfl, rfl, rfl⟩)
  | failed error _ _ _ step =>
      rw [step]
      exact .rejecting _ error (typed.trans (SameTimers.withdrawn _)) rfl
  | calculated _ _ _ _ _ _ _ _ step =>
      rw [step]
      exact .quietly (typed.trans ⟨rfl, rfl, rfl, rfl⟩)
  | taken _ _ step =>
      rw [step]
      exact .quietly typed

theorem cancels_backspace (c : Calculator) : c.Cancels c.backspace.1 := by
  rw [backspace_eq]
  exact .quietly (SameTimers.andThen (SameTimers.store c.cancelTimers _)
    fun _ _ => ⟨rfl, rfl, rfl, rfl⟩)

/-- What an action does to the timers, be it answered or broken off. -/
theorem timers_act (c : Calculator) (action : Action) :
    if action.keepsTimers then c.SameTimers (c.act action).1 else c.Cancels (c.act action).1 := by
  have cleared (d : Calculator) (same : c.SameTimers d) : c.Cancels d.clear.1 :=
    .quietly ⟨same.settings, congrArg (· + 1) same.generation, rfl, same.started⟩
  cases action with
  | press key =>
      cases key using Key.cases_control with
      | entered key plain =>
          have cancels : (Action.press key).keepsTimers = false := by
            cases key <;> first | rfl | cases plain
          rw [cancels, act, press_eq_enter c plain]
          exact cancels_enter c key
      | clear => exact cleared c (.refl c)
      | backspace => exact cancels_backspace c
      | errorTimeout => exact SameTimers.recover c
  | pressEquals =>
      change c.Cancels c.pressEquals.1
      rw [pressEquals_state]
      exact cancels_enter c .equals
  | backspace => exact cancels_backspace c
  | clear => exact cleared c (.refl c)
  | reset => exact cleared c.renewed ⟨rfl, rfl, rfl, rfl⟩
  | errorTimeout => exact SameTimers.recover c
  | setDenominator denominator => exact SameTimers.setDenominator c denominator
  | close => exact .quietly (.refl _)
  | fire timer => exact SameTimers.fire c timer

/-! Generations -/

/-- The settings are the given ones, and no timer is of a generation to come. -/
structure Timely (settings : Settings) (c : Calculator) : Prop where
  settings : c.settings = settings
  timers : ∀ timer ∈ c.started, timer.generation ≤ c.generation

/-- The timers of the present generation are those that are held: none, or the two of a rejection.
No timer was started twice. -/
structure Timed (settings : Settings) (c : Calculator) : Prop extends Timely settings c where
  current : ∀ timer ∈ c.started, timer.generation = c.generation ↔ timer ∈ c.held
  present : ∀ timer ∈ c.held, timer ∈ c.started
  held : c.held = [] ∨ c.held = c.recoveryTimers
  distinct : c.started.Nodup

namespace Timed

variable {settings : Settings} {c d : Calculator}

theorem fresh (settings : Settings) : Timed settings (fresh settings) where
  settings := rfl
  timers := by simp [Calculator.fresh]
  current := by simp [Calculator.fresh]
  present := by simp [Calculator.fresh]
  held := Or.inl rfl
  distinct := List.nodup_nil

theorem same (timed : Timed settings c) (same : c.SameTimers d) : Timed settings d := by
  obtain ⟨settings, generation, held, started⟩ := same
  have recovery : d.recoveryTimers = c.recoveryTimers := by
    rw [recoveryTimers, recoveryTimers, settings, generation]
  refine ⟨⟨settings.trans timed.settings, ?_⟩, ?_, ?_, ?_, ?_⟩
  · rw [started, generation]
    exact timed.timers
  · rw [started, generation, held]
    exact timed.current
  · rw [started, held]
    exact timed.present
  · rw [held, recovery]
    exact timed.held
  · rw [started]
    exact timed.distinct

theorem cancelTimers (timed : Timed settings c) : Timed settings c.cancelTimers := by
  have past : ∀ timer ∈ c.started, timer.generation < c.generation + 1 :=
    fun timer member => Nat.lt_succ_of_le (timed.timers timer member)
  refine ⟨⟨timed.settings, fun timer member => Nat.le_of_lt (past timer member)⟩, ?_, ?_,
    Or.inl rfl, timed.distinct⟩
  · intro timer member
    refine ⟨fun same => absurd same (Nat.ne_of_lt (past timer member)), fun held => ?_⟩
    cases held
  · intro timer held
    cases held

theorem rejecting (timed : Timed settings c) (idle : c.held = []) (error : CalcError) :
    Timed settings (c.rejecting error) := by
  have past : ∀ timer ∈ c.started, timer.generation ≠ c.generation := by
    intro timer member same
    have held := (timed.current timer member).mp same
    rw [idle] at held
    cases held
  have now : ∀ timer ∈ c.recoveryTimers, timer.generation = c.generation := by
    simp [recoveryTimers]
  obtain ⟨settings, generation, held, started⟩ := c.rejecting_timers error
  rw [idle, List.nil_append] at held
  split at held
  · rename_i automatic
    rw [if_pos automatic] at started
    refine ⟨⟨settings.trans timed.settings, ?_⟩, ?_, ?_, Or.inr ?_, ?_⟩
    · intro timer member
      rw [started] at member
      rw [generation]
      rcases List.mem_append.mp member with old | new
      · exact timed.timers timer old
      · exact Nat.le_of_eq (now timer new)
    · intro timer member
      rw [started] at member
      rw [generation, held]
      rcases List.mem_append.mp member with old | new
      · have other := past timer old
        exact ⟨fun same => absurd same other, fun new => absurd (now timer new) other⟩
      · exact ⟨fun _ => new, fun _ => now timer new⟩
    · rw [held, started]
      exact fun timer member => List.mem_append_right _ member
    · rw [held, recoveryTimers, recoveryTimers, settings, generation]
    · rw [started]
      refine List.nodup_append.mpr ⟨timed.distinct, by simp [recoveryTimers], ?_⟩
      intro timer old other new same
      exact past timer old (same ▸ now other new)
  · rename_i manual
    rw [if_neg manual, List.append_nil] at started
    exact timed.same ⟨settings, generation, held.trans idle.symm, started⟩

theorem cancels (timed : Timed settings c) (cancels : c.Cancels d) : Timed settings d := by
  cases cancels with
  | quietly same => exact timed.cancelTimers.same same
  | rejecting before error same rejected =>
      rw [rejected]
      exact (timed.cancelTimers.same same).rejecting same.held error

theorem act (timed : Timed settings c) (action : Action) : Timed settings (c.act action).1 := by
  have step := c.timers_act action
  split at step
  · exact timed.same step
  · exact timed.cancels step

theorem afterCall (timed : Timed settings c) (call : Call) :
    Timed settings (c.afterCall call) := by
  cases call with
  | user action ofUser => exact timed.act action
  | timer number =>
      simp only [Calculator.afterCall, call?]
      cases c.started[number]? with
      | none => exact timed
      | some timer => exact timed.act (.fire timer)

theorem after (timed : Timed settings c) (calls : List Call) : Timed settings (c.after calls) := by
  induction calls generalizing c with
  | nil => exact timed
  | cons call rest ih => exact ih (timed.afterCall call)

end Timed

theorem after_concat (c : Calculator) (calls : List Call) (call : Call) :
    c.after (calls ++ [call]) = (c.after calls).afterCall call := by
  simp [after]

theorem timers_afterCall (c : Calculator) (call : Call) :
    c.SameTimers (c.afterCall call) ∨ c.Cancels (c.afterCall call) := by
  have step (action : Action) : c.SameTimers (c.act action).1 ∨ c.Cancels (c.act action).1 := by
    have done := c.timers_act action
    split at done
    · exact Or.inl done
    · exact Or.inr done
  cases call with
  | user action ofUser => exact step action
  | timer number =>
      simp only [afterCall, call?]
      cases c.started[number]? with
      | none => exact Or.inl (.refl c)
      | some timer => exact step (.fire timer)

/-- The call ends in a rejection, which starts these timers. -/
def Starts (c : Calculator) (call : Call) (timers : List Timer) : Prop :=
  let rejected := c.afterCall call
  rejected.keypad.mode = .error ∧ rejected.error.isSome ∧
    rejected.generation = c.generation + 1 ∧ rejected.held = timers ∧
    rejected.started = c.started ++ timers

theorem starts_of_rejecting {c before : Calculator} {call : Call} {error : CalcError}
    (same : c.cancelTimers.SameTimers before)
    (rejected : c.afterCall call = before.rejecting error) :
    c.Starts call (c.afterCall call).held := by
  obtain ⟨_, generation, held, started⟩ := before.rejecting_timers error
  unfold Starts
  rw [rejected]
  refine ⟨?_, ?_, generation.trans same.generation, rfl, ?_⟩
  · rw [rejecting_frame]
  · rw [rejecting_error]
    rfl
  · rw [held, started, same.held, same.started]
    rfl

/-- All timers that are held come from one rejection, after which no call cancelled them. -/
theorem held_started_at_once (first : Calculator) (idle : first.held = []) (calls : List Call) :
    (first.after calls).held = [] ∨ ∃ earlier call later, calls = earlier ++ call :: later ∧
      (first.after earlier).Starts call (first.after calls).held := by
  induction calls using List.reverseRecOn with
  | nil => exact Or.inl idle
  | append_singleton calls call ih =>
      rw [after_concat]
      rcases (first.after calls).timers_afterCall call with
        same | same | ⟨before, error, same, done⟩
      · rw [same.held]
        refine ih.imp_right ?_
        rintro ⟨earlier, rejected, later, rfl, starts⟩
        exact ⟨earlier, rejected, later ++ [call], by simp, starts⟩
      · exact Or.inl same.held
      · exact Or.inr ⟨calls, call, [], rfl, starts_of_rejecting same done⟩

theorem fire_other {c : Calculator} {timer : Timer} (other : timer.generation ≠ c.generation) :
    c.act (.fire timer) = (c, .ok .nothing) := by
  simp only [act, fire, if_pos other]
  rfl

theorem fire_frame (c : Calculator) (timer : Timer) :
    ∃ keypad error, (c.act (.fire timer)).1 = { c with keypad := keypad, error := error } := by
  change ∃ keypad error, (c.fire timer).1 = { c with keypad := keypad, error := error }
  unfold fire
  split
  · exact ⟨_, _, rfl⟩
  · split
    · change ∃ keypad error, c.recover = { c with keypad := keypad, error := error }
      rw [recover_frame]
      exact ⟨_, _, rfl⟩
    · exact ⟨_, _, rfl⟩

theorem accepted_of_control {c next : Calculator} {key : Key} {reply : Reply}
    (control : key.isControl) (done : c.press key = (next, .ok reply)) :
    reply.accepted = true := by
  cases key using Key.cases_control with
  | entered key plain =>
      rw [plain] at control
      cases control
  | backspace =>
      change c.backspace = _ at done
      rw [backspace_eq] at done
      rcases stored : c.cancelTimers.store c.cancelTimers.terms.eraseInput with
        ⟨edited, fault | value⟩
      · rw [stored] at done
        cases done
      · rw [stored] at done
        obtain ⟨_, _, _, rfl⟩ := reply_eq_ok.mp done
        rfl
  | clear | errorTimeout =>
      obtain ⟨_, _, _, rfl⟩ := reply_eq_ok.mp done
      rfl

theorem held_of_rejected {c next : Calculator} {key : Key} {reply : Reply}
    (automatic : c.settings.autoRecover) (done : c.press key = (next, .ok reply))
    (rejected : reply.accepted = false) : next.held = next.recoveryTimers := by
  have started {before : Calculator} {error : CalcError} (same : c.cancelTimers.SameTimers before) :
      (before.rejecting error).held = (before.rejecting error).recoveryTimers := by
    obtain ⟨settings, generation, held, _⟩ := before.rejecting_timers error
    have automatic : before.settings.autoRecover := by
      rw [same.settings]
      exact automatic
    rw [if_pos automatic, same.held] at held
    rw [held, recoveryTimers, recoveryTimers, settings, generation]
    rfl
  have ready := SameTimers.readied c key
  cases plain : key.isControl with
  | true =>
      rw [accepted_of_control plain done] at rejected
      cases rejected
  | false =>
      rw [press_eq_enter c plain] at done
      cases entered done with
      | refused error _ state =>
          rw [state]
          exact started ready
      | failed error _ _ _ state =>
          rw [state]
          exact started ((ready.trans (SameTimers.typed _ key)).trans (SameTimers.withdrawn _))
      | calculated _ _ _ _ _ _ _ accepted | taken _ _ _ accepted =>
          rw [rejected] at accepted
          cases accepted

/-- After any calls, answered or broken off, the timers that are held are none, or the two that one
rejection has started, and they are the only ones of the present generation. All others do nothing
when they fire, and the held ones change no more than keypads and error. A timer is held until the
next action that does not keep timers, and those of a rejection are held from then on. -/
theorem held_timers_alone_act (settings : Settings) (calls : List Call) :
    let c := (fresh settings).after calls
    (c.held = [] ∨ c.held = c.recoveryTimers ∧
      ∃ earlier call later, calls = earlier ++ call :: later ∧
        ((fresh settings).after earlier).Starts call c.held) ∧
    (∀ timer ∈ c.started, timer.generation = c.generation ↔ timer ∈ c.held) ∧
    c.started.Nodup ∧
    (∀ timer ∈ c.started, timer ∉ c.held → c.act (.fire timer) = (c, .ok .nothing)) ∧
    (∀ timer ∈ c.held, ∃ keypad error,
      (c.act (.fire timer)).1 = { c with keypad := keypad, error := error }) ∧
    (∀ action, let next := (c.act action).1
      if action.keepsTimers then next.held = c.held else ∀ timer ∈ c.started, timer ∉ next.held) ∧
    ∀ key next reply, settings.autoRecover → c.press key = (next, .ok reply) →
      reply.accepted = false → next.held = next.recoveryTimers := by
  intro c
  have timed : Timed settings c := (Timed.fresh settings).after calls
  refine ⟨?_, timed.current, timed.distinct, ?_, ?_, ?_, ?_⟩
  · rcases held_started_at_once (fresh settings) rfl calls with idle | started
    · exact Or.inl idle
    · exact timed.held.imp_right fun both => ⟨both, started⟩
  · intro timer member idle
    exact fire_other (mt (timed.current timer member).mp idle)
  · exact fun timer _ => c.fire_frame timer
  · intro action next
    have step := c.timers_act action
    split at step
    · rename_i keeps
      rw [if_pos keeps]
      exact step.held
    · rename_i cancels
      rw [if_neg cancels]
      intro timer member held
      have after : Timed settings next := timed.cancels step
      have generation : next.generation = c.generation + 1 := step.generation
      have old := timed.timers timer member
      have new := (after.current timer (after.present timer held)).mpr held
      omega
  · intro key next reply automatic done rejected
    refine held_of_rejected ?_ done rejected
    rw [timed.settings]
    exact automatic

end Calculator

end FeetInches
