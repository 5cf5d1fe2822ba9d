import FeetInches.Proofs.Calculator.Replay
import FeetInches.Proofs.Calculator.Verdict
/-!
Recovery from a rejected key. It makes the keypads anew from the log, and the log says nothing of a
change of denominator: a fraction of an earlier operand, which the change took off the inches pad,
is shown there again. Everything else on the keypads is as it was.
-/

namespace FeetInches.Calculator

/-- Out of the error mode the keypads are those of a replay, or those turned to the denominator. -/
def Tracks (c : Calculator) : Prop :=
  c.keypad.mode ≠ .error →
    c.keypad = c.rebuiltKeypad ∨ c.keypad = c.rebuiltKeypad.turnedTo c.denominator

variable {c next : Calculator}

/-- A replay for another denominator differs in the fraction on the inches pad only. -/
theorem rebuiltKeypad_turnedTo (c : Calculator) (d : Int) :
    { c with denominator := d }.rebuiltKeypad.turnedTo d = c.rebuiltKeypad.turnedTo d := by
  rw [rebuiltKeypad_eq, rebuiltKeypad_eq]
  exact Keypad.turnedTo_replay c.replayBase d c.log

namespace Sound

theorem tracks_of_follows (nextSound : next.Sound) (tracks : c.Tracks)
    (follows : c.Follows next) : next.Tracks := by
  intro calm
  cases follows with
  | replayed anew => exact Or.inl (nextSound.keypad_eq anew calm)
  | kept keypad replay denominator =>
      rw [keypad] at calm
      rw [keypad, replay, denominator]
      exact tracks calm
  | rejected keypad replay =>
      rw [keypad] at calm
      exact absurd rfl calm
  | pressed key before keypad replay denominator =>
      rw [keypad, replay, denominator]
      rcases tracks before with same | turned
      · left
        rw [same]
      · rw [turned]
        rcases c.rebuiltKeypad.press_turnedTo c.denominator key with still | set
        · exact Or.inr still
        · left
          have held : (c.rebuiltKeypad.press key).denominator = c.denominator :=
            (Keypad.press_denominator _ key).trans c.rebuild_denominator
          rw [set, ← held]

theorem tracks_setDenominator (sound : c.Sound) (tracks : c.Tracks) {denominator : Int}
    {reply : Reply} (done : c.setDenominator denominator = (next, .ok reply)) : next.Tracks := by
  obtain ⟨_, edited, dropped, rfl⟩ := setDenominator_eq_ok done
  intro calm
  right
  rcases dropLastFraction_cases (c := { c with denominator := denominator }) sound.order dropped
    with ⟨rfl, _⟩ | ⟨_, _, carry, log, _, _, _, ⟨error, rfl⟩ | ⟨_, rfl⟩⟩
  · change c.keypad.turnedTo denominator =
      { c with denominator := denominator }.rebuiltKeypad.turnedTo denominator
    rw [rebuiltKeypad_turnedTo]
    rcases tracks calm with same | turned
    · rw [same]
    · rw [turned, Keypad.turnedTo_turnedTo]
  · exact absurd error calm
  · rfl

theorem tracks_act (sound : c.Sound) (tracks : c.Tracks) {action : Action} {answer : Answer}
    (done : c.act action = (next, .ok answer)) : next.Tracks := by
  by_cases other : action.setsDenominator = false
  · exact (sound.act done).tracks_of_follows tracks (sound.follows_act done other)
  · cases action with
    | setDenominator denominator =>
        obtain ⟨reply, done, _⟩ := Step.answering_eq_ok.mp done
        exact sound.tracks_setDenominator tracks done
    | _ => exact absurd rfl other

theorem rebuiltKeypad_fraction (sound : c.Sound) :
    c.rebuiltKeypad.inches.fraction = inchesFraction c.denominator c.log := by
  rw [rebuiltKeypad_eq]
  exact Keypad.replay_inchesFraction rfl c.replayBase_mode sound.order.plain
    sound.order.alternates

end Sound

theorem Run.tracks {first : Calculator} {events : List Event} (run : Run first events c)
    (sound : first.Sound) (tracks : first.Tracks) : c.Tracks := by
  induction run with
  | start => exact tracks
  | act run _ done before => exact (run.sound sound).tracks_act before done

theorem tracks_of_reached (reached : c.Reached) : c.Tracks := by
  obtain ⟨settings, events, valid, run⟩ := reached
  exact run.tracks (sound_fresh valid) fun _ => Or.inl rfl

theorem readied_of_calm {key : Key} (calm : c.keypad.mode ≠ .error)
    (goesOn : key.isOperand → c.carry = none ∨ c.log ≠ []) : c.readied key = c.cancelTimers := by
  have still : c.cancelTimers.recover = c.cancelTimers := if_neg calm
  unfold readied dropCarry
  rw [still]
  apply if_neg
  simp only [Bool.and_eq_true, List.isEmpty_iff, Option.isSome_iff_ne_none]
  rintro ⟨⟨operand, carried⟩, empty⟩
  exact (goesOn operand).elim carried fun typed => typed empty

theorem rejecting_held (c : Calculator) (error : CalcError) :
    (∀ timer ∈ (c.cancelTimers.rejecting error).held,
      timer.generation = (c.cancelTimers.rejecting error).generation) ∧
    (c.settings.autoRecover →
      ∃ timer ∈ (c.cancelTimers.rejecting error).held, timer.role = .mode) := by
  unfold rejecting startTimers
  split
  · simp [cancelTimers]
  · rename_i manual
    exact ⟨by simp [cancelTimers], fun automatic => absurd automatic manual⟩

theorem recover_rejecting (c : Calculator) (error : CalcError) :
    (c.rejecting error).recover.keypad = c.rebuiltKeypad := by
  have mode : (c.rejecting error).keypad.mode = .error := by rw [keypad_rejecting]
  unfold recover
  rw [if_pos mode]
  exact rebuiltKeypad_rejecting c error

/-- A replay puts the fraction pressed last back on the inches pad, and changes nothing else. -/
theorem rebuiltKeypad_of_reached (reached : c.Reached) (calm : c.keypad.mode ≠ .error) :
    c.rebuiltKeypad = { c.keypad with
      inches := c.keypad.inches.typeFraction (inchesFraction c.denominator c.log) } ∧
    (c.rebuiltKeypad = c.keypad ↔
      (c.keypad.inches.numerator = 0 → ∀ key ∈ c.log, key.inchesFraction? = none)) := by
  have shown := (sound_of_reached reached).1.rebuiltKeypad_fraction
  have zero := inchesFraction_eq_zero_iff c.denominator c.log
  have denominator : c.rebuiltKeypad.denominator = c.denominator := c.rebuild_denominator
  rw [← shown] at zero ⊢
  rcases tracks_of_reached reached calm with same | turned
  · rw [same]
    exact ⟨rfl, fun _ => zero.mp, fun _ => rfl⟩
  · have blank : c.keypad.inches.numerator = 0 := by
      rw [turned]
      rfl
    constructor
    · rw [turned, Keypad.turnedTo, ← denominator]
      rfl
    · constructor
      · intro same _
        rw [← zero, same]
        exact blank
      · intro still
        rw [turned]
        exact (Keypad.turnedTo_eq_self denominator
          (shown.trans (inchesFraction_of_none (still blank) _))).symm

/-- After a key that is refused, and the recovery from it, the keypads are as before but for the
inches pad: it shows the fraction pressed last on it, though a change of denominator has taken that
off. An operand that starts a new calculation behind a result is not refused. -/
theorem recovery_restores_all_but_fraction {key : Key} {error : CalcError} (reached : c.Reached)
    (calm : c.keypad.mode ≠ .error) (plain : key.isControl = false)
    (goesOn : key.isOperand → c.carry = none ∨ c.log ≠ [])
    (refused : c.refusal? key = some error) :
    ∃ next reply recovered last, c.press key = (next, .ok reply) ∧ reply.accepted = false ∧
      reply.error = some error ∧ next.errorTimeout = (recovered, .ok last) ∧
      (c.settings.autoRecover → ∃ timer ∈ next.held, timer.role = .mode) ∧
      (∀ timer ∈ next.held, timer.role = .mode → next.fire timer = (recovered, .ok ())) ∧
      recovered.keypad = { c.keypad with
        inches := c.keypad.inches.typeFraction (inchesFraction c.denominator c.log) } ∧
      (recovered.keypad = c.keypad ↔
        (c.keypad.inches.numerator = 0 → ∀ key ∈ c.log, key.inchesFraction? = none)) := by
  obtain ⟨_, text, shown⟩ := sound_of_reached reached
  have entered : c.press key = (c.cancelTimers.rejecting error).reply false := by
    have stopped : c.cancelTimers.refusal? key = some error := refused
    rw [press_eq_enter c plain, enter_eq, readied_of_calm calm goesOn, stopped]
    rfl
  have display : (c.cancelTimers.rejecting error).display? = .ok text :=
    (rejecting_display c.cancelTimers error).trans shown
  have recoveredDisplay : (c.cancelTimers.rejecting error).recover.display? = .ok text := by
    rw [recover_frame]
    exact display
  have timeout : (c.cancelTimers.rejecting error).errorTimeout =
      ((c.cancelTimers.rejecting error).recover, .ok _) :=
    reply_eq_ok.mpr ⟨rfl, text, recoveredDisplay, rfl⟩
  have keypad : (c.cancelTimers.rejecting error).recover.keypad = c.rebuiltKeypad :=
    recover_rejecting c.cancelTimers error
  obtain ⟨live, held⟩ := c.rejecting_held error
  refine ⟨_, _, _, _, entered.trans (reply_eq_ok.mpr ⟨rfl, text, display, rfl⟩), rfl,
    rejecting_error _ error, timeout, held, ?_, ?_⟩
  · intro timer member role
    unfold fire
    rw [if_neg (not_not_intro (live timer member)), role, timeout]
    rfl
  · rw [keypad]
    exact rebuiltKeypad_of_reached reached calm

/-- A fraction picked after the change of denominator stays where it is. -/
theorem recovery_keeps_later_fraction :
    ∃ (c next recovered : Calculator) (reply last : Reply), c.Reached ∧ c.denominator = 8 ∧
      c.press (.scalarDigit 3) = (next, .ok reply) ∧ reply.accepted = false ∧
      next.errorTimeout = (recovered, .ok last) ∧ recovered.keypad = c.keypad := by
  obtain ⟨events, c, run, _, seen⟩ := exists_run (fresh {})
    [.press (.fraction .inches ⟨"1/2", ⟨1, 2⟩, by decide +kernel⟩), .press (.operator .plus),
      .setDenominator 8, .press (.fraction .inches ⟨"1/4", ⟨1, 4⟩, by decide +kernel⟩)]
    (fun c => c.denominator = 8 && c.keypad.mode = .imperial && c.keypad.inches.numerator = 1 &&
      c.carry = none && c.refusal? (.scalarDigit 3) = some .mixedType) (by decide +kernel)
  simp only [Bool.and_eq_true, decide_eq_true_eq] at seen
  obtain ⟨⟨⟨⟨denominator, mode⟩, fraction⟩, empty⟩, refused⟩ := seen
  have reached : c.Reached := ⟨{}, events, by decide +kernel, run⟩
  have calm : c.keypad.mode ≠ .error := by
    rw [mode]
    decide
  obtain ⟨next, reply, recovered, last, done, rejected, _, timeout, _, _, _, restored⟩ :=
    recovery_restores_all_but_fraction reached calm rfl (fun _ => Or.inl empty) refused
  refine ⟨c, next, recovered, reply, last, reached, denominator, done, rejected, timeout, ?_⟩
  rw [restored, fraction]
  intro zero
  cases zero

/-- The fraction of an earlier operand, which a change of denominator takes off the inches pad, is
back on it after a second operator and the recovery from that. -/
theorem recovery_shows_earlier_fraction :
    ∃ (c next recovered : Calculator) (reply last : Reply), c.Reached ∧ c.keypad.mode ≠ .error ∧
      c.refusal? (.operator .plus) = some .consecutiveOperator ∧
      c.press (.operator .plus) = (next, .ok reply) ∧ reply.accepted = false ∧
      next.errorTimeout = (recovered, .ok last) ∧
      c.keypad.inches = ⟨0, 0, 8⟩ ∧ recovered.keypad.inches = ⟨0, 1, 2⟩ := by
  obtain ⟨events, c, run, _, seen⟩ := exists_run (fresh {})
    [.press (.fraction .inches ⟨"1/2", ⟨1, 2⟩, by decide +kernel⟩), .press (.operator .plus),
      .setDenominator 8]
    (fun c => c.keypad.mode ≠ .error &&
      c.refusal? (.operator .plus) = some .consecutiveOperator && c.keypad.inches = ⟨0, 0, 8⟩ &&
      match c.press (.operator .plus) with
      | (next, .ok reply) => !reply.accepted && match next.errorTimeout with
        | (recovered, .ok _) => recovered.keypad.inches = ⟨0, 1, 2⟩
        | (_, .error _) => false
      | (_, .error _) => false) (by decide +kernel)
  simp only [Bool.and_eq_true, decide_eq_true_eq] at seen
  obtain ⟨⟨⟨calm, refused⟩, turned⟩, after⟩ := seen
  split at after
  · rename_i next reply done
    simp only [Bool.and_eq_true, Bool.not_eq_true'] at after
    obtain ⟨rejected, after⟩ := after
    split at after
    · rename_i recovered last timeout
      exact ⟨c, next, recovered, reply, last, ⟨{}, events, by decide +kernel, run⟩, calm, refused,
        done, rejected, timeout, turned, of_decide_eq_true after⟩
    · cases after
  · cases after

end FeetInches.Calculator
