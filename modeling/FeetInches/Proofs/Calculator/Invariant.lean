import FeetInches.Proofs.Calculator.Steady
import FeetInches.Proofs.Keypad.Turning

namespace FeetInches.Calculator

/-- What holds of a calculator between any two actions. -/
structure WellFormed (c : Calculator) : Prop where
  plain : ∀ key ∈ c.log, key.isControl = false
  unanswered : .equals ∉ c.log
  spaced : c.log.IsChain fun first second => ¬ (first.isOperator ∧ second.isOperator)
  carried : ∀ result ∈ c.carry, result.isResult
  alternates : c.terms.Alternates
  typed : ∀ term ∈ c.terms.tail, term.isResult = false
  mode : c.keypad.mode ≠ .error → c.keypad.mode = c.terms.mode
  padDenominator : c.keypad.denominator = c.denominator
  denominator : c.denominator ∈ padDenominators

/-- The part of it from which the rest follows. -/
structure Sound (c : Calculator) : Prop where
  order : InOrder c.carry c.log
  mode : c.keypad.mode ≠ .error → c.keypad.mode = c.terms.mode
  padDenominator : c.keypad.denominator = c.denominator
  denominator : c.denominator ∈ padDenominators
  settings : c.settings.fault? = none

theorem Sound.steady {c : Calculator} (sound : c.Sound) : c.Steady :=
  ⟨sound.order.plain, sound.order.carried, sound.order.alternates, sound.mode⟩

theorem Steady.inOrder {c : Calculator} (steady : c.Steady) (unanswered : .equals ∉ c.log) :
    InOrder c.carry c.log :=
  ⟨steady.plain, unanswered, steady.carried, steady.alternates⟩

theorem Sound.wellFormed {c : Calculator} (sound : c.Sound) : c.WellFormed where
  plain := sound.order.plain
  unanswered := sound.order.unanswered
  spaced := sound.order.spaced
  carried := sound.order.carried
  alternates := sound.order.alternates
  typed term member := Term.not_isResult_of_tidy (sound.order.orderly.others term member)
  mode := sound.mode
  padDenominator := sound.padDenominator
  denominator := sound.denominator

theorem denominator_of_settings {settings : Settings} (valid : settings.fault? = none) :
    settings.denominator ∈ padDenominators := by
  by_contra unknown
  simp [Settings.fault?, unknown] at valid

theorem sound_fresh {settings : Settings} (valid : settings.fault? = none) :
    (fresh settings).Sound :=
  ⟨InOrder.empty, fun _ => rfl, rfl, denominator_of_settings valid, valid⟩

theorem sound_rebuild {c : Calculator} (order : InOrder c.carry c.log)
    (denominator : c.denominator ∈ padDenominators) (settings : c.settings.fault? = none) :
    c.rebuild.Sound :=
  ⟨order, fun _ => rebuild_mode order.plain order.alternates, rebuild_denominator c, denominator,
    settings⟩

namespace Sound

variable {c : Calculator}

theorem cancelTimers (sound : c.Sound) : c.cancelTimers.Sound :=
  ⟨sound.order, sound.mode, sound.padDenominator, sound.denominator, sound.settings⟩

theorem dropError (sound : c.Sound) : { c with error := none }.Sound :=
  ⟨sound.order, sound.mode, sound.padDenominator, sound.denominator, sound.settings⟩

theorem recover (sound : c.Sound) : c.recover.Sound := by
  unfold Calculator.recover
  split
  · exact sound_rebuild sound.order sound.denominator sound.settings
  · exact sound

theorem rejecting (sound : c.Sound) (error : CalcError) : (c.rejecting error).Sound := by
  rw [rejecting_frame]
  exact ⟨sound.order, fun other => absurd rfl other, sound.padDenominator, sound.denominator,
    sound.settings⟩

theorem readied (sound : c.Sound) (key : Key) :
    (c.readied key).Sound ∧ (c.readied key).keypad.mode = (c.readied key).terms.mode ∧
      (key.isOperand → (c.readied key).carry = none ∨ (c.readied key).log ≠ []) := by
  obtain ⟨ready, tracked, apart⟩ := sound.steady.readied key
  have unanswered : .equals ∉ (c.readied key).log := by
    rcases c.readied_terms key with ⟨_, log⟩ | ⟨_, _, _, _, log⟩
    · rw [log]
      exact sound.order.unanswered
    · simp [log]
  have recovered := sound.cancelTimers.recover
  have padDenominator : (c.readied key).keypad.denominator = (c.readied key).denominator ∧
      (c.readied key).denominator = c.cancelTimers.recover.denominator ∧
      (c.readied key).settings = c.cancelTimers.recover.settings := by
    unfold Calculator.readied dropCarry
    split
    · exact ⟨rfl, rfl, rfl⟩
    · exact ⟨recovered.padDenominator, rfl, rfl⟩
  obtain ⟨pads, denominator, settings⟩ := padDenominator
  refine ⟨⟨ready.inOrder unanswered, ready.mode, pads, ?_, ?_⟩, tracked, apart⟩
  · rw [denominator]
    exact recovered.denominator
  · rw [settings]
    exact recovered.settings

theorem typed (sound : c.Sound) (tracked : c.keypad.mode = c.terms.mode) {key : Key}
    (plain : key.isControl = false) (notEquals : key ≠ .equals)
    (apart : key.isOperand → c.carry = none ∨ c.log ≠ []) (admitted : c.refusal? key = none) :
    (c.typed key).Sound := by
  have steady := sound.steady.typed tracked plain apart admitted
  exact ⟨sound.order.concat plain notEquals steady.alternates, steady.mode,
    (Keypad.press_denominator c.keypad key).trans sound.padDenominator, sound.denominator,
    sound.settings⟩

theorem complete (sound : c.Sound) (tracked : c.keypad.mode = c.terms.mode)
    (admitted : c.refusal? Key.equals = none) : c.terms.Complete := by
  have ended : c.terms.mode ≠ .input := by
    rcases sound.steady.turn tracked rfl admitted with ⟨operand, _⟩ | ⟨_, ended⟩
    · cases operand
    · exact ended
  exact Expression.complete_of_alternates sound.order.alternates sound.order.arithmetic
    (mt Expression.mode_eq_input_of_awaitsOperand ended)

theorem withdrawn (sound : c.Sound) : (c.typed .equals).withdrawn.Sound := by
  refine sound_rebuild ?_ sound.denominator sound.settings
  change InOrder c.carry (c.log ++ [Key.equals]).dropLast
  rw [List.dropLast_concat]
  exact sound.order

theorem enter (sound : c.Sound) {key : Key} (plain : key.isControl = false) {next : Calculator}
    {reply : Reply} (done : c.enter key = (next, .ok reply)) : next.Sound := by
  obtain ⟨ready, tracked, apart⟩ := sound.readied key
  cases entered done with
  | refused error _ state =>
      rw [state]
      exact ready.rejecting error
  | failed error equals _ _ state =>
      subst equals
      rw [state]
      exact ready.withdrawn.rejecting error
  | calculated result expression text equals admitted solved state =>
      subst equals
      have isResult := Expression.calculated_solve (ready.complete tracked admitted)
      rw [solved] at isResult
      rw [state]
      exact sound_rebuild (InOrder.result isResult) ready.denominator ready.settings
  | taken notEquals admitted state =>
      rw [state]
      exact ready.typed tracked plain notEquals apart admitted

theorem cleared (sound : c.Sound) : c.cleared.Sound :=
  ⟨InOrder.empty, fun _ => rfl, sound.padDenominator, sound.denominator, sound.settings⟩

theorem renewed_cleared (sound : c.Sound) : c.renewed.cleared.Sound :=
  ⟨InOrder.empty, fun _ => rfl, rfl, denominator_of_settings sound.settings, sound.settings⟩

end Sound

theorem backspace_eq_ok {c next : Calculator} {reply : Reply} (order : InOrder c.carry c.log)
    (done : c.backspace = (next, .ok reply)) :
    ∃ carry log, InOrder carry log ∧
      carry.toList ++ Expression.ofKeys log = c.terms.eraseInput ∧
      next = { c.cancelTimers with carry := carry, log := log, error := none }.rebuild := by
  unfold backspace at done
  simp only at done
  split at done
  · cases done
  · rename_i edited stored
    obtain ⟨carry, log, rfl, kept, same⟩ := store_orderly order.orderly.eraseInput stored
    obtain ⟨rfl, _⟩ := reply_eq_ok.mp done
    exact ⟨carry, log, kept, same, rfl⟩

/-- A fraction that was typed last is dropped from the log. The keypads are made anew from it, but
for the error mode. -/
theorem dropLastFraction_cases {c next : Calculator} (order : InOrder c.carry c.log)
    (done : c.dropLastFraction = (next, .ok ())) :
    (next = c ∧ ∀ l, c.terms.getLast? = some (.typedLength l) → l.hasFraction = false) ∨
      ∃ front l carry log, c.terms = front ++ [.typedLength l] ∧ InOrder carry log ∧
      carry.toList ++ Expression.ofKeys log = front ++ [.typedLength l.dropFraction] ∧
      (c.keypad.mode = .error ∧ next = { c with carry := carry, log := log } ∨
        c.keypad.mode ≠ .error ∧ next = { c with carry := carry, log := log }.rebuild) := by
  unfold dropLastFraction at done
  split at done
  · rename_i l last
    split at done
    · obtain ⟨front, shape⟩ := List.getLast?_eq_some_iff.mp last
      have orderly : c.terms.Orderly := order.orderly
      rw [shape] at orderly
      rw [shape, List.dropLast_concat] at done
      split at done
      · cases done
      · rename_i edited stored
        obtain ⟨carry, log, rfl, kept, same⟩ := store_orderly orderly.dropFraction stored
        right
        refine ⟨front, l, carry, log, shape, kept, same, ?_⟩
        split at done
        · rename_i error
          cases done
          exact Or.inl ⟨error, rfl⟩
        · rename_i calm
          cases done
          exact Or.inr ⟨calm, rfl⟩
    · rename_i lacking
      cases done
      refine Or.inl ⟨rfl, fun typed found => ?_⟩
      cases last.symm.trans found
      exact eq_false_of_ne_true lacking
  · rename_i other
    cases done
    exact Or.inl ⟨rfl, fun typed found => absurd found (other typed)⟩

theorem setDenominator_eq_ok {c next : Calculator} {denominator : Int} {reply : Reply}
    (done : c.setDenominator denominator = (next, .ok reply)) :
    denominator ∈ padDenominators ∧ ∃ edited,
      { c with denominator := denominator }.dropLastFraction = (edited, .ok ()) ∧
        next = { edited with keypad := edited.keypad.turnedTo denominator } := by
  unfold setDenominator at done
  split at done
  · cases done
  · rename_i known
    simp only at done
    split at done
    · cases done
    · rename_i edited dropped
      obtain ⟨same, _⟩ := reply_eq_ok.mp done
      exact ⟨Decidable.not_not.mp known, edited, dropped, same⟩

theorem dropLastFraction_sound {c next : Calculator}
    (done : c.dropLastFraction = (next, .ok ())) (order : InOrder c.carry c.log)
    (mode : c.keypad.mode ≠ .error → c.keypad.mode = c.terms.mode) :
    InOrder next.carry next.log ∧ (next.keypad.mode ≠ .error → next.keypad.mode = next.terms.mode) ∧
      next.denominator = c.denominator ∧ next.settings = c.settings := by
  rcases dropLastFraction_cases order done with
    ⟨rfl, _⟩ | ⟨_, _, carry, log, _, kept, _, ⟨error, rfl⟩ | ⟨_, rfl⟩⟩
  · exact ⟨order, mode, rfl, rfl⟩
  · -- in the error mode the keypads are left alone, and nothing is asked of their mode
    exact ⟨kept, fun other => absurd error other, rfl, rfl⟩
  · exact ⟨kept, fun _ => rebuild_mode kept.plain kept.alternates, rfl, rfl⟩

namespace Sound

variable {c : Calculator}

theorem backspace (sound : c.Sound) {next : Calculator} {reply : Reply}
    (done : c.backspace = (next, .ok reply)) : next.Sound := by
  obtain ⟨carry, log, order, _, rfl⟩ := backspace_eq_ok sound.order done
  exact sound_rebuild order sound.denominator sound.settings

theorem setDenominator (sound : c.Sound) {denominator : Int} {next : Calculator} {reply : Reply}
    (done : c.setDenominator denominator = (next, .ok reply)) : next.Sound := by
  obtain ⟨known, edited, dropped, rfl⟩ := setDenominator_eq_ok done
  obtain ⟨order, mode, same, settings⟩ := dropLastFraction_sound dropped sound.order sound.mode
  refine ⟨order, mode, same.symm, ?_, ?_⟩
  · exact same.symm ▸ known
  · exact settings.symm ▸ sound.settings

theorem fire (sound : c.Sound) (timer : Timer) : (c.fire timer).1.Sound := by
  unfold Calculator.fire
  split
  · exact sound
  · split
    · exact sound.recover
    · exact sound.dropError

theorem acted (sound : c.Sound) {action : Action} {next : Calculator}
    (acted : c.Acted action next) : next.Sound := by
  cases acted with
  | entered key reply plain done => exact sound.enter plain done
  | erased reply done => exact sound.backspace done
  | cleared same =>
      rw [same]
      exact sound.cleared
  | reset same =>
      rw [same]
      exact sound.renewed_cleared
  | recovered same =>
      rw [same]
      exact sound.recover
  | turned denominator reply _ done => exact sound.setDenominator done
  | closed same =>
      rw [same]
      exact sound.cancelTimers
  | fired timer same =>
      rw [same]
      exact sound.fire timer

theorem act (sound : c.Sound) {action : Action} {next : Calculator} {answer : Answer}
    (done : c.act action = (next, .ok answer)) : next.Sound :=
  sound.acted (acted_of_act done)

end Sound

theorem Run.sound {first c : Calculator} {events : List Event} (run : Run first events c)
    (sound : first.Sound) : c.Sound := by
  induction run with
  | start => exact sound
  | act _ _ done before => exact before.act done

/-- Whatever is done to a calculator, and whenever its timers fire, it is well formed. -/
theorem wellFormed_of_reached {c : Calculator} (reached : c.Reached) : c.WellFormed := by
  obtain ⟨settings, events, valid, run⟩ := reached
  exact (run.sound (sound_fresh valid)).wellFormed

/-- A calculation, a refused equals sign and a late timer leave a result in the error mode. -/
theorem wellFormed_after_refusal :
    ∃ c : Calculator, c.Reached ∧ c.WellFormed ∧ c.carry.isSome ∧ c.keypad.mode = .error := by
  obtain ⟨events, c, run, _, seen⟩ := exists_run (fresh {})
    [.press (.digit .feet 5), .press (.operator .plus), .press .equals,
      .press (.digit .inches 3), .pressEquals, .press (.operator .times), .press .equals,
      .fire ⟨({} : Settings).modeTimeout, .mode, 3⟩]
    (fun c => c.carry.isSome && c.keypad.mode = .error) (by decide +kernel)
  have reached : c.Reached := ⟨{}, events, by decide +kernel, run⟩
  simp only [Bool.and_eq_true, decide_eq_true_eq] at seen
  exact ⟨c, reached, wellFormed_of_reached reached, seen⟩

end FeetInches.Calculator
