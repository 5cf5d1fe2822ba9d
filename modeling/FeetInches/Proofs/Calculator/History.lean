import Mathlib.Data.List.DropRight
import FeetInches.Proofs.Calculator.Timers
import FeetInches.Proofs.Calculator.Verdict

namespace FeetInches

def Event.calculates (event : Event) : Bool :=
  match event.action, event.answer with
  | .press .equals, .reply reply => reply.accepted
  | .pressEquals, .evaluation evaluation => evaluation.error.isNone
  | _, _ => false

def Event.display (event : Event) : Text :=
  match event.state.display? with
  | .ok text => text
  | .error _ => []

/-- What an onlooker knows: the display, and the calculations since the last reset, each with the
display before and after it. -/
structure Chronicle where
  display : Text := []
  entries : List HistoryEntry := []

namespace Chronicle

def note (chronicle : Chronicle) (event : Event) : Chronicle where
  display := event.display
  entries :=
    if event.action = .reset then []
    else if event.calculates then chronicle.entries ++ [⟨chronicle.display, event.display⟩]
    else chronicle.entries

def ofEvents (events : List Event) : Chronicle := events.foldl note {}

theorem ofEvents_concat (events : List Event) (event : Event) :
    ofEvents (events ++ [event]) = (ofEvents events).note event := by
  simp [ofEvents]

end Chronicle

/-- A list that is cut to its last entries after every addition ends like one that never is. -/
theorem rtake_rtake_concat {α : Type} (list : List α) (last : α) (count : Nat) :
    (list.rtake count ++ [last]).rtake count = (list ++ [last]).rtake count := by
  cases count with
  | zero => simp
  | succ count =>
      rw [List.rtake_concat_succ, List.rtake_concat_succ]
      simp only [List.rtake_eq_reverse_take_reverse, List.reverse_reverse, List.take_take,
        Nat.min_eq_left (Nat.le_succ count)]

namespace Calculator

variable {c next : Calculator}

theorem readied_history (c : Calculator) (key : Key) : (c.readied key).history = c.history := by
  rw [readied, recover_frame]
  unfold dropCarry
  split <;> rfl

theorem rejecting_history (c : Calculator) (error : CalcError) :
    (c.rejecting error).history = c.history := by
  rw [rejecting_frame]

theorem store_history (c : Calculator) (terms : Expression) :
    (c.store terms).1.history = c.history := by
  unfold store
  simp only
  split <;> rfl

theorem refreshed_history (c : Calculator) : c.refreshed.history = c.history := by
  unfold refreshed
  split <;> rfl

theorem readied_equals_terms (c : Calculator) : (c.readied .equals).terms = c.terms := by
  unfold terms
  rcases c.readied_terms .equals with ⟨carry, log⟩ | ⟨operand, _⟩
  · rw [carry, log]
  · cases operand

theorem andThen_history {α β : Type} {step : Step α} {then? : Calculator → α → Step β}
    (first : step.1.history = c.history)
    (keeps : ∀ (d : Calculator) (value : α), (then? d value).1.history = d.history) :
    (andThen step then?).1.history = c.history := by
  rcases step with ⟨d, fault | value⟩
  · exact first
  · exact (keeps d value).trans first

theorem backspace_history (c : Calculator) : c.backspace.1.history = c.history := by
  rw [backspace_eq]
  exact andThen_history (store_history c.cancelTimers _) fun _ _ => rfl

theorem dropLastFraction_history (c : Calculator) :
    c.dropLastFraction.1.history = c.history := by
  rw [dropLastFraction_eq]
  split
  · split
    · exact andThen_history (store_history c _) fun edited _ => refreshed_history edited
    · rfl
  · rfl

theorem setDenominator_history (c : Calculator) (denominator : Int) :
    (c.setDenominator denominator).1.history = c.history := by
  rw [setDenominator_eq]
  split
  · rfl
  · exact andThen_history (dropLastFraction_history (c.choosing denominator)) fun _ _ => rfl

/-- The calculation between two states is the last entry of the history. -/
def Remembers (c next : Calculator) : Prop :=
  ∃ expression result, c.display? = .ok expression ∧ next.display? = .ok result ∧
    next.history =
      (c.history ++ [HistoryEntry.mk expression result]).rtake c.settings.historySize.toNat

theorem Entered.remembers {key : Key} {reply : Reply} (entered : c.Entered key next reply) :
    reply.accepted = reply.error.isNone ∧
      if key = .equals ∧ reply.accepted then c.Remembers next else next.history = c.history := by
  cases entered with
  | refused error _ state rejected shown =>
      refine ⟨by rw [rejected, shown]; rfl, ?_⟩
      rw [if_neg (by simp [rejected]), state, rejecting_history, readied_history]
  | failed error _ _ _ state rejected shown =>
      refine ⟨by rw [rejected, shown]; rfl, ?_⟩
      rw [if_neg (by simp [rejected]), state, rejecting_history]
      exact readied_history c key
  | calculated result expression text equals _ _ state accepted shown before after =>
      refine ⟨by rw [accepted, shown]; rfl, ?_⟩
      subst equals
      rw [if_pos ⟨rfl, accepted⟩, state]
      refine ⟨expression, text, ?_, ?_, ?_⟩
      · rw [← before, display?, display?, readied_equals_terms]
      · change Expression.text? [result] = .ok text
        simp [Expression.text?, after, bind, Except.bind, pure, Except.pure]
      · have settings := (SameTimers.readied c Key.equals).settings
        change ((c.readied .equals).history ++ [HistoryEntry.mk expression text]).rtake
          (c.readied .equals).settings.historySize.toNat = _
        rw [readied_history, settings]
        rfl
  | taken notEquals _ state accepted shown =>
      refine ⟨by rw [accepted, shown]; rfl, ?_⟩
      rw [if_neg (fun both => notEquals both.1), state]
      exact readied_history c key

theorem press_remembers {key : Key} {reply : Reply} (done : c.press key = (next, .ok reply)) :
    if key = .equals ∧ reply.accepted then c.Remembers next else next.history = c.history := by
  have state : next = (c.press key).1 := by rw [done]
  cases key using Key.cases_control with
  | entered key plain =>
      rw [press_eq_enter c plain] at done
      exact (entered done).remembers.2
  | clear =>
      rw [if_neg (by simp), state]
      rfl
  | backspace =>
      rw [if_neg (by simp), state]
      exact backspace_history c
  | errorTimeout =>
      rw [if_neg (by simp), state]
      change c.recover.history = c.history
      rw [recover_frame]

/-- An action that calculates is remembered, a reset forgets, and every other action leaves the
history as it is. -/
theorem act_remembers {action : Action} {answer : Answer}
    (done : c.act action = (next, .ok answer)) :
    if action = .reset then next.history = []
    else if Event.calculates ⟨action, answer, next⟩ then c.Remembers next
    else next.history = c.history := by
  have state : next = (c.act action).1 := by rw [done]
  cases action with
  | reset =>
      rw [if_pos rfl, state]
      rfl
  | press key =>
      obtain ⟨reply, pressed, rfl⟩ := Step.answering_eq_ok.mp done
      have pressed := press_remembers pressed
      rw [if_neg (by simp)]
      by_cases equals : key = .equals
      · subst equals
        have accepted :
            Event.calculates ⟨.press .equals, .reply reply, next⟩ = reply.accepted := rfl
        simpa [accepted] using pressed
      · rw [if_neg (fun both => equals both.1)] at pressed
        have other : Event.calculates ⟨.press key, .reply reply, next⟩ = false := by
          unfold Event.calculates
          split <;> simp_all
        simpa [other] using pressed
  | pressEquals =>
      obtain ⟨evaluation, evaluated, rfl⟩ := Step.answering_eq_ok.mp done
      obtain ⟨reply, pressed, rfl⟩ := pressEquals_eq_ok.mp evaluated
      obtain ⟨accepted, remembered⟩ := (entered pressed).remembers
      have shown : (next.evaluationOf reply).error = reply.error := by
        unfold evaluationOf
        split <;> simp_all
      rw [accepted] at remembered
      rw [if_neg (by simp)]
      simpa [Event.calculates, shown] using remembered
  | backspace =>
      rw [if_neg (by simp), if_neg (by simp [Event.calculates]), state]
      exact backspace_history c
  | setDenominator denominator =>
      rw [if_neg (by simp), if_neg (by simp [Event.calculates]), state]
      exact setDenominator_history c denominator
  | errorTimeout =>
      rw [if_neg (by simp), if_neg (by simp [Event.calculates]), state]
      change c.recover.history = c.history
      rw [recover_frame]
  | clear | close =>
      rw [if_neg (by simp), if_neg (by simp [Event.calculates]), state]
      rfl
  | fire timer =>
      rw [if_neg (by simp), if_neg (by simp [Event.calculates]), state]
      obtain ⟨keypad, error, same⟩ := c.fire_frame timer
      rw [same]

structure ToldBy (settings : Settings) (c : Calculator) (chronicle : Chronicle) : Prop where
  timed : Timed settings c
  display : c.display? = .ok chronicle.display
  history : c.history = chronicle.entries.rtake settings.historySize.toNat

theorem ToldBy.act {settings : Settings} {chronicle : Chronicle} {action : Action}
    {answer : Answer} (told : ToldBy settings c chronicle)
    (done : c.act action = (next, .ok answer)) :
    ToldBy settings next (chronicle.note ⟨action, answer, next⟩) := by
  have shown : next.display? = .ok (Event.display ⟨action, answer, next⟩) := by
    obtain ⟨text, shown⟩ := display_act ⟨_, told.display⟩ done
    simp [Event.display, shown]
  have remembered := act_remembers done
  refine ⟨?_, shown, ?_⟩
  · have timed := told.timed.act action
    rwa [done] at timed
  · simp only [Chronicle.note]
    split at remembered
    · rename_i reset
      rw [if_pos reset, remembered, List.rtake_nil]
    · rename_i notReset
      rw [if_neg notReset]
      split at remembered
      · rename_i calculates
        rw [if_pos calculates]
        obtain ⟨expression, result, before, after, history⟩ := remembered
        obtain rfl := Except.ok.inj (told.display.symm.trans before)
        obtain rfl := Except.ok.inj (shown.symm.trans after)
        rw [history, told.history, told.timed.settings, rtake_rtake_concat]
      · rename_i other
        rw [if_neg other, remembered, told.history]

theorem Run.told {settings : Settings} {events : List Event} {c : Calculator}
    (run : Run (fresh settings) events c) : ToldBy settings c (.ofEvents events) := by
  induction run with
  | start => exact ⟨.fresh settings, rfl, (List.rtake_nil _).symm⟩
  | act _ _ done before =>
      rw [Chronicle.ofEvents_concat]
      exact before.act done

/-- At the end of every run the history is the last of the calculations since the last reset, as
many as the settings keep, each with the display just before and just after it. An action that
neither calculates nor resets leaves it as it is. -/
theorem history_eq_last_calculations (settings : Settings) (events : List Event) (c : Calculator)
    (run : Run (fresh settings) events c) :
    c.display? = .ok (Chronicle.ofEvents events).display ∧
      c.history = (Chronicle.ofEvents events).entries.rtake settings.historySize.toNat ∧
      ∀ action answer next, c.act action = (next, .ok answer) → action ≠ .reset →
        Event.calculates ⟨action, answer, next⟩ = false → next.history = c.history := by
  refine ⟨run.told.display, run.told.history, ?_⟩
  intro action answer next done notReset other
  have remembered := act_remembers done
  rwa [if_neg notReset, if_neg (by simp [other])] at remembered

/-- Three calculations, a rejected equals sign between them, and a history of two entries. -/
theorem history_of_three_calculations :
    ∃ events c, Run (fresh { historySize := 2 }) events c ∧
      (Chronicle.ofEvents events).entries.length = 3 ∧ c.history.length = 2 ∧
      c.history = (Chronicle.ofEvents events).entries.rtake 2 := by
  have performed : ((fresh { historySize := 2 }).perform? []
      [.press (.digit .feet 5), .press .equals, .press (.operator .plus), .press .equals,
        .press (.digit .inches 3), .pressEquals, .backspace, .press (.scalarDigit 7),
        .setDenominator 32, .press .equals, .clear]).map (fun done =>
      decide ((Chronicle.ofEvents done.1).entries.length = 3 ∧ done.2.history.length = 2)) =
      some true := by
    decide +kernel
  obtain ⟨⟨events, c⟩, done, seen⟩ := Option.map_eq_some_iff.mp performed
  have run := (run_of_perform? .start done).1
  obtain ⟨three, two⟩ := of_decide_eq_true seen
  exact ⟨events, c, run, three, two, (history_eq_last_calculations _ events c run).2.1⟩

end Calculator

end FeetInches
