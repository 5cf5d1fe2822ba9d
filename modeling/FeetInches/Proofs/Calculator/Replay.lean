import FeetInches.Proofs.Calculator.Invariant
/-!
The keypads against a replay of the log. An action types one key on the keypads, or makes them anew
from the log, or leaves them alone but for the mode. As long as nobody changes the denominator, the
keypads are thus what a replay of the whole log gives, in the mode of a replay or in the error mode.
-/

namespace FeetInches

def Action.setsDenominator : Action → Bool
  | setDenominator _ => true
  | _ => false

namespace Calculator

/-- The keypads are those of a replay of the log, whatever their mode. -/
def Replayed (c : Calculator) : Prop :=
  c.keypad = { c.rebuiltKeypad with mode := c.keypad.mode }

/-- What an action does to the keypads, and to what a replay gives. -/
inductive Follows (c next : Calculator) : Prop where
  | replayed : next.Replayed → Follows c next
  | kept : next.keypad = c.keypad → next.rebuiltKeypad = c.rebuiltKeypad →
      next.denominator = c.denominator → Follows c next
  | rejected : next.keypad = { c.keypad with mode := .error } →
      next.rebuiltKeypad = c.rebuiltKeypad → Follows c next
  | pressed (key : Key) : c.keypad.mode ≠ .error → next.keypad = c.keypad.press key →
      next.rebuiltKeypad = c.rebuiltKeypad.press key → next.denominator = c.denominator →
      Follows c next

variable {c next : Calculator}

theorem replayed_of_eq (same : c.keypad = c.rebuiltKeypad) : c.Replayed := by
  unfold Replayed
  rw [same]

theorem replayed_rebuild (c : Calculator) : c.rebuild.Replayed := replayed_of_eq rfl

theorem rebuiltKeypad_typed (c : Calculator) (key : Key) :
    (c.typed key).rebuiltKeypad = c.rebuiltKeypad.press key :=
  Keypad.replay_concat _ c.log key

theorem rebuiltKeypad_rejecting (c : Calculator) (error : CalcError) :
    (c.rejecting error).rebuiltKeypad = c.rebuiltKeypad := by
  rw [rejecting_frame]
  rfl

theorem keypad_rejecting (c : Calculator) (error : CalcError) :
    (c.rejecting error).keypad = { c.keypad with mode := .error } := by
  rw [rejecting_frame]

theorem Replayed.rejecting (replayed : c.Replayed) (error : CalcError) :
    (c.rejecting error).Replayed := by
  unfold Replayed at replayed ⊢
  rw [keypad_rejecting, rebuiltKeypad_rejecting, replayed]

theorem Sound.keypad_eq (sound : c.Sound) (replayed : c.Replayed) (calm : c.keypad.mode ≠ .error) :
    c.keypad = c.rebuiltKeypad := by
  have mode : c.rebuiltKeypad.mode = c.keypad.mode :=
    (rebuild_mode sound.order.plain sound.order.alternates).trans (sound.mode calm).symm
  calc
    c.keypad = { c.rebuiltKeypad with mode := c.keypad.mode } := replayed
    _ = c.rebuiltKeypad := by rw [← mode]

theorem readied_keypad (c : Calculator) (key : Key) :
    (c.readied key).keypad = (c.readied key).rebuiltKeypad ∨
      c.keypad.mode ≠ .error ∧ c.readied key = c.cancelTimers := by
  unfold readied dropCarry
  split
  · left
    rename_i dropped
    simp only [Bool.and_eq_true, List.isEmpty_iff] at dropped
    unfold rebuiltKeypad
    simp only [dropped.2]
    rfl
  · unfold recover
    split
    · exact Or.inl rfl
    · rename_i calm
      exact Or.inr ⟨calm, rfl⟩

theorem follows_rejecting (c : Calculator) (key : Key) (error : CalcError) :
    c.Follows ((c.readied key).rejecting error) := by
  rcases c.readied_keypad key with anew | ⟨_, same⟩
  · exact .replayed ((replayed_of_eq anew).rejecting error)
  · rw [same]
    exact .rejected (keypad_rejecting _ error) (rebuiltKeypad_rejecting _ error)

theorem follows_typed (c : Calculator) (key : Key) : c.Follows ((c.readied key).typed key) := by
  rcases c.readied_keypad key with anew | ⟨calm, same⟩
  · apply Follows.replayed
    apply replayed_of_eq
    rw [rebuiltKeypad_typed, ← anew]
    rfl
  · rw [same]
    exact .pressed key calm rfl (rebuiltKeypad_typed _ key) rfl

theorem follows_recover (c : Calculator) : c.Follows c.recover := by
  unfold recover
  split
  · exact .replayed (replayed_rebuild c)
  · exact .kept rfl rfl rfl

theorem follows_enter {key : Key} {reply : Reply} (done : c.enter key = (next, .ok reply)) :
    c.Follows next := by
  cases entered done with
  | refused error _ state =>
      rw [state]
      exact follows_rejecting c key error
  | failed error _ _ _ state =>
      rw [state]
      exact .replayed ((replayed_rebuild _).rejecting error)
  | calculated _ _ _ _ _ _ state =>
      rw [state]
      exact .replayed (replayed_rebuild _)
  | taken _ _ state =>
      rw [state]
      exact follows_typed c key

theorem follows_backspace (order : InOrder c.carry c.log) {reply : Reply}
    (done : c.backspace = (next, .ok reply)) : c.Follows next := by
  obtain ⟨carry, log, _, _, rfl⟩ := backspace_eq_ok order done
  exact .replayed (replayed_rebuild _)

theorem follows_cleared (padDenominator : c.keypad.denominator = c.denominator) :
    c.Follows c.cleared := by
  apply Follows.replayed
  apply replayed_of_eq
  exact congrArg Keypad.initial padDenominator

theorem follows_fire (c : Calculator) (timer : Timer) : c.Follows (c.fire timer).1 := by
  unfold fire
  split
  · exact .kept rfl rfl rfl
  · split
    · exact follows_recover c
    · exact .kept rfl rfl rfl

theorem Sound.follows_act (sound : c.Sound) {action : Action} {answer : Answer}
    (done : c.act action = (next, .ok answer)) (other : action.setsDenominator = false) :
    c.Follows next := by
  cases acted_of_act done with
  | entered key reply _ done => exact follows_enter done
  | erased reply done => exact follows_backspace sound.order done
  | cleared same =>
      rw [same]
      exact follows_cleared sound.padDenominator
  | reset same =>
      rw [same]
      exact .replayed (replayed_of_eq rfl)
  | recovered same =>
      rw [same]
      exact follows_recover c
  | turned denominator reply selects =>
      rw [selects] at other
      cases other
  | closed same =>
      rw [same]
      exact .kept rfl rfl rfl
  | fired timer same =>
      rw [same]
      exact follows_fire c timer

theorem Sound.replayed_of_follows (sound : c.Sound) (replayed : c.Replayed)
    (follows : c.Follows next) : next.Replayed := by
  cases follows with
  | replayed anew => exact anew
  | kept keypad replay _ =>
      unfold Replayed
      rw [keypad, replay]
      exact replayed
  | rejected keypad replay =>
      unfold Replayed
      rw [keypad, replay, replayed]
  | pressed key calm keypad replay _ =>
      apply replayed_of_eq
      rw [keypad, replay, sound.keypad_eq replayed calm]

theorem Run.replayed {first : Calculator} {events : List Event} (run : Run first events c)
    (sound : first.Sound) (replayed : first.Replayed)
    (kept : ∀ event ∈ events, event.action.setsDenominator = false) : c.Replayed := by
  induction run with
  | start => exact replayed
  | @act events before after action answer run _ done ih =>
      have replayedBefore := ih fun event member => kept event (List.mem_append_left _ member)
      have follows := (run.sound sound).follows_act done
        (kept ⟨action, answer, after⟩ (by simp))
      exact (run.sound sound).replayed_of_follows replayedBefore follows

/-- Without a change of denominator the keypads are, after every action, what a replay of the log
gives, but that they may be in the error mode. The replay itself never is. -/
theorem keypad_eq_replay {settings : Settings} (valid : settings.fault? = none)
    {events : List Event} (run : Run (fresh settings) events c)
    (kept : ∀ event ∈ events, event.action.setsDenominator = false) :
    let replay := c.replayBase.replay c.log
    (c.keypad = replay ∨ c.keypad = { replay with mode := .error }) ∧ replay.mode ≠ .error := by
  have sound := run.sound (sound_fresh valid)
  have replayed := run.replayed (sound_fresh valid) (replayed_of_eq rfl) kept
  simp only [← rebuiltKeypad_eq]
  constructor
  · by_cases error : c.keypad.mode = .error
    · right
      rw [← error]
      exact replayed
    · left
      exact sound.keypad_eq replayed error
  · have mode : c.rebuiltKeypad.mode = c.terms.mode :=
      rebuild_mode sound.order.plain sound.order.alternates
    rw [mode]
    exact Expression.mode_ne_error _

/-- Digits are taken back, by which the fraction moves to the inches pad; a second operator then
leaves the keypads in the error mode. -/
theorem keypad_eq_replay_after_edit :
    ∃ events c, Run (fresh {}) events c ∧ c.keypad.mode = .error ∧
      (c.replayBase.replay c.log).mode = .input ∧
      c.keypad = { c.replayBase.replay c.log with mode := .error } := by
  let actions : List Action :=
    [.press (.digit .inches 1), .press (.digit .feet 5),
      .press (.fraction .feet ⟨"1/2", ⟨1, 2⟩, by decide +kernel⟩), .backspace, .backspace,
      .press (.operator .plus), .press (.operator .plus)]
  obtain ⟨events, c, run, same, seen⟩ := exists_run (fresh {}) actions
    (fun c => c.keypad.mode = .error && (c.replayBase.replay c.log).mode = .input)
    (by decide +kernel)
  simp only [Bool.and_eq_true, decide_eq_true_eq] at seen
  obtain ⟨error, input⟩ := seen
  have kept : ∀ event ∈ events, event.action.setsDenominator = false := by
    intro event member
    have acted : event.action ∈ actions := same ▸ List.mem_map_of_mem member
    exact (by decide : ∀ action ∈ actions, action.setsDenominator = false) event.action acted
  refine ⟨events, c, run, error, input, ?_⟩
  refine (keypad_eq_replay (by decide +kernel) run kept).1.resolve_left ?_
  intro replay
  rw [replay, input] at error
  cases error

end Calculator

end FeetInches
