import FeetInches.Proofs.Calculator.Agreement
import FeetInches.Proofs.Calculator.Verdict

namespace FeetInches.Calculator

variable {c d next : Calculator} {key : Key} {reply : Reply}

/-- A key that is refused does not drop the carried result: only an operand would, and an operand
is never refused right after a result. -/
theorem readied_of_refused (sound : c.Sound) (plain : key.isControl = false) {error : CalcError}
    (refused : (c.readied key).refusal? key = some error) :
    (c.readied key).carry = c.carry := by
  rcases c.readied_terms key with ⟨carry, _⟩ | ⟨operand, ⟨result, carried⟩, empty, _, _⟩
  · exact carry
  · have refuses := (refusal?_iff sound plain error).mp refused
    obtain ⟨_, front, last, shape, _, typed, _⟩ :=
      (Expression.refuses_operand operand error).mp refuses
    have single : c.terms = [] ++ [result] := by
      rw [terms, carried, empty]
      rfl
    have same := (List.append_inj' (single.symm.trans shape) rfl).2
    have isResult := sound.order.carried result carried
    rw [List.singleton_inj.mp same, typed] at isResult
    cases isResult

theorem dropCarry_frame (c : Calculator) (key : Key) :
    c.dropCarry key =
      { c with carry := (c.dropCarry key).carry, keypad := (c.dropCarry key).keypad } := by
  unfold dropCarry
  split <;> rfl

theorem Agrees.of_readied (carry : (c.readied key).carry = c.carry) :
    c.Agrees (c.readied key) := by
  have ready := (Agrees.cancelTimers c).trans (Agrees.recover c.cancelTimers)
  obtain ⟨_, _, _, _, _, same⟩ := ready
  rw [Calculator.readied] at carry ⊢
  rw [dropCarry_frame, carry, same]
  exact ⟨_, _, _, _, _, rfl⟩

theorem Agrees.taken_back (c : Calculator) : c.Agrees (c.typed .equals).withdrawn := by
  have log : (c.typed .equals).log.dropLast = c.log := List.dropLast_concat
  unfold Calculator.withdrawn
  rw [log]
  exact ⟨_, _, _, _, _, rfl⟩

theorem Agrees.of_rejected (sound : c.Sound) (plain : key.isControl = false)
    (done : c.press key = (next, .ok reply)) (rejected : reply.accepted = false) :
    c.Agrees next := by
  rw [press_eq_enter c plain] at done
  cases entered done with
  | refused error refused state =>
      have carry := readied_of_refused sound plain refused
      rw [state]
      exact (Agrees.of_readied carry).trans (Agrees.rejecting _ error)
  | failed error equals _ _ state =>
      subst equals
      have ready : c.Agrees (c.readied .equals) := by
        rcases c.readied_terms .equals with ⟨carry, _⟩ | ⟨operand, _⟩
        · exact Agrees.of_readied carry
        · cases operand
      rw [state]
      exact (ready.trans (Agrees.taken_back _)).trans (Agrees.rejecting _ error)
  | calculated _ _ _ _ _ _ _ accepted =>
      rw [rejected] at accepted
      cases accepted
  | taken _ _ _ accepted =>
      rw [rejected] at accepted
      cases accepted

/-- From calculators that agree, the same actions of the user are answered alike. -/
theorem Agrees.run (agrees : c.Agrees d) (sound : c.Sound) (otherSound : d.Sound)
    {events others : List Event} {last other : Calculator} (run : Run c events last)
    (otherRun : Run d others other) (same : events.map Event.action = others.map Event.action)
    (ofUser : ∀ event ∈ events, event.isOfUser) :
    last.Agrees other ∧ events.map Event.observed = others.map Event.observed := by
  induction run generalizing others other with
  | start =>
      obtain rfl : others = [] := by simpa using same.symm
      rw [run_nil.mp otherRun]
      exact ⟨agrees, rfl⟩
  | @act events before after action answer run _ done ih =>
      rcases List.eq_nil_or_concat' others with rfl | ⟨earlier, ⟨again, otherAnswer, _⟩, rfl⟩
      · simp at same
      · obtain ⟨otherBefore, earlierRun, _, otherDone, rfl⟩ := run_concat.mp otherRun
        rw [List.map_append, List.map_append] at same
        obtain ⟨sameEarlier, sameLast⟩ := List.append_inj' same rfl
        obtain rfl : action = again := List.singleton_inj.mp sameLast
        have earlierOfUser : ∀ event ∈ events, event.isOfUser := by
          intro event member
          exact ofUser event (List.mem_append_left _ member)
        have lastOfUser : action.isOfUser := ofUser ⟨action, answer, after⟩ (by simp)
        obtain ⟨agreesBefore, observed⟩ := ih earlierRun sameEarlier earlierOfUser
        obtain ⟨agreesAfter, shown⟩ := agreesBefore.act (run.sound sound)
          (earlierRun.sound otherSound) lastOfUser done otherDone
        refine ⟨agreesAfter, ?_⟩
        rw [List.map_append, List.map_append, observed]
        exact congrArg _ (List.singleton_inj.mpr (agreesAfter.observed shown))

/-- A rejected key is as if it had not been pressed: expression, history and denominator are those
from before, and whatever the user does next is answered as it would have been without the key. -/
theorem rejected_key_invisible (reached : c.Reached) (plain : key.isControl = false)
    (done : c.press key = (next, .ok reply)) (rejected : reply.accepted = false) :
    (next.log = c.log ∧ next.carry = c.carry ∧ next.terms = c.terms ∧
      next.display? = c.display? ∧ c.display? = .ok reply.display ∧ next.history = c.history ∧
      next.denominator = c.denominator) ∧
    ∀ {events others : List Event} {last other : Calculator}, Run next events last →
      Run c others other → events.map Event.action = others.map Event.action →
      (∀ event ∈ events, event.isOfUser) →
      events.map Event.observed = others.map Event.observed := by
  obtain ⟨sound, _⟩ := sound_of_reached reached
  have nextSound := sound.acted (acted_of_press done (.press key))
  have agrees := Agrees.of_rejected sound plain done rejected
  have display := (faithful_press c key next reply done).1
  refine ⟨?_, ?_⟩
  · obtain ⟨_, _, _, _, _, rfl⟩ := agrees
    exact ⟨rfl, rfl, rfl, rfl, display, rfl, rfl⟩
  · intro events others last other run otherRun same ofUser
    exact (agrees.symm.run nextSound sound run otherRun same ofUser).2

/-- A division by zero is rejected; then the zero is taken back and the division goes on. -/
theorem failed_equals_invisible :
    ∃ c next reply events others last other, c.Reached ∧
      c.press .equals = (next, .ok reply) ∧ reply.accepted = false ∧
      next.keypad.mode ≠ c.keypad.mode ∧ Run next events last ∧ Run c others other ∧
      events.map Event.action =
        [.backspace, .press (.scalarDigit 2), .pressEquals, .press (.operator .times)] ∧
      events.map Event.observed = others.map Event.observed := by
  let later : List Action :=
    [.backspace, .press (.scalarDigit 2), .pressEquals, .press (.operator .times)]
  obtain ⟨start, c, run, _, seen⟩ := exists_run (fresh {})
    [.press (.digit .feet 5), .press (.operator .dividedBy), .press (.scalarDigit 0)]
    (fun c => (c.perform? [] later).isSome && match c.press .equals with
      | (next, .ok reply) => !reply.accepted && next.keypad.mode ≠ c.keypad.mode &&
          (next.perform? [] later).isSome
      | (_, .error _) => false) (by decide +kernel)
  have reached : c.Reached := ⟨{}, start, by decide +kernel, run⟩
  simp only [Bool.and_eq_true] at seen
  obtain ⟨performed, pressed⟩ := seen
  split at pressed
  · rename_i next reply done
    simp only [Bool.and_eq_true, Bool.not_eq_true', decide_eq_true_eq] at pressed
    obtain ⟨⟨rejected, mode⟩, again⟩ := pressed
    obtain ⟨⟨others, other⟩, otherDone⟩ := Option.isSome_iff_exists.mp performed
    obtain ⟨⟨events, last⟩, lastDone⟩ := Option.isSome_iff_exists.mp again
    obtain ⟨otherRun, otherActions⟩ := run_of_perform? .start otherDone
    obtain ⟨lastRun, actions⟩ := run_of_perform? .start lastDone
    have ofUser : ∀ event ∈ events, event.isOfUser := by
      intro event member
      have acted : event.action ∈ later := by
        have action := List.mem_map_of_mem (f := Event.action) member
        rwa [actions] at action
      exact (by decide : ∀ action ∈ later, action.isOfUser) event.action acted
    refine ⟨c, next, reply, events, others, last, other, reached, done, rejected, mode, lastRun,
      otherRun, actions, ?_⟩
    exact (rejected_key_invisible reached rfl done rejected).2 lastRun otherRun
      (actions.trans otherActions.symm) ofUser
  · cases pressed

end FeetInches.Calculator
