import FeetInches.Proofs.Calculator.Verdict
import FeetInches.Proofs.Expression.Erasure
import Mathlib.Logic.Function.Iterate

namespace FeetInches

namespace Expression

def presses : Expression → Nat
  | [] => 0
  | term :: rest => term.presses + presses rest

theorem presses_append (front back : Expression) :
    presses (front ++ back) = front.presses + back.presses := by
  induction front with
  | nil => exact (Nat.zero_add _).symm
  | cons term rest ih => rw [List.cons_append, presses, presses, ih, Nat.add_assoc]

theorem Orderly.presses_eraseInput {terms : Expression} (orderly : terms.Orderly)
    (nonempty : terms ≠ []) : terms.eraseInput.presses + 1 = terms.presses := by
  obtain ⟨front, last, rfl⟩ := (List.eq_nil_or_concat' terms).resolve_left nonempty
  have fewer := Term.presses_eraseInput orderly.last
  have rest : presses last.eraseInput.toList = (last.eraseInput.map Term.presses).getD 0 := by
    cases last.eraseInput with
    | none => rfl
    | some left => rfl
  have whole : presses [last] = last.presses := rfl
  rw [eraseInput_concat, presses_append, presses_append, rest, whole, ← fewer, Nat.add_assoc]

/-- Nothing is left once input is taken back as often as there are pieces, and not before. -/
theorem Orderly.eraseInput_iterate {terms : Expression} (orderly : terms.Orderly) (n : Nat) :
    Expression.eraseInput^[n] terms = [] ↔ terms.presses ≤ n := by
  induction n generalizing terms with
  | zero =>
      rw [Function.iterate_zero_apply]
      constructor
      · rintro rfl
        exact Nat.le_refl 0
      · intro shorter
        by_contra nonempty
        have fewer := orderly.presses_eraseInput nonempty
        omega
  | succ n ih =>
      rw [Function.iterate_succ_apply, ih orderly.eraseInput]
      by_cases empty : terms = []
      · subst empty
        exact ⟨fun _ => Nat.zero_le _, fun _ => Nat.zero_le n⟩
      · have fewer := orderly.presses_eraseInput empty
        omega

theorem Orderly.shown_eraseInput {terms : Expression} (orderly : terms.Orderly)
    (shown : ∃ text, terms.text? = .ok text) : ∃ text, terms.eraseInput.text? = .ok text := by
  rcases List.eq_nil_or_concat' terms with rfl | ⟨front, last, rfl⟩
  · exact shown
  · obtain ⟨frontShown, lastShown⟩ := text?_concat_ok.mp shown
    rw [eraseInput_concat]
    cases left : last.eraseInput with
    | none => simpa using frontShown
    | some new =>
        have tidy : last.Tidy := by
          refine orderly.last.resolve_left ?_
          rcases Term.eraseInput_eq_some left with ⟨l, rfl, _⟩ | ⟨text, _, rfl, _⟩ <;>
            exact Bool.false_ne_true
        exact text?_concat_ok.mpr ⟨frontShown, Term.shown_eraseInput tidy lastShown left⟩

end Expression

namespace Calculator

variable {c : Calculator}

theorem store_ok {terms : Expression} (orderly : terms.Orderly)
    (shown : ∃ text, terms.text? = .ok text) : ∃ next, c.store terms = (next, .ok ()) := by
  obtain ⟨carry, rest, rfl, _, tidy, same⟩ := c.store_cases orderly
  have arithmetic : Expression.Arithmetic rest := fun term member =>
    orderly.arithmetic term (List.mem_append_right carry.toList member)
  have restShown : ∃ text, Expression.text? rest = .ok text := by
    cases carry with
    | none => exact shown
    | some result =>
        obtain ⟨text, shown⟩ := shown
        obtain ⟨_, _, more⟩ := bind_eq_ok.mp shown
        obtain ⟨text, shown, _⟩ := bind_eq_ok.mp more
        exact ⟨text, shown⟩
  obtain ⟨log, written⟩ := Expression.keys_ok tidy arithmetic.operatorsHaveKeys restShown
  rw [same, written]
  exact ⟨_, rfl⟩

theorem backspace_ok (reached : c.Reached) :
    ∃ next reply, c.backspace = (next, .ok reply) ∧ reply.accepted = true ∧ reply.error = none ∧
      next.terms = c.terms.eraseInput ∧ next.error = none ∧
      next.keypad.mode = next.terms.mode := by
  obtain ⟨sound, shown⟩ := sound_of_reached reached
  have orderly : c.terms.Orderly := sound.order.orderly
  obtain ⟨text, left⟩ := orderly.shown_eraseInput shown
  obtain ⟨edited, stored⟩ := store_ok (c := c.cancelTimers) orderly.eraseInput ⟨text, left⟩
  obtain ⟨carry, log, same, order, terms⟩ := store_orderly orderly.eraseInput stored
  have done : c.backspace = { edited with error := none }.rebuild.reply true := by
    have stored : c.cancelTimers.store c.cancelTimers.terms.eraseInput = (edited, .ok ()) := stored
    unfold backspace
    simp only [stored]
  subst same
  have display : display? { c.cancelTimers with carry, log, error := none }.rebuild = .ok text := by
    rw [← left, ← terms]
    rfl
  exact ⟨_, _, done.trans (reply_eq_ok.mpr ⟨rfl, text, display, rfl⟩), rfl, rfl, terms, rfl,
    rebuild_mode order.plain order.alternates⟩

theorem perform_backspaces (reached : c.Reached) (events : List Event) (n : Nat) :
    ∃ all last, c.perform? events (List.replicate n .backspace) = some (all, last) ∧
      last.terms = Expression.eraseInput^[n] c.terms := by
  induction n generalizing c events with
  | zero => exact ⟨events, c, rfl, rfl⟩
  | succ n ih =>
      obtain ⟨next, reply, done, _, _, terms, _⟩ := backspace_ok reached
      have admits : c.Admits .backspace := trivial
      have acted : c.act .backspace = (next, .ok (.reply reply)) :=
        Step.answering_eq_ok.mpr ⟨reply, done, rfl⟩
      obtain ⟨all, last, performed, left⟩ :=
        ih (reached.act admits acted) (events ++ [⟨.backspace, .reply reply, next⟩])
      refine ⟨all, last, ?_, ?_⟩
      · rw [List.replicate_succ, perform?, if_pos admits, acted]
        exact performed
      · rw [left, terms, Function.iterate_succ_apply]

/-- A backspace takes back one piece of input, and so many presses as there are pieces, but no
fewer, leave nothing on the display. -/
theorem backspace_erases_input (reached : c.Reached) :
    (∃ next reply, c.backspace = (next, .ok reply) ∧ reply.accepted = true ∧ reply.error = none ∧
      next.terms = c.terms.eraseInput ∧ next.error = none ∧
      next.keypad.mode = next.terms.mode) ∧
    ∀ n, ∃ events last, c.perform? [] (List.replicate n .backspace) = some (events, last) ∧
      (last.terms = [] ↔ c.terms.presses ≤ n) := by
  refine ⟨backspace_ok reached, fun n => ?_⟩
  obtain ⟨events, last, performed, left⟩ := perform_backspaces reached [] n
  have orderly : c.terms.Orderly := (sound_of_reached reached).1.order.orderly
  refine ⟨events, last, performed, ?_⟩
  rw [left]
  exact orderly.eraseInput_iterate n

/-- A result, a length of two digits and a fraction, a number, an empty length and three operators,
in the error mode: ten presses empty the display, and nine do not. -/
theorem backspace_ten_times :
    ∃ c : Calculator, c.Reached ∧ c.keypad.mode = .error ∧ c.terms.presses = 10 ∧
      (∃ events last, c.perform? [] (List.replicate 10 .backspace) = some (events, last) ∧
        last.terms = []) ∧
      ∃ events last, c.perform? [] (List.replicate 9 .backspace) = some (events, last) ∧
        last.terms ≠ [] := by
  obtain ⟨events, c, run, _, seen⟩ := exists_run (fresh {})
    [.press (.digit .feet 5), .pressEquals, .press (.operator .plus), .press (.digit .feet 1),
      .press (.digit .feet 0), .press (.fraction .inches ⟨"3/4", ⟨3, 4⟩, by decide +kernel⟩),
      .press (.operator .times), .press (.scalarDigit 2), .press .point,
      .press (.operator .minus), .press (.digit .feet 0), .press (.scalarDigit 1)]
    (fun c => c.keypad.mode = .error && c.terms.presses = 10) (by decide +kernel)
  simp only [Bool.and_eq_true, decide_eq_true_eq] at seen
  obtain ⟨mode, presses⟩ := seen
  have reached : c.Reached := ⟨{}, events, by decide +kernel, run⟩
  have erased := (backspace_erases_input reached).2
  rw [presses] at erased
  obtain ⟨all, empty, emptied, cleared⟩ := erased 10
  obtain ⟨most, rest, performed, left⟩ := erased 9
  refine ⟨c, reached, mode, presses, ⟨all, empty, emptied, cleared.mpr (by decide)⟩, most, rest,
    performed, ?_⟩
  rw [Ne, left]
  decide

end Calculator

end FeetInches
