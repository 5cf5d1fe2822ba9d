import FeetInches.Proofs.Calculator.Verdict
import FeetInches.Proofs.Expression.Canonical
import FeetInches.Proofs.Evaluation.Arrangement
import FeetInches.Proofs.Evaluation.Chaining
import FeetInches.Proofs.Evaluation.Subtotals
/-!
The equals sign of a calculator. Wherever a run leads, the terms on the display are typed, or are
results of evaluations. So the sign is answered, and never stays in the log, unless the expression
comes to a measure that is the greatest number.
-/

namespace FeetInches

theorem Term.Legible.text {term : Term} (legible : term.Legible) (isResult : term.isResult) :
    ∃ text, term.text? = .ok text := by
  cases term with
  | length l =>
      obtain ⟨_, text, written⟩ := legible
      exact ⟨text, by rw [Term.text?, written]; rfl⟩
  | area extent => exact ⟨_, rfl⟩
  | volume extent => exact ⟨_, rfl⟩
  | number text => exact ⟨_, rfl⟩
  | _ => cases isResult

theorem Expression.usable_of_solve {terms : Expression} {result : Term}
    (usable : ∀ term ∈ terms, term.Usable) (solved : solve? terms = .ok result) :
    result.Usable := by
  have evaluated := evaluate?_equals terms
  rw [solved] at evaluated
  have ended : ∀ term ∈ terms ++ [.operator equalsSymbol], term.Usable := by
    intro term member
    rcases List.mem_append.mp member with member | member
    · exact usable term member
    · rw [List.mem_singleton.mp member]
      exact .equals
  exact .result ended evaluated rfl

theorem Expression.mem_of_eraseInput {terms : Expression} {term : Term}
    (member : term ∈ terms.eraseInput) (isResult : term.isResult) : term ∈ terms := by
  rcases List.eq_nil_or_concat' terms with rfl | ⟨front, last, rfl⟩
  · cases member
  · rw [eraseInput_concat] at member
    rcases List.mem_append.mp member with member | left
    · exact List.mem_append_left _ member
    · rcases Term.eraseInput_eq_some (Option.mem_toList.mp left) with ⟨l, _, rfl⟩ |
        ⟨text, _, _, rfl⟩
      · cases isResult
      · cases isResult

namespace Calculator

/-- The carried result comes from an evaluation. -/
def Supplied (c : Calculator) : Prop := ∀ result ∈ c.carry, result.Usable

variable {c next : Calculator}

theorem Supplied.usable (supplied : c.Supplied) : ∀ term ∈ c.terms, term.Usable := by
  intro term member
  rcases List.mem_append.mp member with carried | typed
  · exact supplied term (Option.mem_toList.mp carried)
  · have tidy := Typing.tidy_ofKeys c.log term typed
    cases term with
    | operator symbol =>
        obtain ⟨key, operator, rfl⟩ :=
          (Expression.canonical_ofKeys c.log).operators symbol typed
        cases key with
        | operator op => exact .operator op
        | equals => exact .equals
        | _ => cases operator
    | typedLength l => exact .typed tidy rfl
    | typedNumber text => exact .typed tidy rfl
    | _ => cases tidy

theorem Supplied.of_carry (supplied : c.Supplied) (same : next.carry = c.carry) :
    next.Supplied := by
  intro result carried
  rw [same] at carried
  exact supplied result carried

theorem supplied_of_none (dropped : c.carry = none) : c.Supplied := by
  intro result carried
  rw [dropped] at carried
  cases carried

theorem Supplied.readied (supplied : c.Supplied) (key : Key) : (c.readied key).Supplied := by
  rcases c.readied_terms key with ⟨carry, _⟩ | ⟨_, _, _, dropped, _⟩
  · exact supplied.of_carry carry
  · exact supplied_of_none dropped

theorem Supplied.recover (supplied : c.Supplied) : c.recover.Supplied := by
  apply supplied.of_carry
  rw [recover_frame]

/-- A result in the expression is the carried one, since what is typed is no result. -/
theorem carried_of_result {result : Term} (member : result ∈ c.terms) (isResult : result.isResult) :
    result ∈ c.carry := by
  rcases List.mem_append.mp member with carried | typed
  · exact Option.mem_toList.mp carried
  · rw [Term.not_isResult_of_tidy (Typing.tidy_ofKeys c.log result typed)] at isResult
    cases isResult

theorem Supplied.edited (supplied : c.Supplied) {carry : Option Term} {log : List Key}
    {terms : Expression} (order : InOrder carry log)
    (same : carry.toList ++ Expression.ofKeys log = terms)
    (kept : ∀ term ∈ terms, term.isResult → term ∈ c.terms) : ∀ result ∈ carry, result.Usable := by
  intro result carried
  have member : result ∈ terms := by
    rw [← same]
    exact List.mem_append_left _ (Option.mem_toList.mpr carried)
  have isResult := order.carried result carried
  exact supplied result (carried_of_result (kept result member isResult) isResult)

theorem Supplied.enter (supplied : c.Supplied) (key : Key) : (c.enter key).1.Supplied := by
  have same := supplied.readied key
  cases c.enters key with
  | refused error _ step =>
      apply same.of_carry
      rw [step, reject_state, rejecting_frame]
  | broken _ _ _ _ step =>
      apply same.of_carry
      rw [step]
      rfl
  | failed error _ _ _ step =>
      apply same.of_carry
      rw [step, reject_state, rejecting_frame]
      rfl
  | calculated result expression text _ _ solved _ _ step =>
      rw [step]
      rintro _ ⟨⟩
      exact Expression.usable_of_solve same.usable solved
  | taken _ _ step =>
      apply same.of_carry
      rw [step]
      rfl

namespace Sound

theorem supplied_backspace (sound : c.Sound) (supplied : c.Supplied) {reply : Reply}
    (done : c.backspace = (next, .ok reply)) : next.Supplied := by
  obtain ⟨carry, log, order, same, rfl⟩ := backspace_eq_ok sound.order done
  exact supplied.edited order same fun term => Expression.mem_of_eraseInput

theorem supplied_dropLastFraction (order : InOrder c.carry c.log) (supplied : c.Supplied)
    (done : c.dropLastFraction = (next, .ok ())) : next.Supplied := by
  rcases dropLastFraction_cases order done with
    ⟨rfl, _⟩ | ⟨front, l, carry, log, shape, kept, same, edited⟩
  · exact supplied
  · have shorter : ∀ term ∈ front ++ [.typedLength l.dropFraction], term.isResult →
        term ∈ c.terms := by
      intro term member isResult
      rcases List.mem_append.mp member with member | typed
      · rw [shape]
        exact List.mem_append_left _ member
      · rw [List.mem_singleton.mp typed] at isResult
        cases isResult
    have stored := supplied.edited kept same shorter
    rcases edited with ⟨_, rfl⟩ | ⟨_, rfl⟩
    · exact stored
    · exact stored

theorem supplied_setDenominator (sound : c.Sound) (supplied : c.Supplied) {denominator : Int}
    {reply : Reply} (done : c.setDenominator denominator = (next, .ok reply)) : next.Supplied := by
  obtain ⟨_, edited, dropped, rfl⟩ := setDenominator_eq_ok done
  have before : edited.Supplied := by
    apply supplied_dropLastFraction _ _ dropped
    · exact sound.order
    · exact supplied
  exact before

theorem supplied_act (sound : c.Sound) (supplied : c.Supplied) {action : Action} {answer : Answer}
    (done : c.act action = (next, .ok answer)) : next.Supplied := by
  cases acted_of_act done with
  | entered key reply _ done =>
      have entered := supplied.enter key
      rwa [done] at entered
  | erased reply done => exact sound.supplied_backspace supplied done
  | cleared same =>
      rw [same]
      exact supplied_of_none rfl
  | reset same =>
      rw [same]
      exact supplied_of_none rfl
  | recovered same =>
      rw [same]
      exact supplied.recover
  | turned denominator reply _ done => exact sound.supplied_setDenominator supplied done
  | closed same =>
      rw [same]
      exact supplied
  | fired timer same =>
      have carry : (c.fire timer).1.carry = c.carry := by
        unfold Calculator.fire
        split
        · rfl
        · split
          · change c.recover.carry = c.carry
            rw [recover_frame]
          · rfl
      rw [same]
      exact supplied.of_carry carry

end Sound

theorem Run.supplied {first : Calculator} {events : List Event} (run : Run first events c)
    (sound : first.Sound) (supplied : first.Supplied) : c.Supplied := by
  induction run with
  | start => exact supplied
  | act before _ done ih => exact (before.sound sound).supplied_act ih done

theorem usable_of_reached (reached : c.Reached) : ∀ term ∈ c.terms, term.Usable := by
  have sound := (sound_of_reached reached).1
  obtain ⟨settings, events, valid, run⟩ := reached
  exact (run.supplied (sound_fresh valid) (supplied_of_none rfl)).usable

/-! Answering -/

theorem reply_ok {text : Text} (shown : c.display? = .ok text) (accepted : Bool) :
    ∃ reply, (c.reply accepted).2 = .ok reply := by
  refine ⟨⟨accepted, c.keypad, text, c.error⟩, ?_⟩
  rw [reply_eq_ok.mpr ⟨rfl, text, shown, rfl⟩]

theorem evaluate_fault {fault : Fault}
    (evaluated : Expression.evaluate? (c.terms ++ [.operator equalsSymbol]) = .error fault) :
    (c.typed .equals).evaluate = (c.typed .equals, .error fault) := by
  unfold evaluate
  simp only [terms_typed_equals, evaluated]

theorem evaluate_ok {text : Text} {outcome : Outcome} (shown : c.display? = .ok text)
    (evaluated : Expression.evaluate? (c.terms ++ [.operator equalsSymbol]) = .ok outcome)
    (writes : ∀ result, outcome.result = .ok result → ∃ text, result.text? = .ok text) :
    ∃ reply, (c.typed .equals).evaluate.2 = .ok reply := by
  have written : Expression.text? c.terms = .ok text := shown
  unfold evaluate
  cases answer : outcome.result with
  | error error =>
      have back : ((c.typed .equals).withdrawn.rejecting error).display? = .ok text := by
        rw [rejecting_display, display?, withdrawn_terms]
        exact shown
      simp only [terms_typed_equals, evaluated, answer]
      exact reply_ok back false
  | ok result =>
      obtain ⟨resultText, resultWritten⟩ := writes result answer
      have alone : Expression.text? [result] = .ok (resultText ++ []) := by
        rw [Expression.text?, resultWritten]
        rfl
      simp only [terms_typed_equals, evaluated, answer, List.dropLast_concat, written,
        resultWritten]
      exact reply_ok (c := (c.typed .equals).concluded result text resultText) alone true

/-- The equals sign of a sound calculator is answered, or the expression comes to a measure that is
the greatest number; then the sign stays in the log. -/
theorem press_equals_settles (sound : c.Sound) (usable : ∀ term ∈ c.terms, term.Usable)
    {text : Text} (shown : c.display? = .ok text)
    (admitted : ∀ error, ¬ c.terms.Refuses .equals error) :
    let expression := c.terms ++ [.operator equalsSymbol]
    (expression.ReachesGreatest ∧ .equals ∈ (c.press .equals).1.log ∧
      (c.press .equals).2 = .error (.range .integerTooLarge)) ∨
    (¬ expression.ReachesGreatest ∧ ∃ reply, (c.press .equals).2 = .ok reply) := by
  intro expression
  have pressed := (press_of_admitted sound rfl admitted).2
  have same : (c.readied .equals).terms = c.terms := by
    rcases c.readied_terms .equals with ⟨carry, log⟩ | ⟨operand, _⟩
    · rw [terms, carry, log]
      rfl
    · cases operand
  have readiedShown : (c.readied .equals).display? = .ok text := by
    rw [display?, same]
    exact shown
  have legible : ∀ term ∈ expression, term.Legible := by
    intro term member
    rcases List.mem_append.mp member with member | last
    · exact (usable term member).legible
    · rw [List.mem_singleton.mp last]
      exact trivial
  rw [pressed, if_pos rfl]
  rcases Expression.evaluate?_settles legible with ⟨greatest, fault⟩ |
    ⟨below, outcome, evaluated, _, results⟩
  · left
    have broken := evaluate_fault (c := c.readied .equals) (by rw [same]; exact fault)
    rw [broken]
    refine ⟨greatest, ?_, rfl⟩
    exact List.mem_append_right _ (List.mem_singleton_self _)
  · right
    have same : Expression.evaluate? ((c.readied .equals).terms ++ [.operator equalsSymbol]) =
        .ok outcome := by
      rw [same]
      exact evaluated
    refine ⟨below, evaluate_ok readiedShown same ?_⟩
    intro result solved
    have isResult := Expression.isResult_of_solve? (Expression.solve?_of_evaluate? same solved)
    exact (results result solved).text isResult

/-- An evaluation has an outcome, and an equals sign is answered, unless on the way there is a
measure that is the greatest number: its whole big units make more small ones than can be held.
What is out of range otherwise is reported as too large. -/
theorem answered_unless_greatest {terms : Expression} (usable : ∀ term ∈ terms, term.Usable)
    (reached : c.Reached) :
    ((terms.ReachesGreatest ∧ terms.evaluate? = .error (.range .integerTooLarge)) ∨
      (¬ terms.ReachesGreatest ∧ ∃ outcome, terms.evaluate? = .ok outcome ∧
        (outcome.error? = some (.invalid .numberTooLarge) ↔ terms.LeavesRange))) ∧
    let unanswered := (∀ error, ¬ c.terms.Refuses .equals error) ∧
      Expression.ReachesGreatest (c.terms ++ [.operator equalsSymbol])
    ((unanswered ∧ .equals ∈ (c.press .equals).1.log ∧
        (c.press .equals).2 = .error (.range .integerTooLarge)) ∨
      (¬ unanswered ∧ ∃ next reply, c.press .equals = (next, .ok reply) ∧ .equals ∉ next.log)) := by
  constructor
  · have legible : ∀ term ∈ terms, term.Legible := fun term member => (usable term member).legible
    rcases Expression.evaluate?_settles legible with fault | ⟨below, outcome, same, tooLarge, _⟩
    · exact Or.inl fault
    · exact Or.inr ⟨below, outcome, same, tooLarge⟩
  · intro unanswered
    obtain ⟨sound, text, shown⟩ := sound_of_reached reached
    have answered (reply : Reply) (done : (c.press .equals).2 = .ok reply) :
        ∃ next reply, c.press .equals = (next, .ok reply) ∧ .equals ∉ next.log := by
      refine ⟨(c.press .equals).1, reply, by rw [← done], ?_⟩
      have admits : c.Admits (.press .equals) := trivial
      have acted : c.act (.press .equals) = ((c.press .equals).1, .ok (.reply reply)) := by
        simp only [act, Step.answering, done]
        rfl
      exact (sound_of_reached (reached.act admits acted)).1.order.unanswered
    by_cases admitted : ∀ error, ¬ c.terms.Refuses .equals error
    · rcases press_equals_settles sound (usable_of_reached reached) shown admitted with
        ⟨greatest, kept, fault⟩ | ⟨below, reply, done⟩
      · exact Or.inl ⟨⟨admitted, greatest⟩, kept, fault⟩
      · exact Or.inr ⟨fun stuck => below stuck.2, answered reply done⟩
    · obtain ⟨error, refuses⟩ := not_forall_not.mp admitted
      obtain ⟨next, reply, done, _⟩ := rejects_of_refuses sound ⟨text, shown⟩ rfl refuses
      refine Or.inr ⟨fun stuck => admitted stuck.1, answered reply ?_⟩
      rw [done]

/-- A product that is out of range is reported as too large, and `5ft x 3in =` is answered. -/
theorem answered_beyond_range :
    let side : Term := .typedLength { feet := 10 ^ 160 }
    let product : Expression := [side, .operator Arith.times.symbol, side, .operator equalsSymbol]
    (∀ term ∈ product, term.Usable) ∧
      (∃ outcome, product.evaluate? = .ok outcome ∧
        outcome.error? = some (.invalid .numberTooLarge)) ∧
      ∃ c : Calculator, c.Reached ∧
        c.terms = [.typedLength { feet := 5 }, .operator Arith.times.symbol,
          .typedLength { inches := 3 }] ∧
        ∃ next reply, c.press .equals = (next, .ok reply) ∧ .equals ∉ next.log := by
  intro side product
  have usable : ∀ term ∈ product, term.Usable := by
    have typed : side.Usable := .typed ⟨by decide, by decide, Or.inl ⟨rfl, rfl⟩⟩ rfl
    intro term member
    simp only [product, List.mem_cons, List.not_mem_nil, or_false] at member
    rcases member with rfl | rfl | rfl | rfl
    · exact typed
    · exact .operator .times
    · exact typed
    · exact .equals
  obtain ⟨events, c, run, _, seen⟩ := exists_run (fresh {})
    [.press (.digit .feet 5), .press (.operator .times), .press (.digit .inches 3)]
    (fun c => c.terms = [.typedLength { feet := 5 }, .operator Arith.times.symbol,
      .typedLength { inches := 3 }]) (by decide +kernel)
  have reached : c.Reached := ⟨{}, events, by decide +kernel, run⟩
  have shape := of_decide_eq_true seen
  have outOfRange : product.formations =
      [⟨[side.magnitude, side.magnitude], .area (.infinite false)⟩] := by decide +kernel
  have ordinary : Expression.formations (c.terms ++ [.operator equalsSymbol]) =
      [⟨[.ofNat 60, .ofNat 3], .area (.ofNat 180)⟩] := by
    rw [shape]
    decide +kernel
  obtain ⟨evaluation, session⟩ := answered_unless_greatest usable reached
  refine ⟨usable, ?_, c, reached, shape, ?_⟩
  · have leaves : product.LeavesRange := by
      rw [Expression.LeavesRange, outOfRange]
      refine ⟨_, List.mem_singleton_self _, ?_⟩
      rintro ⟨_, finite⟩
      cases finite
    rcases evaluation with ⟨⟨_, member, _, _, top⟩, _⟩ | ⟨_, outcome, same, tooLarge⟩
    · rw [outOfRange] at member
      rw [List.mem_singleton.mp member] at top
      cases top
    · exact ⟨outcome, same, tooLarge.mpr leaves⟩
  · rcases session with ⟨⟨_, _, member, _, _, top⟩, _⟩ | ⟨_, answered⟩
    · rw [ordinary] at member
      rw [List.mem_singleton.mp member] at top
      have small : (Binary64.ofNat 180).abs ≠ Binary64.greatest := by decide +kernel
      exact absurd top small
    · exact answered

/-- The greatest number of inches, which can be typed, has no outcome. -/
theorem greatest_length_unanswered :
    let terms : Expression :=
      [.typedLength { inches := (2 ^ 53 - 1) * 2 ^ 971 }, .operator equalsSymbol]
    (∀ term ∈ terms, term.Usable) ∧ ∀ outcome, terms.evaluate? ≠ .ok outcome := by
  intro terms
  constructor
  · intro term member
    rcases List.mem_cons.mp member with rfl | member
    · exact .typed ⟨by decide, by decide +kernel, Or.inl ⟨rfl, rfl⟩⟩ rfl
    · rw [List.mem_singleton.mp member]
      exact .equals
  · intro outcome answered
    have evaluated := Expression.evaluate?_equals
      [.typedLength { inches := (2 ^ 53 - 1) * 2 ^ 971 }]
    have fault : Expression.solve? [.typedLength { inches := (2 ^ 53 - 1) * 2 ^ 971 }] =
        .error (.fault (.range .integerTooLarge)) := by decide +kernel
    rw [fault] at evaluated
    cases evaluated.symm.trans answered

end Calculator

end FeetInches