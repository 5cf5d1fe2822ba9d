import FeetInches.Proofs.Calculator.Recovery
import FeetInches.Proofs.Keypad.Accumulation
/-!
The operand being composed, and what the pads show of it. The pads are made anew with a result, but
not with an operator: an operand is shown as it is only where the earlier ones have left its pads
empty.
-/

namespace FeetInches

namespace InOrder

variable {carry : Option Term} {log : List Key} {front rest : Expression} {term : Term}

theorem not_carried (order : InOrder carry log) (typed : term.isResult = false) :
    term ∉ carry.toList := by
  intro carried
  have result := order.carried term (Option.mem_toList.mp carried)
  rw [typed] at result
  cases result

theorem typed_last (order : InOrder carry log) (typed : term.isResult = false)
    (shape : carry.toList ++ Expression.ofKeys log = front ++ [term]) :
    ∃ rest, Expression.ofKeys log = rest ++ [term] ∧ front = carry.toList ++ rest := by
  rcases List.eq_nil_or_concat' (Expression.ofKeys log) with empty | ⟨rest, last, split⟩
  · rw [empty, List.append_nil] at shape
    have carried : term ∈ carry.toList := by
      rw [shape]
      exact List.mem_concat_self
    exact absurd carried (order.not_carried typed)
  · rw [split, ← List.append_assoc] at shape
    obtain ⟨before, same⟩ := List.append_inj' shape rfl
    cases same
    exact ⟨rest, split, before.symm⟩

theorem mem_typed_iff (order : InOrder carry log) (typed : term.isResult = false) :
    term ∈ carry.toList ++ rest ↔ term ∈ rest := by
  rw [List.mem_append, or_iff_right (order.not_carried typed)]

end InOrder

namespace Calculator

variable {c : Calculator}

/-- Out of the error mode the pads show all that was typed since they were made anew. -/
theorem pads_of_reached (reached : c.Reached) (calm : c.keypad.mode ≠ .error) :
    (∀ pad, (Expression.ofKeys c.log).ShowsCount pad (c.keypad.lengthPad pad).whole) ∧
      c.keypad.scalar = (Expression.ofKeys c.log).numbersTyped := by
  have order := (sound_of_reached reached).1.order
  have shows := Keypad.replay_shows c.replayBase (fun pad => by cases pad <;> rfl) rfl
    c.replayBase_mode order.plain order.alternates
  rw [← rebuiltKeypad_eq] at shows
  rcases tracks_of_reached reached calm with same | turned
  · rwa [same]
  · rw [turned]
    refine ⟨fun pad => ?_, shows.2⟩
    have shown := shows.1 pad
    cases pad <;> exact shown

/-- A length being composed is shown on a pad just where no earlier one has anything there, and else
a greater count is shown. A number is shown just where each earlier one is a lone point, and it
begins with a point itself. -/
theorem pads_show_operand_iff (reached : c.Reached) (calm : c.keypad.mode ≠ .error) :
    (∀ front l, c.terms = front ++ [.typedLength l] → ∀ pad,
      l.count pad ≤ (c.keypad.lengthPad pad).whole ∧
        ((c.keypad.lengthPad pad).whole = l.count pad ↔
          ∀ earlier, .typedLength earlier ∈ front → earlier.count pad = 0)) ∧
    ∀ front text, c.terms = front ++ [.typedNumber text] →
      (c.keypad.scalar = text ↔
        ∀ earlier, .typedNumber earlier ∈ front →
          earlier = [.char '.'] ∧ text.head? = some (.char '.')) := by
  have order := (sound_of_reached reached).1.order
  obtain ⟨shows, number⟩ := pads_of_reached reached calm
  constructor
  · intro front l shape pad
    obtain ⟨rest, split, rfl⟩ := order.typed_last rfl shape
    have shown := shows pad
    rw [split, Expression.showsCount_concat] at shown
    refine ⟨shown.1, shown.2.trans ?_⟩
    simp only [order.mem_typed_iff (rfl : Term.isResult (.typedLength _) = false),
      Expression.Unused]
  · intro front text shape
    obtain ⟨rest, split, rfl⟩ := order.typed_last rfl shape
    have tidy := Typing.tidy_ofKeys c.log
    rw [← Expression.ofKeys_eq_terms] at tidy
    rw [number, Expression.numbersTyped_eq_last_iff tidy split]
    simp only [order.mem_typed_iff (rfl : Term.isResult (.typedNumber _) = false), lonePoint]

/-- Two feet added to one foot are shown as twelve, and the number two added to one likewise. -/
theorem pads_show_more :
    ∃ c d : Calculator, c.Reached ∧ c.keypad.mode ≠ .error ∧
      c.terms = [.typedLength { feet := 1 }, .operator "+", .typedLength { feet := 2 }] ∧
      c.keypad.feet.whole = 12 ∧
      d.Reached ∧ d.keypad.mode ≠ .error ∧
      d.terms = [.typedNumber "1", .operator "+", .typedNumber "2"] ∧ d.keypad.scalar = "12" := by
  obtain ⟨events, c, run, _, seen⟩ := exists_run (fresh {})
    [.press (.digit .feet 1), .press (.operator .plus), .press (.digit .feet 2)]
    (fun c => c.keypad.mode ≠ .error &&
      c.terms = [.typedLength { feet := 1 }, .operator "+", .typedLength { feet := 2 }] &&
      c.keypad.feet.whole = 12) (by decide +kernel)
  obtain ⟨others, d, otherRun, _, otherSeen⟩ := exists_run (fresh {})
    [.press (.scalarDigit 1), .press (.operator .plus), .press (.scalarDigit 2)]
    (fun c => c.keypad.mode ≠ .error &&
      c.terms = [.typedNumber "1", .operator "+", .typedNumber "2"] && c.keypad.scalar = "12")
    (by decide +kernel)
  simp only [Bool.and_eq_true, decide_eq_true_eq] at seen otherSeen
  obtain ⟨⟨calm, shape⟩, whole⟩ := seen
  obtain ⟨⟨otherCalm, otherShape⟩, scalar⟩ := otherSeen
  exact ⟨c, d, ⟨{}, events, by decide +kernel, run⟩, calm, shape, whole,
    ⟨{}, others, by decide +kernel, otherRun⟩, otherCalm, otherShape, scalar⟩

/-- After three inches, five feet and two inches are shown as five feet and thirty-two inches. After
a lone point, a point and a five are shown as they are. -/
theorem pads_show_operand_after_another :
    ∃ c d : Calculator, c.Reached ∧ c.keypad.mode ≠ .error ∧
      c.terms = [.typedLength { inches := 3 }, .operator "+",
        .typedLength { feet := 5, inches := 2 }] ∧
      c.keypad.feet.whole = 5 ∧ c.keypad.inches.whole ≠ 2 ∧
      d.Reached ∧ d.keypad.mode ≠ .error ∧
      d.terms = [.typedNumber ".", .operator "+", .typedNumber ".5"] ∧ d.keypad.scalar = ".5" := by
  obtain ⟨events, c, run, _, seen⟩ := exists_run (fresh {})
    [.press (.digit .inches 3), .press (.operator .plus), .press (.digit .feet 5),
      .press (.digit .inches 2)]
    (fun c => c.keypad.mode ≠ .error &&
      c.terms = [.typedLength { inches := 3 }, .operator "+",
        .typedLength { feet := 5, inches := 2 }]) (by decide +kernel)
  obtain ⟨others, d, otherRun, _, otherSeen⟩ := exists_run (fresh {})
    [.press .point, .press (.operator .plus), .press .point, .press (.scalarDigit 5)]
    (fun c => c.keypad.mode ≠ .error &&
      c.terms = [.typedNumber ".", .operator "+", .typedNumber ".5"]) (by decide +kernel)
  simp only [Bool.and_eq_true, decide_eq_true_eq] at seen otherSeen
  have reached : c.Reached := ⟨{}, events, by decide +kernel, run⟩
  have otherReached : d.Reached := ⟨{}, others, by decide +kernel, otherRun⟩
  have shown := (pads_show_operand_iff reached seen.1).1
    [.typedLength { inches := 3 }, .operator "+"] { feet := 5, inches := 2 } seen.2
  have number := (pads_show_operand_iff otherReached otherSeen.1).2
    [.typedNumber ".", .operator "+"] ".5" otherSeen.2
  refine ⟨c, d, reached, seen.1, seen.2, ?_, ?_, otherReached, otherSeen.1, otherSeen.2, ?_⟩
  · refine (shown .feet).2.mpr ?_
    intro earlier member
    obtain rfl : earlier = { inches := 3 } := by simpa using member
    rfl
  · intro same
    exact absurd ((shown .inches).2.mp same { inches := 3 } (by simp)) (by decide)
  · refine number.mpr ?_
    intro earlier member
    have same : earlier = "." := by simpa using member
    rw [same]
    exact ⟨by decide, by decide⟩

end Calculator

end FeetInches
