import FeetInches.Proofs.Calculator.Answering

namespace FeetInches

theorem TypedLength.dropFraction_eq_self {l : TypedLength} (tidy : l.Tidy)
    (lacking : l.hasFraction = false) : l.dropFraction = l := by
  have notPositive : ¬ 0 < l.numerator := by simpa [hasFraction] using lacking
  obtain ⟨zero, default⟩ := tidy.fraction.resolve_right fun proper => notPositive proper.2.1
  rw [dropFraction, ← zero, ← default]

namespace Expression

def withoutLastFraction (terms : Expression) : Expression :=
  match terms.getLast? with
  | some (.typedLength l) => terms.dropLast ++ [.typedLength l.dropFraction]
  | _ => terms

theorem withoutLastFraction_concat (front : Expression) (l : TypedLength) :
    withoutLastFraction (front ++ [.typedLength l]) =
      front ++ [.typedLength l.dropFraction] := by
  simp [withoutLastFraction]

theorem withoutLastFraction_eq_self {terms : Expression} (orderly : terms.Orderly)
    (lacking : ∀ l, terms.getLast? = some (.typedLength l) → l.hasFraction = false) :
    withoutLastFraction terms = terms := by
  unfold withoutLastFraction
  split
  · rename_i l last
    obtain ⟨front, rfl⟩ := List.getLast?_eq_some_iff.mp last
    have tidy : l.Tidy := orderly.last.resolve_left (by simp [Term.isResult])
    rw [TypedLength.dropFraction_eq_self tidy (lacking l last), List.dropLast_concat]
  · rfl

theorem head?_concat_length (front : Expression) (l m : TypedLength) :
    (front ++ [Term.typedLength l]).head?.filter Term.isResult =
      (front ++ [Term.typedLength m]).head?.filter Term.isResult := by
  cases front with
  | nil => rfl
  | cons first rest => rfl

end Expression

theorem InOrder.carry_eq {carry : Option Term} {log : List Key} (order : InOrder carry log) :
    carry = (carry.toList ++ Expression.ofKeys log).head?.filter Term.isResult := by
  cases carry with
  | some result => exact (Option.filter_some_pos (order.carried result rfl)).symm
  | none =>
      have typed : ∀ first ∈ (Expression.ofKeys log).head?, first.isResult = false := by
        intro first found
        exact Term.not_isResult_of_tidy (Typing.tidy_ofKeys log first (List.mem_of_mem_head? found))
      rw [eq_comm, Option.toList_none, List.nil_append, Option.filter_eq_none_iff]
      simpa using typed

namespace Calculator

variable {c next : Calculator}

theorem dropLastFraction_frame (order : InOrder c.carry c.log)
    (mode : c.keypad.mode ≠ .error → c.keypad.mode = c.terms.mode)
    (done : c.dropLastFraction = (next, .ok ())) :
    next = { c with keypad := next.keypad, log := next.log } ∧
      next.keypad.mode = c.keypad.mode ∧ next.terms = c.terms.withoutLastFraction := by
  rcases dropLastFraction_cases order done with
    ⟨rfl, lacking⟩ | ⟨front, l, carry, log, shape, kept, same, edited⟩
  · exact ⟨rfl, rfl, (Expression.withoutLastFraction_eq_self order.orderly lacking).symm⟩
  · obtain rfl : carry = c.carry := by
      rw [kept.carry_eq, order.carry_eq, same]
      change _ = c.terms.head?.filter Term.isResult
      rw [shape, Expression.head?_concat_length]
    have terms : terms { c with log := log } = c.terms.withoutLastFraction := by
      rw [shape, Expression.withoutLastFraction_concat]
      exact same
    rcases edited with ⟨_, rfl⟩ | ⟨calm, rfl⟩
    · exact ⟨rfl, rfl, terms⟩
    · refine ⟨rfl, ?_, terms⟩
      -- a length stands at the end before and after
      calc ({ c with log := log }.rebuild).keypad.mode
        _ = Expression.mode c.terms.withoutLastFraction := by
            rw [rebuild_mode (c := { c with log := log }) kept.plain kept.alternates, terms]
        _ = c.terms.mode := by
            rw [shape, Expression.withoutLastFraction_concat, Expression.mode_concat,
              Expression.mode_concat]
            rfl
        _ = c.keypad.mode := (mode calm).symm

/-- A known denominator can be set in any mode. Of the expression that changes nothing but the
fraction of a length typed last, which is dropped, and the inches pad has no fraction then. Any
other denominator is a bad value, and nothing is changed. -/
theorem setDenominator_drops_last_fraction (reached : c.Reached) (denominator : Int) :
    (denominator ∈ padDenominators →
      ∃ next reply, c.setDenominator denominator = (next, .ok reply) ∧ reply.accepted = true ∧
        next.keypad.denominator = denominator ∧
        next.keypad.inches.fraction = ⟨0, denominator⟩ ∧ next.keypad.mode = c.keypad.mode ∧
        next.terms = c.terms.withoutLastFraction ∧
        next = { c with
          denominator := denominator
          keypad := next.keypad
          log := next.log }) ∧
    (denominator ∉ padDenominators →
      c.setDenominator denominator = (c, .error .denominatorChoice) ∧
        Fault.denominatorChoice.nature = .badValue) := by
  constructor
  · intro known
    obtain ⟨sound, shown⟩ := sound_of_reached reached
    obtain ⟨edited, dropped, text, shown⟩ :=
      dropLastFraction_ok (c := c.choosing denominator) sound.order shown
    obtain ⟨frame, mode, terms⟩ :=
      dropLastFraction_frame (c := c.choosing denominator) sound.order sound.mode dropped
    have done : c.setDenominator denominator =
        ({ edited with keypad := edited.keypad.turnedTo denominator },
          .ok ⟨true, edited.keypad.turnedTo denominator, text, edited.error⟩) := by
      rw [setDenominator_eq, if_neg (not_not_intro known), dropped]
      exact reply_eq_ok.mpr ⟨rfl, text, shown, rfl⟩
    refine ⟨_, _, done, rfl, rfl, rfl, mode, terms, ?_⟩
    rw [frame]
    rfl
  · intro unknown
    rw [setDenominator_eq, if_pos unknown]
    exact ⟨rfl, rfl⟩

/-- Five feet are carried on, three and a half inches added, and a number is rejected. Then 32 takes
off the half inch and the error mode stays, and 12 is refused. -/
theorem setDenominator_in_error_mode :
    ∃ (c next : Calculator) (reply : Reply), c.Reached ∧ c.keypad.mode = .error ∧
      c.carry.isSome ∧
      c.terms = c.carry.toList ++ [.operator "+"] ++
        [.typedLength { inches := 3, numerator := 1, denominator := 2 }] ∧
      c.setDenominator 32 = (next, .ok reply) ∧ next.keypad.mode = .error ∧
      next.terms = c.carry.toList ++ [.operator "+"] ++ [.typedLength { inches := 3 }] ∧
      next.carry = c.carry ∧ c.setDenominator 12 = (c, .error .denominatorChoice) := by
  obtain ⟨events, c, run, _, seen⟩ := exists_run (fresh {})
    [.press (.digit .feet 5), .pressEquals, .press (.operator .plus), .press (.digit .inches 3),
      .press (.fraction .inches ⟨"1/2", ⟨1, 2⟩, by decide +kernel⟩), .press (.scalarDigit 2)]
    (fun c => c.keypad.mode = .error && c.carry.isSome &&
      c.terms = c.carry.toList ++ [.operator "+"] ++
        [.typedLength { inches := 3, numerator := 1, denominator := 2 }]) (by decide +kernel)
  simp only [Bool.and_eq_true, decide_eq_true_eq] at seen
  obtain ⟨⟨mode, carried⟩, shape⟩ := seen
  have reached : c.Reached := ⟨{}, events, by decide +kernel, run⟩
  obtain ⟨next, reply, done, _, _, _, kept, terms, frame⟩ :=
    (setDenominator_drops_last_fraction reached 32).1 (by decide)
  have refused := ((setDenominator_drops_last_fraction reached 12).2 (by decide)).1
  rw [shape, Expression.withoutLastFraction_concat] at terms
  refine ⟨c, next, reply, reached, mode, carried, shape, done, kept.trans mode, terms, ?_, refused⟩
  rw [frame]

end Calculator

end FeetInches
