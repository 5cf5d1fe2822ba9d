import FeetInches.Proofs.Calculator.Backspace
import FeetInches.Proofs.Calculator.Oversize

namespace FeetInches.Calculator

variable {c : Calculator}

/-- An equals sign would not be refused, but come to a measure that is the greatest number. -/
def IsStuck (c : Calculator) : Prop :=
  (∀ error, ¬ c.terms.Refuses .equals error) ∧
    Expression.ReachesGreatest (c.terms ++ [.operator equalsSymbol])

theorem steady_of_reached (reached : c.Reached) : c.Steady ∧ c.Supplied := by
  have sound := (sound_of_reached reached).1
  obtain ⟨settings, events, valid, run⟩ := reached
  exact ⟨sound.steady, run.supplied (sound_fresh valid) (supplied_of_none rfl)⟩

theorem countsWritten_of_reached (reached : c.Reached) : c.terms.CountsWritten := by
  obtain ⟨steady, supplied⟩ := steady_of_reached reached
  obtain ⟨text, shown⟩ := (sound_of_reached reached).2
  have writes := steady.display_writes supplied
  rwa [shown] at writes

theorem errorTimeout_isOk (reached : c.Reached) : c.errorTimeout.2.isOk := by
  obtain ⟨steady, supplied⟩ := steady_of_reached reached
  have written := countsWritten_of_reached reached
  refine (steady.recover.1.reply_isOk supplied.recover true).mpr ?_
  rw [recover_frame]
  exact written

theorem press_equals_isOk (reached : c.Reached) : (c.press .equals).2.isOk ↔ ¬ c.IsStuck := by
  obtain ⟨sound, text, shown⟩ := sound_of_reached reached
  by_cases admitted : ∀ error, ¬ c.terms.Refuses .equals error
  · rcases press_equals_settles sound (usable_of_reached reached) shown admitted with
      ⟨greatest, _, fault⟩ | ⟨below, reply, done⟩
    · rw [fault]
      exact iff_of_false Bool.false_ne_true (not_not_intro ⟨admitted, greatest⟩)
    · rw [done]
      exact iff_of_true rfl fun stuck => below stuck.2
  · obtain ⟨error, refuses⟩ := not_forall_not.mp admitted
    obtain ⟨next, reply, done, _⟩ := rejects_of_refuses sound ⟨text, shown⟩ rfl refuses
    rw [done]
    exact iff_of_true rfl fun stuck => stuck.1 error refuses

/-- Whatever the key, it is broken off only by an equals sign that is stuck or a count that is too
long, and the count stays. -/
theorem press_isOk_iff (reached : c.Reached) (key : Key) :
    (c.press key).2.isOk ↔
      ¬ (key = .equals ∧ c.IsStuck) ∧ (c.press key).1.terms.CountsWritten := by
  obtain ⟨steady, supplied⟩ := steady_of_reached reached
  have written := countsWritten_of_reached reached
  rw [steady.countsWritten_press written]
  cases key using Key.cases_control with
  | entered key plain =>
      by_cases equals : key = .equals
      · subst equals
        rw [press_equals_isOk reached]
        simp [Expression.fits_of_other]
      · rw [steady.press_isOk supplied plain equals]
        simp [equals, written]
  | clear => exact iff_of_true rfl (by simp [Expression.fits_of_other])
  | errorTimeout =>
      exact iff_of_true (errorTimeout_isOk reached) (by simp [Expression.fits_of_other])
  | backspace =>
      have erased := Expression.countsWritten_eraseInput written
      exact iff_of_true ((steady.backspace_isOk supplied).mpr erased)
        (by simp [Expression.fits_of_other])

theorem fire_ok (reached : c.Reached) (timer : Timer) : ∃ next, c.fire timer = (next, .ok ()) := by
  have recovered := errorTimeout_isOk reached
  unfold fire
  split
  · exact ⟨c, rfl⟩
  · split
    · rcases step : c.errorTimeout with ⟨next, fault | reply⟩
      · rw [step] at recovered
        cases recovered
      · exact ⟨next, rfl⟩
    · exact ⟨_, rfl⟩

theorem dropLastFraction_ok (order : InOrder c.carry c.log)
    (shown : ∃ text, c.display? = .ok text) :
    ∃ next, c.dropLastFraction = (next, .ok ()) ∧ ∃ text, next.display? = .ok text := by
  rw [dropLastFraction_eq]
  split
  · rename_i l last
    split
    · obtain ⟨front, shape⟩ := List.getLast?_eq_some_iff.mp last
      have orderly : c.terms.Orderly := order.orderly
      rw [display?, shape] at shown
      rw [shape] at orderly
      rw [shape, List.dropLast_concat]
      have tidy : l.Tidy := orderly.last.resolve_left (by simp [Term.isResult])
      obtain ⟨frontShown, lastShown⟩ := Expression.text?_concat_ok.mp shown
      have counts := (l.text?_ok tidy).mp lastShown
      have left : ∃ text, Expression.text? (front ++ [.typedLength l.dropFraction]) = .ok text := by
        refine Expression.text?_concat_ok.mpr ⟨frontShown, ?_⟩
        refine (TypedLength.text?_ok (TypedLength.tidy_dropFraction tidy)).mpr fun pad => ?_
        have count := counts pad
        cases pad <;> exact count
      obtain ⟨edited, stored⟩ := store_ok (c := c) orderly.dropFraction left
      obtain ⟨carry, log, rfl, _, same⟩ := store_orderly orderly.dropFraction stored
      rw [stored]
      refine ⟨_, rfl, ?_⟩
      rw [← same] at left
      unfold refreshed
      split <;> exact left
    · exact ⟨c, rfl, shown⟩
  · exact ⟨c, rfl, shown⟩

theorem setDenominator_ok (reached : c.Reached) {denominator : Int}
    (known : denominator ∈ padDenominators) :
    ∃ next reply, c.setDenominator denominator = (next, .ok reply) := by
  obtain ⟨sound, shown⟩ := sound_of_reached reached
  obtain ⟨edited, dropped, text, shown⟩ :=
    dropLastFraction_ok (c := c.choosing denominator) sound.order shown
  rw [setDenominator_eq, if_neg (not_not_intro known), dropped]
  exact ⟨_, _, reply_eq_ok.mpr ⟨rfl, text, shown, rfl⟩⟩

end FeetInches.Calculator
