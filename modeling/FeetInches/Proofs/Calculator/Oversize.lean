import FeetInches.Calculator.Snapshot
import FeetInches.Proofs.Calculator.Calls
import FeetInches.Proofs.Calculator.Equals
import FeetInches.Proofs.Expression.Counts

namespace FeetInches

theorem WritesIf.isOk {α : Type} {fits : Prop} {text : Except Fault α}
    (writes : WritesIf fits text) : text.isOk ↔ fits := by
  cases text with
  | error fault => exact iff_of_false Bool.false_ne_true writes.2
  | ok text => exact iff_of_true rfl writes

namespace Calculator

/-- The calculator after some keys. One that is broken off leaves it as far as it has come. -/
def pressing (c : Calculator) (keys : List Key) : Calculator :=
  keys.foldl (fun c key => (c.press key).1) c

theorem pressing_concat (c : Calculator) (keys : List Key) (key : Key) :
    c.pressing (keys ++ [key]) = ((c.pressing keys).press key).1 := by
  simp [pressing]

variable {c : Calculator} {key : Key}

/-! What every key keeps -/

theorem readied_log (c : Calculator) (key : Key) : (c.readied key).log = c.log := by
  rcases c.readied_terms key with ⟨_, log⟩ | ⟨_, _, empty, _, log⟩
  · exact log
  · rw [log, empty]

namespace Steady

theorem concluded {result : Term} (isResult : result.isResult) (expression text : Text) :
    (c.concluded result expression text).Steady := by
  refine steady_rebuild (by simp) (by simpa using isResult) ?_
  exact (Expression.alternates_singleton result).mpr (Term.isOperand_of_isResult isResult)

theorem enter (steady : c.Steady) (plain : key.isControl = false) : (c.enter key).1.Steady := by
  obtain ⟨ready, tracked, apart⟩ := steady.readied key
  cases c.enters key with
  | refused error _ step =>
      rw [step, reject_state]
      exact ready.rejecting error
  | broken fault expression equals admitted step =>
      have typed := ready.typed tracked plain apart admitted
      rw [step]
      exact ⟨typed.plain, typed.carried, typed.alternates, typed.mode⟩
  | failed error equals _ _ step =>
      subst equals
      rw [step, reject_state]
      exact ready.withdrawn.rejecting error
  | calculated result expression text _ _ solved _ _ step =>
      rw [step]
      exact concluded (Expression.isResult_of_solve? solved) expression text
  | taken _ admitted step =>
      rw [step]
      exact ready.typed tracked plain apart admitted

theorem exists_erased (steady : c.Steady) :
    ∃ carry rest, c.terms.eraseInput = carry.toList ++ rest ∧ rest.Canonical ∧
      (carry = c.carry ∨ carry = none ∧ rest = []) := by
  by_cases typed : Expression.ofKeys c.log = []
  · refine ⟨none, [], ?_, Expression.canonical_nil, Or.inr ⟨rfl, rfl⟩⟩
    rw [terms, typed, List.append_nil]
    cases carried : c.carry with
    | none => rfl
    | some result =>
        have isResult := steady.carried result carried
        cases result <;> first | rfl | cases isResult
  · have canonical := Expression.canonical_ofKeys c.log
    refine ⟨c.carry, (Expression.ofKeys c.log).eraseInput, ?_, canonical.eraseInput, Or.inl rfl⟩
    exact Expression.eraseInput_append typed

/-- A backspace is broken off before it edits anything, because a count that it leaves is too long,
or it takes back input. -/
theorem backspace_cases (steady : c.Steady) :
    (∃ fault, c.backspace = (c.cancelTimers, .error fault) ∧
      ¬ c.terms.eraseInput.CountsWritten) ∨
    ∃ edited : Calculator, edited.Steady ∧ edited.terms = c.terms.eraseInput ∧
      (edited.carry = c.carry ∨ edited.carry = none) ∧ c.backspace = edited.reply true := by
  obtain ⟨carry, rest, erased, canonical, kept⟩ := steady.exists_erased
  have carried : ∀ result ∈ carry, result.isResult := by
    rcases kept with rfl | ⟨rfl, _⟩
    · exact steady.carried
    · simp
  have stored := c.cancelTimers.store_eq carried canonical.tidy
  rw [backspace_eq, show c.cancelTimers.terms = c.terms from rfl, erased, stored]
  cases written : rest.keys with
  | error fault =>
      left
      refine ⟨fault, ?_, ?_⟩
      · rcases kept with rfl | ⟨_, rfl⟩
        · rfl
        · cases written
      · intro counts
        rw [Expression.countsWritten_append] at counts
        obtain ⟨log, again, _⟩ := canonical.typed_again counts.2
        rw [written] at again
        cases again
  | ok log =>
      right
      have again : Expression.ofKeys log = rest :=
        Expression.ofKeys_keys canonical.tidy canonical.apart written
      let edited : Calculator := { c.cancelTimers with carry, log, error := none }
      have shape : edited.terms = carry.toList ++ rest := by rw [terms, again]
      have alternates := Expression.alternates_eraseInput steady.alternates
      rw [erased, ← shape] at alternates
      have steady := steady_rebuild (c := edited) (Expression.plain_keys canonical.tidy written)
        carried alternates
      exact ⟨edited.rebuild, steady, shape, kept.imp id And.left, rfl⟩

theorem press (steady : c.Steady) (key : Key) : (c.press key).1.Steady := by
  cases key using Key.cases_control with
  | entered key plain =>
      rw [press_eq_enter c plain]
      exact steady.enter plain
  | clear => exact steady_of_empty rfl rfl rfl
  | errorTimeout => exact steady.recover.1
  | backspace =>
      change c.backspace.1.Steady
      rcases steady.backspace_cases with ⟨fault, step, _⟩ | ⟨edited, kept, _, _, step⟩
      · rw [step]
        exact steady.cancelTimers
      · rw [step]
        exact kept

end Steady

theorem Supplied.press (supplied : c.Supplied) (steady : c.Steady) (key : Key) :
    (c.press key).1.Supplied := by
  cases key using Key.cases_control with
  | entered key plain =>
      rw [press_eq_enter c plain]
      exact supplied.enter key
  | clear => exact supplied_of_none rfl
  | errorTimeout => exact supplied.recover
  | backspace =>
      change c.backspace.1.Supplied
      rcases steady.backspace_cases with ⟨fault, step, _⟩ | ⟨edited, _, _, carry, step⟩
      · rw [step]
        exact supplied.of_carry rfl
      · rw [step]
        exact carry.elim supplied.of_carry supplied_of_none

theorem steady_pressing (settings : Settings) (keys : List Key) :
    ((fresh settings).pressing keys).Steady ∧ ((fresh settings).pressing keys).Supplied := by
  induction keys using List.reverseRecOn with
  | nil => exact ⟨steady_of_empty rfl rfl rfl, supplied_of_none rfl⟩
  | append_singleton keys key ih =>
      rw [pressing_concat]
      exact ⟨ih.1.press key, ih.2.press ih.1 key⟩

/-! What is shown -/

namespace Steady

theorem display_writes (steady : c.Steady) (supplied : c.Supplied) :
    WritesIf c.terms.CountsWritten c.display? := by
  refine Expression.text_writes fun term member => ?_
  rcases List.mem_append.mp member with carried | typed
  · have isResult := steady.results term carried
    obtain ⟨text, shown⟩ :=
      (supplied term (Option.mem_toList.mp carried)).legible.text isResult
    rw [shown]
    exact Expression.countsWritten_of_results (by simpa using isResult)
  · exact Expression.term_writes (Typing.tidy_ofKeys c.log term typed)

theorem reply_isOk (steady : c.Steady) (supplied : c.Supplied) (accepted : Bool) :
    (c.reply accepted).2.isOk ↔ c.terms.CountsWritten := by
  rw [← (steady.display_writes supplied).isOk, Calculator.reply]
  cases c.display? <;> exact Iff.rfl

theorem snapshot_isOk (steady : c.Steady) (supplied : c.Supplied) :
    c.snapshot?.isOk ↔ c.terms.CountsWritten := by
  rw [← (steady.display_writes supplied).isOk, snapshot?]
  cases c.display? <;> exact Iff.rfl

/-- Only what was typed can have counts that are too long. -/
theorem countsWritten_iff (steady : c.Steady) :
    c.terms.CountsWritten ↔ (Expression.ofKeys c.log).CountsWritten := by
  rw [terms, Expression.countsWritten_append]
  exact and_iff_right (Expression.countsWritten_of_results steady.results)

theorem overflows_iff (steady : c.Steady) :
    c.terms.Overflows key ↔ (Expression.ofKeys c.log).Overflows key := by
  rw [terms, Expression.Overflows, Expression.openLength_append steady.results]
  rfl

theorem countsWritten_typed (steady : c.Steady) (plain : key.isControl = false) :
    (c.typed key).terms.CountsWritten ↔ c.terms.CountsWritten ∧ ¬ c.terms.Overflows key := by
  rw [steady.countsWritten_iff, steady.overflows_iff, ← Expression.countsWritten_press plain]
  exact Expression.countsWritten_append.trans
    (and_iff_right (Expression.countsWritten_of_results steady.results))

theorem countsWritten_readied (steady : c.Steady) (key : Key) :
    (c.readied key).terms.CountsWritten ↔ c.terms.CountsWritten := by
  rw [(steady.readied key).1.countsWritten_iff, steady.countsWritten_iff, readied_log]

theorem fits_of_refused (tracked : c.keypad.mode = c.terms.mode) {error : CalcError}
    (refused : c.refusal? key = some error) : ¬ c.terms.Overflows key := by
  rintro ⟨pad, d, rfl, long⟩
  rw [refusal?, tracked] at refused
  have operand : (Key.digit pad d).isOperand := rfl
  rcases refusal?_operand c.terms operand c.log.getLast? with
    ⟨_, admitted⟩ | ⟨_, other, _⟩
  · rw [refused] at admitted
    cases admitted
  · rw [Expression.openLength_of_mode other] at long
    refine long ?_
    have small : Written d.val := written_small (by omega)
    cases pad <;> simpa [TypedLength.typeDigit, TypedLength.count] using small

theorem press_isOk (steady : c.Steady) (supplied : c.Supplied) (plain : key.isControl = false)
    (notEquals : key ≠ .equals) :
    (c.press key).2.isOk ↔ c.terms.CountsWritten ∧ ¬ c.terms.Overflows key := by
  obtain ⟨ready, tracked, apart⟩ := steady.readied key
  have same := supplied.readied key
  rw [press_eq_enter c plain, ← steady.countsWritten_readied key, ← readied_overflows steady]
  cases c.enters key with
  | refused error refused step =>
      have rejected := (ready.rejecting error).reply_isOk
        (same.of_carry (by rw [rejecting_frame])) false
      rw [step, reject_eq, rejected, rejecting_terms]
      exact (and_iff_left (fits_of_refused tracked refused)).symm
  | taken _ admitted step =>
      have typed := ready.typed tracked plain apart admitted
      rw [step, typed.reply_isOk (same.of_carry rfl), ready.countsWritten_typed plain]
  | broken _ _ equals | failed _ equals | calculated _ _ _ equals =>
      exact absurd equals notEquals

theorem backspace_isOk (steady : c.Steady) (supplied : c.Supplied) :
    c.backspace.2.isOk ↔ c.terms.eraseInput.CountsWritten := by
  rcases steady.backspace_cases with ⟨fault, step, long⟩ | ⟨edited, kept, erased, carry, step⟩
  · rw [step]
    exact iff_of_false Bool.false_ne_true long
  · have edited := kept.reply_isOk (carry.elim supplied.of_carry supplied_of_none) true
    rw [step, edited, erased]

theorem countsWritten_enter (steady : c.Steady) (written : c.terms.CountsWritten)
    (plain : key.isControl = false) :
    (c.enter key).1.terms.CountsWritten ↔ ¬ c.terms.Overflows key := by
  obtain ⟨ready, tracked, _⟩ := steady.readied key
  have before := (steady.countsWritten_readied key).mpr written
  have typed := ready.countsWritten_typed plain
  rw [← readied_overflows steady]
  cases c.enters key with
  | refused error refused step =>
      rw [step, reject_state, rejecting_terms]
      exact iff_of_true before (fits_of_refused tracked refused)
  | broken fault expression _ _ step =>
      rw [step]
      exact typed.trans (and_iff_right before)
  | failed error equals _ _ step =>
      subst equals
      rw [step, reject_state, rejecting_terms, withdrawn_terms]
      exact iff_of_true before (Expression.fits_of_other (by simp))
  | calculated result expression text equals _ solved _ _ step =>
      subst equals
      have concluded := concluded (Expression.isResult_of_solve? solved) expression text
        (c := (c.readied .equals).typed .equals)
      rw [step]
      refine iff_of_true (concluded.countsWritten_iff.mpr ?_) (Expression.fits_of_other (by simp))
      exact Expression.countsWritten_nil
  | taken _ _ step =>
      rw [step]
      exact typed.trans (and_iff_right before)

theorem countsWritten_press (steady : c.Steady) (written : c.terms.CountsWritten) (key : Key) :
    (c.press key).1.terms.CountsWritten ↔ ¬ c.terms.Overflows key := by
  cases key using Key.cases_control with
  | entered key plain =>
      rw [press_eq_enter c plain]
      exact steady.countsWritten_enter written plain
  | clear => exact iff_of_true Expression.countsWritten_nil (Expression.fits_of_other (by simp))
  | errorTimeout =>
      refine iff_of_true ?_ (Expression.fits_of_other (by simp))
      change c.recover.terms.CountsWritten
      rw [recover_frame]
      exact written
  | backspace =>
      refine iff_of_true ?_ (Expression.fits_of_other (by simp))
      change c.backspace.1.terms.CountsWritten
      rcases steady.backspace_cases with ⟨fault, step, _⟩ | ⟨edited, _, erased, _, step⟩
      · rw [step]
        exact written
      · rw [step, Calculator.reply, erased]
        exact Expression.countsWritten_eraseInput written

end Steady

/-- After any keys, be they answered or broken off, the snapshot can be taken exactly if every typed
count can be written. A key of an operand is answered exactly if besides it makes no count too long,
and a backspace exactly if none that it leaves is too long. From a calculator that can be shown only
a digit that makes a count too long leads to one that cannot. -/
theorem answered_iff_counts_written (settings : Settings) (keys : List Key) :
    let c := (fresh settings).pressing keys
    (c.snapshot?.isOk ↔ c.terms.CountsWritten) ∧
    (∀ key, key.isOperand →
      ((c.press key).2.isOk ↔ c.terms.CountsWritten ∧ ¬ c.terms.Overflows key)) ∧
    (c.backspace.2.isOk ↔ c.terms.eraseInput.CountsWritten) ∧
    (c.terms.CountsWritten →
      ∀ key, (c.press key).1.terms.CountsWritten ↔ ¬ c.terms.Overflows key) := by
  intro c
  obtain ⟨steady, supplied⟩ := steady_pressing settings keys
  refine ⟨steady.snapshot_isOk supplied, ?_, steady.backspace_isOk supplied,
    steady.countsWritten_press⟩
  intro key operand
  refine steady.press_isOk supplied ?_ ?_
  · cases key <;> first | rfl | cases operand
  · rintro rfl
    cases operand

theorem mode_nines (n : Nat) :
    (Expression.ofKeys (List.replicate n nine)).mode = .input ∨
      (Expression.ofKeys (List.replicate n nine)).mode = .imperial := by
  cases n with
  | zero => exact Or.inl rfl
  | succ n =>
      have pressed : Expression.mode ([] ++ Expression.ofKeys (List.replicate n nine ++ [nine])) =
          .imperial := Expression.mode_press rfl
      rw [List.replicate_succ']
      exact Or.inr pressed

theorem pressing_nines (settings : Settings) (n : Nat) :
    let c := (fresh settings).pressing (List.replicate n nine)
    c.carry = none ∧ c.log = List.replicate n nine := by
  induction n with
  | zero => exact ⟨rfl, rfl⟩
  | succ n ih =>
      have steady := (steady_pressing settings (List.replicate n nine)).1
      rw [List.replicate_succ', pressing_concat, press_eq_enter _ rfl]
      generalize (fresh settings).pressing (List.replicate n nine) = c at ih steady ⊢
      obtain ⟨empty, log⟩ := ih
      have carry : (c.readied nine).carry = none := by
        rcases c.readied_terms nine with ⟨same, _⟩ | ⟨_, _, _, dropped, _⟩
        · rw [same, empty]
        · exact dropped
      have shape : (c.readied nine).terms = Expression.ofKeys (List.replicate n nine) := by
        rw [terms, carry, readied_log, log]
        rfl
      cases c.enters nine with
      | refused error refused =>
          rw [refusal?, (steady.readied nine).2.1, shape] at refused
          rcases mode_nines n with mode | mode <;> rw [mode] at refused <;> cases refused
      | broken _ _ equals | failed _ equals | calculated _ _ _ equals => cases equals
      | taken _ _ step =>
          rw [step]
          refine ⟨carry, ?_⟩
          change (c.readied nine).log ++ [nine] = _
          rw [readied_log, log]

theorem countsWritten_nines (n : Nat) :
    (Expression.ofKeys (List.replicate n nine)).CountsWritten ↔ n ≤ maxNumeralDigits := by
  cases n with
  | zero => exact iff_of_true Expression.countsWritten_nil (Nat.zero_le _)
  | succ n =>
      have typed : Expression.ofKeys (List.replicate (n + 1) nine) =
          [.typedLength { feet := nines (n + 1) }] := by
        rw [Expression.ofKeys_eq_terms, ofKeys_nines]
        rfl
      rw [typed, Expression.countsWritten_length, ← written_nines]
      refine ⟨fun all => all .feet, fun feet pad => ?_⟩
      cases pad
      · exact feet
      · exact written_small (by decide)

theorem eraseInput_nines (n : Nat) :
    (Expression.ofKeys (List.replicate (n + 1) nine)).eraseInput =
      Expression.ofKeys (List.replicate n nine) := by
  have shorter : TypedLength.eraseInput { feet := nines (n + 1) } = { feet := nines n } := by
    have digit := nines_succ n
    have positive : (0 : Int) < nines (n + 1) := by omega
    have tenth : (nines (n + 1) : Int) / 10 = nines n := by omega
    rw [TypedLength.eraseInput, if_pos positive, tenth]
  rw [Expression.ofKeys_eq_terms, ofKeys_nines]
  change (Term.eraseInput (.typedLength { feet := nines (n + 1) })).toList = _
  rw [Term.eraseInput, shorter]
  cases n with
  | zero => rfl
  | succ n =>
      have digit := nines_succ n
      have typed : ¬ TypedLength.isBlank { feet := nines (n + 1) } := by
        rw [TypedLength.isBlank_iff]
        rintro ⟨zero, _⟩
        change (nines (n + 1) : Int) = 0 at zero
        omega
      rw [if_neg typed, Expression.ofKeys_eq_terms, ofKeys_nines]
      rfl

/-- One nine more than can be written is broken off and leaves a display that cannot be shown. After
two more a backspace is broken off as well. -/
theorem oversized_count_stays :
    let c (n : Nat) := (fresh {}).pressing (List.replicate n nine)
    ((c maxNumeralDigits).press nine).2.isOk = false ∧
      (c (maxNumeralDigits + 1)).snapshot?.isOk = false ∧
      (c (maxNumeralDigits + 2)).backspace.2.isOk = false := by
  intro c
  have shape (n : Nat) : (c n).terms = Expression.ofKeys (List.replicate n nine) := by
    obtain ⟨carry, log⟩ := pressing_nines {} n
    rw [terms, carry, log]
    rfl
  have steady (n : Nat) := steady_pressing {} (List.replicate n nine)
  have notEquals : nine ≠ .equals := by simp [nine]
  refine ⟨?_, ?_, ?_⟩
  · rw [← Bool.not_eq_true, (steady _).1.press_isOk (steady _).2 rfl notEquals, shape,
      overflows_nines]
    exact fun both => both.2 (Nat.le_refl _)
  · rw [← Bool.not_eq_true, (steady _).1.snapshot_isOk (steady _).2, shape, countsWritten_nines]
    omega
  · rw [← Bool.not_eq_true, (steady _).1.backspace_isOk (steady _).2, shape, eraseInput_nines,
      countsWritten_nines]
    omega

end Calculator

end FeetInches
