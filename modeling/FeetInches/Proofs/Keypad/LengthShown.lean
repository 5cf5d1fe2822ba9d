import FeetInches.Proofs.Evaluation.ExactSum
import FeetInches.Proofs.Keypad.Accumulation
import FeetInches.Proofs.Keypad.KeyOrder
import FeetInches.Proofs.Keypad.Turning
import Mathlib.Tactic.Linarith

namespace FeetInches

def Fraction.value (f : Fraction) : ℚ := f.numerator / f.denominator

theorem Fraction.Proper.value_pos {f : Fraction} (proper : f.Proper) : 0 < f.value := by
  obtain ⟨_, positive, below⟩ := proper
  have above : 0 < f.denominator := positive.trans below
  exact div_pos (by exact_mod_cast positive) (by exact_mod_cast above)

def TypedLength.fraction (l : TypedLength) : Fraction := ⟨l.numerator, l.denominator⟩

def Keypad.lengthShown (k : Keypad) : ℚ :=
  12 * (k.feet.whole + k.feet.fraction.value) + (k.inches.whole + k.inches.fraction.value)

/-- The fractions on the pads, and the one of the length being typed, after a log of keys of the
pads for lengths. The last fraction pressed is on one of the pads. -/
structure Keypad.HasFractions (k : Keypad) (l : TypedLength) (log : List Key) : Prop where
  feet : k.feet.fraction.value = 0 ∧ (∀ literal, .fraction .feet literal ∉ log) ∨
    0 < k.feet.fraction.value ∧ ∃ literal, .fraction .feet literal ∈ log
  inches : 0 ≤ k.inches.fraction.value
  last : l.fraction.value = k.inches.fraction.value ∨
    l.fraction.value = k.feet.fraction.value ∧ 0 < k.feet.fraction.value

namespace Keypad

variable {k : Keypad} {key : Key} {log : List Key}

theorem HasFractions.press (fractions : k.HasFractions (Expression.ofKeys log).openLength log)
    (length : key.pad = .feet ∨ key.pad = .inches) (turn : key.HasTurn k.mode) :
    (k.press key).HasFractions (Expression.ofKeys (log ++ [key])).openLength (log ++ [key]) := by
  obtain ⟨feet, inches, last⟩ := fractions
  rcases Key.cases_length length with ⟨own, d, rfl⟩ | ⟨own, literal, rfl⟩
  · have pads : (k.press (.digit own d)).feet.fraction = k.feet.fraction ∧
        (k.press (.digit own d)).inches.fraction = k.inches.fraction := by
      rw [Keypad.press, typeLength_of_ready (turn.ready rfl)]
      cases own <;> exact ⟨rfl, rfl⟩
    have kept (l : TypedLength) : (l.typeDigit own d).fraction = l.fraction := by
      cases own <;> rfl
    rw [Expression.ofKeys_lengthKey log fun t => rfl, Expression.openLength_concat]
    exact ⟨by simpa [pads.1] using feet, by rwa [pads.2], by rwa [kept, pads.1, pads.2]⟩
  · have positive := (Fraction.proper_of_read literal.reads).value_pos
    rw [Expression.ofKeys_lengthKey log fun t => rfl, Expression.openLength_concat]
    rw [Keypad.press, typeLength_of_ready (turn.ready rfl)]
    cases own with
    | feet => exact ⟨Or.inr ⟨positive, literal, by simp⟩, inches, Or.inr ⟨rfl, positive⟩⟩
    | inches => exact ⟨by simpa [onLengthPad] using feet, positive.le, Or.inl rfl⟩

theorem replay_hasFractions (denominator : Int)
    (lengths : ∀ key ∈ log, key.pad = .feet ∨ key.pad = .inches)
    (alternates : Expression.Alternates ([] ++ Expression.ofKeys log)) :
    ((initial denominator).replay log).HasFractions (Expression.ofKeys log).openLength log := by
  have plain : ∀ key ∈ log, key.isControl = false := fun key member =>
    Key.not_isControl_of_length (lengths key member)
  refine replay_induction (motive := fun log k =>
    (∀ key ∈ log, key.pad = .feet ∨ key.pad = .inches) →
      k.HasFractions (Expression.ofKeys log).openLength log) rfl plain alternates ?_ ?_ lengths
  · intro _
    have zero (below : Int) : Fraction.value ⟨0, below⟩ = 0 := by simp [Fraction.value]
    exact ⟨Or.inl ⟨zero _, by simp⟩, (zero _).ge, Or.inl ((zero _).trans (zero _).symm)⟩
  · intro before k key _ turn fractions lengths
    refine (fractions fun key member => ?_).press (lengths key (by simp)) turn
    exact lengths key (List.mem_append_left _ member)

/-- The typed length is no more than the pads show, and just that if there is no fraction on the
feet pad. -/
theorem HasFractions.value_iff {l : TypedLength} (fractions : k.HasFractions l log)
    (counts : ∀ pad, l.count pad = (k.lengthPad pad).whole) :
    l.value ≤ k.lengthShown ∧
      (l.value = k.lengthShown ↔ ∀ literal, .fraction .feet literal ∉ log) := by
  obtain ⟨feet, inches, last⟩ := fractions
  have more : k.lengthShown - l.value =
      12 * k.feet.fraction.value + k.inches.fraction.value - l.fraction.value := by
    have feetCount : l.feet = k.feet.whole := counts .feet
    have inchesCount : l.inches = k.inches.whole := counts .inches
    rw [lengthShown, TypedLength.value, feetCount, inchesCount, TypedLength.fraction,
      Fraction.value, Fraction.value, Fraction.value]
    ring
  rcases feet with ⟨zero, absent⟩ | ⟨positive, present⟩
  · have same : l.fraction.value = k.inches.fraction.value :=
      last.resolve_right fun onFeet => absurd zero onFeet.2.ne'
    have equal : l.value = k.lengthShown := by linarith
    exact ⟨equal.le, fun _ => absent, fun _ => equal⟩
  · -- the feet pad counts its fraction twelve times, the typed length once or not at all
    have less : l.value < k.lengthShown := by
      rcases last with onInches | ⟨onFeet, _⟩ <;> linarith
    obtain ⟨literal, pressed⟩ := present
    exact ⟨less.le, fun equal => absurd equal less.ne, fun absent => absurd pressed (absent literal)⟩

/-- Keys of the pads for lengths type one length, with the counts that the pads show. It is shown
as it is if no fraction was pressed on the feet pad, and as a greater one else. -/
theorem typed_length_shown_iff (log : List Key) (typed : log ≠ [])
    (lengths : ∀ key ∈ log, key.pad = .feet ∨ key.pad = .inches) (denominator : Int) :
    ∃ l, Expression.ofKeys log = [.typedLength l] ∧
      (∀ pad, l.count pad = (((initial denominator).replay log).lengthPad pad).whole) ∧
      l.value ≤ ((initial denominator).replay log).lengthShown ∧
      (l.value = ((initial denominator).replay log).lengthShown ↔
        ∀ literal, .fraction .feet literal ∉ log) := by
  obtain ⟨l, single⟩ : ∃ l, Expression.ofKeys log = [.typedLength l] :=
    ⟨_, Expression.ofKeys_eq_ofLog typed lengths⟩
  have plain : ∀ key ∈ log, key.isControl = false := fun key member =>
    Key.not_isControl_of_length (lengths key member)
  have alternates : Expression.Alternates ([] ++ Expression.ofKeys log) := by
    rw [single, List.nil_append, Expression.alternates_singleton]
    rfl
  have counts : ∀ pad, l.count pad = (((initial denominator).replay log).lengthPad pad).whole := by
    intro pad
    have shows := (replay_shows (initial denominator) (fun pad => by cases pad <;> rfl) rfl rfl
      plain alternates).1 pad
    rw [single, ← List.nil_append [_], Expression.showsCount_concat] at shows
    exact (shows.2.mpr (by simp [Expression.Unused])).symm
  have fractions := replay_hasFractions denominator lengths alternates
  rw [single] at fractions
  exact ⟨l, single, counts, fractions.value_iff counts⟩

def half : FractionKey := ⟨"1/2", ⟨1, 2⟩, by decide +kernel⟩

/-- With a half on the inches pad the pads show what is typed. -/
theorem half_inch_shown :
    ∃ l, Expression.ofKeys [.digit .feet 5, .fraction .inches half, .digit .inches 3] =
        [.typedLength l] ∧
      l.value = ((initial 8).replay
        [.digit .feet 5, .fraction .inches half, .digit .inches 3]).lengthShown := by
  obtain ⟨l, single, _, _, shown⟩ := typed_length_shown_iff
    [.digit .feet 5, .fraction .inches half, .digit .inches 3] (by simp) (by decide) 8
  exact ⟨l, single, shown.mpr (by simp)⟩

/-- With a half on the feet pad the pads show half a foot, and half an inch is typed. -/
theorem half_foot_shown :
    Expression.ofKeys [.fraction .feet half] =
        [.typedLength { numerator := 1, denominator := 2 }] ∧
      TypedLength.value { numerator := 1, denominator := 2 } = 1 / 2 ∧
      ((initial 16).replay [.fraction .feet half]).lengthShown = 6 := by
  have pads : ((initial 16).replay [.fraction .feet half]).feet = ⟨0, 1, 2⟩ ∧
      ((initial 16).replay [.fraction .feet half]).inches = ⟨0, 0, 16⟩ := by decide
  refine ⟨by decide, by simp [TypedLength.value], ?_⟩
  rw [lengthShown, pads.1, pads.2]
  norm_num [PadValue.fraction, Fraction.value]

end Keypad

end FeetInches
