import FeetInches.Proofs.Keypad.Tracking
/-!
Turning the inches pad to another denominator takes its fraction off. Nothing else on the keypads
depends on that fraction, and the next fraction pressed on the pad takes its place: so keypads that
were turned stay like those that were not, up to the fraction on the inches pad.
-/

namespace FeetInches

def PadValue.fraction (p : PadValue) : Fraction := ⟨p.numerator, p.denominator⟩

namespace Keypad

def turnedTo (k : Keypad) (denominator : Int) : Keypad :=
  { k with
    inches := { k.inches with numerator := 0, denominator := denominator }
    denominator := denominator }

theorem turnedTo_turnedTo (k : Keypad) (d e : Int) :
    (k.turnedTo d).turnedTo e = k.turnedTo e := rfl

theorem turnedTo_eq_self {k : Keypad} {d : Int} (denominator : k.denominator = d)
    (blank : k.inches.fraction = ⟨0, d⟩) : k.turnedTo d = k := by
  rcases k with ⟨_, _, ⟨_, numerator, _⟩, _, _, _⟩
  cases denominator
  cases blank
  rfl

theorem press_turnedTo (k : Keypad) (d : Int) (key : Key) :
    (k.turnedTo d).press key = (k.press key).turnedTo d ∨
      (k.turnedTo d).press key = { k.press key with denominator := d } := by
  cases key with
  | digit pad digit =>
      left
      cases pad <;> cases mode : k.mode <;>
        simp [press, typeLength, onLengthPad, turnedTo, mode, PadValue.typeDigit]
  | fraction pad literal =>
      cases pad with
      | feet =>
          left
          cases mode : k.mode <;> simp [press, typeLength, onLengthPad, turnedTo, mode]
      | inches =>
          cases mode : k.mode with
          | scalar => exact Or.inl (by simp [press, typeLength, turnedTo, mode])
          | _ =>
              right
              simp [press, typeLength, onLengthPad, turnedTo, mode, PadValue.typeFraction]
  | scalarDigit digit =>
      left
      cases mode : k.mode <;> simp [press, typeScalar, turnedTo, mode]
  | point =>
      left
      cases mode : k.mode <;> simp [press, typeScalar, turnedTo, mode]
  | operator op =>
      left
      cases mode : k.mode <;> simp [press, pressOperator, turnedTo, mode]
  | equals =>
      left
      cases mode : k.mode <;> simp [press, pressOperator, turnedTo, mode]
  | control command =>
      left
      cases command with
      | clear => rfl
      | backspace =>
          rcases active : k.activePad with _ | ⟨_ | _⟩ | _ <;>
            simp [press, control, eraseDigit, onLengthPad, turnedTo, active, PadValue.eraseDigit]
      | errorTimeout =>
          by_cases error : k.mode = .error <;> simp [press, control, turnedTo, error]

theorem turnedTo_press (k : Keypad) (d : Int) (key : Key) :
    ((k.turnedTo d).press key).turnedTo d = (k.press key).turnedTo d := by
  rcases press_turnedTo k d key with turned | set
  · rw [turned, turnedTo_turnedTo]
  · rw [set]
    rfl

theorem turnedTo_replay (k : Keypad) (d : Int) (log : List Key) :
    ((k.turnedTo d).replay log).turnedTo d = (k.replay log).turnedTo d := by
  induction log using List.reverseRecOn with
  | nil => rfl
  | append_singleton log key ih =>
      rw [replay_concat, replay_concat, ← turnedTo_press, ih, turnedTo_press]

end Keypad

def Key.inchesFraction? : Key → Option Fraction
  | .fraction .inches literal => some literal.value
  | _ => none

def inchesFraction (denominator : Int) (log : List Key) : Fraction :=
  (log.filterMap Key.inchesFraction?).getLast?.getD ⟨0, denominator⟩

theorem inchesFraction_concat (denominator : Int) (log : List Key) (key : Key) :
    inchesFraction denominator (log ++ [key]) =
      key.inchesFraction?.getD (inchesFraction denominator log) := by
  unfold inchesFraction
  cases shown : key.inchesFraction? with
  | none => simp [List.filterMap_append, shown]
  | some f => simp [List.filterMap_append, shown]

theorem inchesFraction_eq_zero_iff (denominator : Int) (log : List Key) :
    (inchesFraction denominator log).numerator = 0 ↔ ∀ key ∈ log, key.inchesFraction? = none := by
  induction log using List.reverseRecOn with
  | nil => simp [inchesFraction]
  | append_singleton log key ih =>
      rw [inchesFraction_concat]
      cases shown : key.inchesFraction? with
      | none => simp [shown, ih, or_imp, forall_and]
      | some f =>
          have positive : 0 < f.numerator := by
            cases key with
            | fraction pad literal =>
                cases pad with
                | feet => cases shown
                | inches =>
                    cases shown
                    exact (Fraction.proper_of_read literal.reads).2.1
            | _ => cases shown
          simp only [Option.getD_some]
          constructor
          · intro zero
            omega
          · intro absent
            rw [absent key (by simp)] at shown
            cases shown

theorem inchesFraction_of_none {log : List Key} (absent : ∀ key ∈ log, key.inchesFraction? = none)
    (denominator : Int) : inchesFraction denominator log = ⟨0, denominator⟩ := by
  rw [inchesFraction, List.filterMap_eq_nil_iff.mpr absent]
  rfl

theorem Keypad.press_inchesFraction {k : Keypad} {key : Key} (plain : key.isControl = false)
    (turn : key.HasTurn k.mode) :
    (k.press key).inches.fraction = key.inchesFraction?.getD k.inches.fraction := by
  cases key with
  | digit pad d | fraction pad literal =>
      rw [press, typeLength_of_ready (turn.ready rfl)]
      cases pad <;> rfl
  | scalarDigit d | point =>
      rw [press, typeScalar_of_ready (turn.ready rfl)]
      rfl
  | operator op | equals =>
      rw [press, pressOperator_frame]
      rfl
  | control command => cases plain

/-- After a log that alternates the inches pad shows the last fraction pressed on it. -/
theorem Keypad.replay_inchesFraction {front : Expression} {base : Keypad} {log : List Key}
    {denominator : Int} (blank : base.inches.fraction = ⟨0, denominator⟩)
    (start : base.mode = front.mode) (plain : ∀ key ∈ log, key.isControl = false)
    (alternates : (front ++ Expression.ofKeys log).Alternates) :
    (base.replay log).inches.fraction = inchesFraction denominator log := by
  refine replay_induction
    (motive := fun log k => k.inches.fraction = inchesFraction denominator log)
    start plain alternates blank ?_
  intro before k key plain turn shown
  rw [press_inchesFraction plain turn, shown, inchesFraction_concat]

end FeetInches
