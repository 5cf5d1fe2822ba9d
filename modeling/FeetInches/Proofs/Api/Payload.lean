import FeetInches.Api.Framework
import FeetInches.Proofs.Calculator.Answering
import FeetInches.Proofs.Key.OfText

namespace FeetInches

open Calculator

/-! Faults that are the client's -/

theorem blamesValue_entry (pad : Json) (text : Text) :
    BlamesValue (Key.ofEntry pad (.text text)) := by
  refine settles_bind (Q := fun _ => True) ?_ fun pad _ => blamesValue_key pad text
  unfold Pad.ofEntry
  split
  · split
    · trivial
    · rfl
  · rfl

namespace Calculator

variable {c : Calculator}

/-- A count on the display or on a length pad is too long to be written. -/
def HasLongCount (c : Calculator) : Prop :=
  ¬ c.terms.CountsWritten ∨ ¬ Written c.keypad.feet.whole ∨ ¬ Written c.keypad.inches.whole

theorem Steady.writtenSnapshot_isOk (steady : c.Steady) (supplied : c.Supplied) :
    c.writtenSnapshot?.isOk ↔ ¬ c.HasLongCount := by
  have feet := (writtenInt_writes c.keypad.feet.whole).isOk
  have inches := (writtenInt_writes c.keypad.inches.whole).isOk
  unfold writtenSnapshot? HasLongCount
  rw [← steady.snapshot_isOk supplied, ← feet, ← inches]
  cases c.snapshot? <;> cases writtenInt? c.keypad.feet.whole <;>
    cases writtenInt? c.keypad.inches.whole <;>
    simp [Bind.bind, Except.bind, pure, Except.pure, Except.isOk, Except.toBool]

end Calculator

namespace Api

variable {c : Calculator}

/-! What a payload asks for -/

def action? (data : Json) : Option Action :=
  ((data.field? "action").bind Json.word?).bind Action.ofWord?

def key? (data : Json) : Option Key :=
  let fieldOr (name : String) := (data.field? name).getD (.text [])
  match action? data with
  | some .token => (Key.ofEntry (fieldOr "pad") (.text (fieldOr "key").plain)).toOption
  | some .equals => some .equals
  | some .backspace => some (.control .backspace)
  | some .clear => some (.control .clear)
  | some .denominator | none => none

/-- The denominator that a payload asks for, if it is a known one. -/
def denominator? (data : Json) : Option Int :=
  match action? data with
  | some .denominator =>
    (integer? ((data.field? "value").getD .null)).toOption.filter (· ∈ padDenominators)
  | _ => none

def AsksStep (data : Json) : Prop := (key? data).isSome ∨ (denominator? data).isSome

def isInfinite : Json → Bool
  | .real (.infinite _) => true
  | _ => false

def AsksInfinity (data : Json) : Prop :=
  action? data = some .denominator ∧ (data.field? "value").any isInfinite

instance (data : Json) : Decidable (AsksInfinity data) :=
  inferInstanceAs (Decidable (_ ∧ _))

theorem asksInfinity_iff {data : Json} (named : action? data = some .denominator) :
    AsksInfinity data ↔ isInfinite ((data.field? "value").getD .null) := by
  unfold AsksInfinity
  rw [and_iff_right named]
  cases data.field? "value" with
  | none => exact Iff.rfl
  | some value => simp

theorem denominator?_eq {data : Json} (named : action? data = some .denominator) :
    denominator? data = (integer? ((data.field? "value").getD .null)).toOption.filter
      (· ∈ padDenominators) := by
  simp only [denominator?, named]

/-- Only an infinite number is neither an integer nor the client's fault. -/
theorem integer?_fault {value : Json} {fault : Fault} (failed : integer? value = .error fault) :
    (fault.nature = .badValue ∨ fault.nature = .wrongType) ∧ isInfinite value = false ∨
      fault = .range .infinity ∧ isInfinite value := by
  cases value with
  | bool value => cases failed
  | int value => cases failed
  | real value =>
      cases value with
      | nan =>
          cases failed
          exact Or.inl ⟨Or.inl rfl, rfl⟩
      | infinite negative =>
          cases failed
          exact Or.inr ⟨rfl, rfl⟩
      | finite negative mantissa exponent canonical => cases failed
  | text value =>
      have blames := blamesValue_readInteger value
      change Numeral.readInteger value = .error fault at failed
      rw [failed] at blames
      exact Or.inl ⟨Or.inl blames, rfl⟩
  | null | list items | object fields =>
      cases failed
      exact Or.inl ⟨Or.inr rfl, rfl⟩

theorem isInfinite_of_integer? {value : Json} {n : Int} (read : integer? value = .ok n) :
    isInfinite value = false := by
  unfold isInfinite
  split
  · cases read
  · rfl

/-! Statuses -/

def status : Except Fault Response → Nat
  | .ok response => response.status
  | .error _ => 500

theorem snapshot_status (steady : c.Steady) (supplied : c.Supplied) (accepted : Bool) :
    status (snapshot c accepted) = 200 ∧ ¬ c.HasLongCount ∨
      status (snapshot c accepted) = 500 ∧ c.HasLongCount := by
  have written := steady.writtenSnapshot_isOk supplied
  unfold snapshot
  cases shown : c.writtenSnapshot? with
  | ok fields =>
      rw [shown] at written
      exact Or.inl ⟨rfl, written.mp rfl⟩
  | error fault =>
      rw [shown] at written
      exact Or.inr ⟨rfl, not_not.mp (mt written.mpr Bool.false_ne_true)⟩

/-- The answer to a step: its state, and whether it was not broken off and the state can be
written. -/
def Reports {α : Type} (step : Step α) (answer : Step Response) : Prop :=
  answer.1 = step.1 ∧
    (status answer.2 = 200 ∧ step.2.isOk ∧ ¬ step.1.HasLongCount ∨
      status answer.2 = 500 ∧ ¬ (step.2.isOk ∧ ¬ step.1.HasLongCount))

theorem afterStep_reports {α : Type} {step : Step α} (steady : step.1.Steady)
    (supplied : step.1.Supplied) (accepted : α → Bool) :
    Reports step (afterStep accepted step) := by
  rcases step with ⟨next, fault | reply⟩
  · exact ⟨rfl, Or.inr ⟨rfl, fun both => Bool.false_ne_true both.1⟩⟩
  · refine ⟨rfl, ?_⟩
    rcases snapshot_status steady supplied (accepted reply) with ⟨status, short⟩ | ⟨status, long⟩
    · exact Or.inl ⟨status, rfl, short⟩
    · exact Or.inr ⟨status, fun both => both.2 long⟩

/-- What comes of a payload: it is refused, has a key pressed or a known denominator set, or makes
an infinite number an integer. -/
inductive Handled (c : Calculator) (data : Json) (answer : Step Response) : Prop where
  | refused : key? data = none → denominator? data = none → ¬ AsksInfinity data → answer.1 = c →
      status answer.2 = 400 → Handled c data answer
  | pressed (key : Key) : key? data = some key → ¬ AsksInfinity data →
      Reports (c.press key) answer → Handled c data answer
  | turned (denominator : Int) : key? data = none → denominator? data = some denominator →
      ¬ AsksInfinity data → (c.setDenominator denominator).2.isOk →
      Reports (c.setDenominator denominator) answer → Handled c data answer
  | infinite : AsksInfinity data → answer = (c, .error (.range .infinity)) → Handled c data answer

theorem refused_of_nature {fault : Fault}
    (nature : fault.nature = .badValue ∨ fault.nature = .wrongType) :
    status (denominatorRefusal fault) = 400 := by
  unfold denominatorRefusal
  rcases nature with nature | nature <;> rw [nature] <;> rfl

theorem setDenominator_reports (reached : c.Reached) {denominator : Int}
    (known : denominator ∈ padDenominators) :
    ∃ next reply, c.setDenominator denominator = (next, .ok reply) ∧
      Reports (c.setDenominator denominator) (next, snapshot next true) := by
  obtain ⟨next, reply, done⟩ := setDenominator_ok reached known
  have acted : c.act (.setDenominator denominator) = (next, .ok (.reply reply)) :=
    Step.answering_eq_ok.mpr ⟨reply, done, rfl⟩
  have admits : c.Admits (.setDenominator denominator) := trivial
  obtain ⟨steady, supplied⟩ := steady_of_reached (reached.act admits acted)
  refine ⟨next, reply, done, ?_⟩
  rw [done]
  exact afterStep_reports steady supplied fun _ => true

theorem handled_setDenominator (reached : c.Reached) {data : Json}
    (named : action? data = some .denominator) :
    Handled c data (setDenominator c ((data.field? "value").getD .null)) := by
  have noKey : key? data = none := by simp only [key?, named]
  have infinity := asksInfinity_iff named
  have asked := denominator?_eq named
  generalize (data.field? "value").getD .null = value at infinity asked ⊢
  unfold setDenominator
  cases read : integer? value with
  | error fault =>
      rw [read] at asked
      rcases integer?_fault read with ⟨nature, finite⟩ | ⟨rfl, infinite⟩
      · refine .refused noKey asked ?_ rfl (refused_of_nature nature)
        rw [infinity, finite]
        exact Bool.false_ne_true
      · exact .infinite (infinity.mpr infinite) rfl
  | ok denominator =>
      rw [read] at asked
      have finite : ¬ AsksInfinity data := by
        rw [infinity, isInfinite_of_integer? read]
        exact Bool.false_ne_true
      by_cases known : denominator ∈ padDenominators
      · obtain ⟨next, reply, done, reports⟩ := setDenominator_reports reached known
        have asked : denominator? data = some denominator :=
          asked.trans (Option.filter_some_pos (decide_eq_true known))
        have answered : (c.setDenominator denominator).2.isOk := by
          rw [done]
          rfl
        simp only [done]
        exact .turned denominator noKey asked finite answered reports
      · have stopped : c.setDenominator denominator = (c, .error .denominatorChoice) := by
          rw [setDenominator_eq, if_pos known]
        have asked : denominator? data = none :=
          asked.trans (Option.filter_some_neg (by simpa using known))
        simp only [stopped]
        exact .refused noKey asked finite rfl rfl

theorem handled_press (reached : c.Reached) {data : Json} {key : Key}
    (named : key? data = some key) {α : Type} (step : Step α)
    (state : step.1 = (c.press key).1) (answered : step.2.isOk = (c.press key).2.isOk)
    (accepted : α → Bool) : Handled c data (afterStep accepted step) := by
  obtain ⟨steady, supplied⟩ := steady_of_reached reached
  have next := steady.press key
  have nextSupplied := supplied.press steady key
  rw [← state] at next nextSupplied
  have reports := afterStep_reports next nextSupplied accepted
  refine .pressed key named ?_ ?_
  · rintro ⟨denominator, _⟩
    unfold key? at named
    rw [denominator] at named
    cases named
  · unfold Reports at reports ⊢
    rwa [state, answered] at reports

theorem handled_pressKey (reached : c.Reached) {data : Json} (named : action? data = some .token) :
    Handled c data
      (pressKey c ((data.field? "pad").getD (.text [])) ((data.field? "key").getD (.text []))) := by
  have blames := blamesValue_entry ((data.field? "pad").getD (.text []))
    ((data.field? "key").getD (.text [])).plain
  have asked : key? data = (Key.ofEntry ((data.field? "pad").getD (.text []))
      (.text ((data.field? "key").getD (.text [])).plain)).toOption := by
    simp only [key?, named]
  unfold pressKey
  generalize Key.ofEntry _ _ = entry at asked blames ⊢
  cases entry with
  | error fault =>
      have nature : fault.nature = .badValue := blames
      have noDenominator : denominator? data = none := by simp only [denominator?, named]
      have finite : ¬ AsksInfinity data := by simp [AsksInfinity, named]
      refine .refused asked noDenominator finite rfl ?_
      simp only [nature, if_true]
      rfl
  | ok key => exact handled_press reached asked (c.press key) rfl rfl _

theorem handled_act (reached : c.Reached) (data : Json) : Handled c data (act c data) := by
  have named : ((data.field? "action").getD (.text [])).word?.bind Action.ofWord? =
      action? data := by
    unfold action?
    cases data.field? "action" <;> rfl
  unfold act
  simp only [named]
  cases action : action? data with
  | none =>
      refine .refused ?_ ?_ ?_ rfl rfl <;>
        simp [key?, denominator?, AsksInfinity, action]
  | some word =>
      cases word with
      | token => exact handled_pressKey reached action
      | equals =>
          have asked : key? data = some .equals := by simp only [key?, action]
          exact handled_press reached asked c.pressEquals c.pressEquals_state c.pressEquals_isOk _
      | backspace =>
          have asked : key? data = some (.control .backspace) := by simp only [key?, action]
          exact handled_press reached asked c.backspace rfl rfl _
      | clear =>
          have asked : key? data = some (.control .clear) := by simp only [key?, action]
          exact handled_press reached asked c.clear rfl rfl _
      | denominator => exact handled_setDenominator reached action

theorem handled_calculate (reached : c.Reached) (data : Json) :
    Handled c data (calculate c (some data)) := by
  have refused (noFields : ∀ name, data.field? name = none) (message : Text) :
      Handled c data (c, .ok (refusal message)) := by
    have noAction : action? data = none := by simp [action?, noFields]
    refine .refused ?_ ?_ ?_ rfl rfl <;>
      simp [key?, denominator?, AsksInfinity, noAction]
  unfold calculate
  simp only
  split
  · rename_i empty
    refine refused (fun name => ?_) _
    cases data with
    | object fields =>
        rw [List.isEmpty_iff.mp empty]
        rfl
    | _ => rfl
  · split
    · exact handled_act reached _
    · rename_i other
      refine refused (fun name => ?_) _
      cases data with
      | object fields => exact absurd rfl (other fields)
      | _ => rfl

end Api

end FeetInches
