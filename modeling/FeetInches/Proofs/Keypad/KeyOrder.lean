import FeetInches.Proofs.Expression.Display

namespace FeetInches

open Decimal

/-! Logs with an operator between them -/

namespace Typing

def behind (front : Expression) (t : Typing) : Typing := ⟨front ++ t.complete, t.operand⟩

theorem terms_behind (front : Expression) (t : Typing) :
    (t.behind front).terms = front ++ t.terms :=
  List.append_assoc ..

theorem press_behind (front : Expression) (t : Typing) (key : Key) :
    (t.behind front).press key = (t.press key).behind front := by
  rcases t with ⟨complete, _ | ⟨l⟩ | ⟨text⟩⟩ <;> cases key <;>
    simp [press, onLength, onNumber, onOperator, behind, terms]

theorem foldl_press_behind (front : Expression) (t : Typing) (log : List Key) :
    log.foldl press (t.behind front) = (log.foldl press t).behind front := by
  induction log generalizing t with
  | nil => rfl
  | cons key log ih => rw [List.foldl_cons, press_behind, ih, List.foldl_cons]

end Typing

namespace Expression

variable {front back : List Key}

theorem ofKeys_append_of_ended (ended : ∀ key ∈ front.getLast?, key.isOperator)
    (back : List Key) : ofKeys (front ++ back) = ofKeys front ++ ofKeys back := by
  have idle : (Typing.ofKeys front).operand = none := by
    rcases List.eq_nil_or_concat' front with rfl | ⟨start, last, rfl⟩
    · rfl
    · rw [Typing.ofKeys_concat, Typing.press_operator _ (ended last (by simp))]
  have start : Typing.ofKeys front = Typing.behind (ofKeys front) {} := by
    rw [ofKeys_eq_terms]
    rcases known : Typing.ofKeys front with ⟨complete, operand⟩
    rw [known] at idle
    subst idle
    simp [Typing.behind, Typing.terms]
  have whole : ofKeys (front ++ back) = (back.foldl Typing.press (Typing.ofKeys front)).terms := by
    rw [ofKeys, List.foldl_append, Typing.ofKeys]
  rw [whole, start, Typing.foldl_press_behind, Typing.terms_behind]
  rfl

theorem ofKeys_append_of_begun (front : List Key) (begun : ∀ key ∈ back.head?, key.isOperator) :
    ofKeys (front ++ back) = ofKeys front ++ ofKeys back := by
  cases back with
  | nil => simp
  | cons key rest =>
      have operator : key.isOperator := begun key rfl
      have ended (start : List Key) : ∀ last ∈ (start ++ [key]).getLast?, last.isOperator := by
        simpa using operator
      calc
        ofKeys (front ++ key :: rest) = ofKeys (front ++ [key] ++ rest) := by simp
        _ = ofKeys front ++ [.operator key.text] ++ ofKeys rest := by
          rw [ofKeys_append_of_ended (ended front), ofKeys_operator front operator]
        _ = ofKeys front ++ ofKeys ([] ++ [key] ++ rest) := by
          rw [ofKeys_append_of_ended (ended []), ofKeys_operator [] operator, ofKeys_nil,
            List.nil_append, List.append_assoc]

end Expression

/-! The keys of a length -/

namespace Key

theorem cases_length {key : Key} (length : key.pad = .feet ∨ key.pad = .inches) :
    (∃ own d, key = .digit own d) ∨ ∃ own literal, key = .fraction own literal := by
  cases key with
  | digit own d => exact Or.inl ⟨own, d, rfl⟩
  | fraction own literal => exact Or.inr ⟨own, literal, rfl⟩
  | _ => rcases length with pad | pad <;> cases pad

theorem not_isControl_of_length {key : Key} (length : key.pad = .feet ∨ key.pad = .inches) :
    key.isControl = false := by
  rcases cases_length length with ⟨own, d, rfl⟩ | ⟨own, literal, rfl⟩ <;> rfl

def digitOn? (pad : LengthPad) : Key → Option Digit
  | .digit own d => if own = pad then some d else none
  | _ => none

end Key

def digitsOn (pad : LengthPad) (log : List Key) : List Digit := log.filterMap (Key.digitOn? pad)

theorem digitsOn_concat (pad : LengthPad) (log : List Key) (key : Key) :
    digitsOn pad (log ++ [key]) = digitsOn pad log ++ (key.digitOn? pad).toList := by
  rw [digitsOn, List.filterMap_append, digitsOn]
  cases typed : key.digitOn? pad <;> simp [typed]

def lastFraction? (log : List Key) : Option Fraction :=
  (log.filterMap fun key => key.fraction?.map Prod.snd).getLast?

namespace TypedLength

/-- The length with these digits and the last of these fractions. -/
def ofLog (log : List Key) : TypedLength :=
  let fraction := (lastFraction? log).getD ⟨0, defaultDenominator⟩
  { feet := ofDigits (digitsOn .feet log)
    inches := ofDigits (digitsOn .inches log)
    numerator := fraction.numerator
    denominator := fraction.denominator }

variable {log : List Key}

theorem ofLog_digit (log : List Key) (pad : LengthPad) (d : Digit) :
    ofLog (log ++ [.digit pad d]) = (ofLog log).typeDigit pad d := by
  cases pad <;>
    simp [ofLog, digitsOn_concat, lastFraction?, Key.digitOn?, Key.fraction?, typeDigit,
      ofDigits_concat]

theorem ofLog_fraction (log : List Key) (pad : LengthPad) (literal : FractionKey) :
    ofLog (log ++ [.fraction pad literal]) = (ofLog log).typeFraction literal.value := by
  simp [ofLog, digitsOn_concat, lastFraction?, Key.digitOn?, Key.fraction?, typeFraction]

theorem ofLog_congr {first second : List Key}
    (digits : ∀ pad, digitsOn pad first = digitsOn pad second)
    (fraction : lastFraction? first = lastFraction? second) : ofLog first = ofLog second := by
  rw [ofLog, ofLog, digits, digits, fraction]

end TypedLength

namespace Expression

variable {log : List Key}

/-- Keys of the pads for lengths type one length. -/
theorem ofKeys_eq_ofLog (typed : log ≠ [])
    (lengths : ∀ key ∈ log, key.pad = .feet ∨ key.pad = .inches) :
    ofKeys log = [.typedLength (.ofLog log)] := by
  induction log using List.reverseRecOn with
  | nil => exact absurd rfl typed
  | append_singleton log key ih =>
      have before : beforeLength (ofKeys log) = [] ∧ openLength (ofKeys log) = .ofLog log := by
        rcases eq_or_ne log [] with rfl | more
        · exact ⟨rfl, rfl⟩
        · rw [ih more fun key member => lengths key (List.mem_append_left _ member)]
          exact ⟨rfl, rfl⟩
      rcases Key.cases_length (lengths key (by simp)) with ⟨own, d, rfl⟩ | ⟨own, literal, rfl⟩
      · rw [ofKeys_lengthKey log fun t => rfl, before.1, before.2, TypedLength.ofLog_digit]
        rfl
      · rw [ofKeys_lengthKey log fun t => rfl, before.1, before.2, TypedLength.ofLog_fraction]
        rfl

/-- Logs of the pads for lengths with the same digits on each pad and the same last fraction type
the same length, and between operators either of them can take the place of the other. -/
theorem ofKeys_any_order {first second : List Key} (typed : first ≠ []) (typedToo : second ≠ [])
    (lengths : ∀ key ∈ first, key.pad = .feet ∨ key.pad = .inches)
    (lengthsToo : ∀ key ∈ second, key.pad = .feet ∨ key.pad = .inches)
    (digits : ∀ pad, digitsOn pad first = digitsOn pad second)
    (fraction : lastFraction? first = lastFraction? second) :
    ofKeys first = [.typedLength (.ofLog first)] ∧
      ofKeys second = [.typedLength (.ofLog first)] ∧
      ∀ before after : List Key, (∀ key ∈ before.getLast?, key.isOperator) →
        (∀ key ∈ after.head?, key.isOperator) →
        ofKeys (before ++ first ++ after) = ofKeys (before ++ second ++ after) := by
  have one := ofKeys_eq_ofLog typed lengths
  have other := ofKeys_eq_ofLog typedToo lengthsToo
  rw [← TypedLength.ofLog_congr digits fraction] at other
  refine ⟨one, other, fun before after ended begun => ?_⟩
  have alone (operand : List Key) :
      ofKeys (before ++ operand ++ after) = ofKeys before ++ ofKeys operand ++ ofKeys after := by
    rw [ofKeys_append_of_begun _ begun, ofKeys_append_of_ended ended]
  rw [alone, alone, one, other]

/-- In `2 x 15ft 31 1/4in + 1in` the keys of the first length are mixed, with an eighth that is
overwritten. -/
theorem mixed_keys_between_operators :
    let eighth : FractionKey := ⟨"1/8", ⟨1, 8⟩, by decide +kernel⟩
    let quarter : FractionKey := ⟨"1/4", ⟨1, 4⟩, by decide +kernel⟩
    let mixed : List Key := [.digit .inches 3, .digit .feet 1, .fraction .feet eighth,
      .digit .feet 5, .fraction .feet quarter, .digit .inches 1]
    let sorted : List Key := [.digit .feet 1, .digit .feet 5, .digit .inches 3, .digit .inches 1,
      .fraction .inches quarter]
    (∀ pad, digitsOn pad mixed = digitsOn pad sorted) ∧
      lastFraction? mixed = lastFraction? sorted ∧
      ofKeys mixed = [.typedLength ⟨15, 31, 1, 4⟩] ∧ ofKeys sorted = [.typedLength ⟨15, 31, 1, 4⟩] ∧
      ofKeys ([.scalarDigit 2, .operator .times] ++ mixed ++ [.operator .plus, .digit .inches 1]) =
        ofKeys ([.scalarDigit 2, .operator .times] ++ sorted ++
          [.operator .plus, .digit .inches 1]) := by
  intro eighth quarter mixed sorted
  have digits : ∀ pad, digitsOn pad mixed = digitsOn pad sorted := by
    intro pad
    cases pad <;> rfl
  have typed : mixed ≠ [] ∧ sorted ≠ [] := ⟨List.cons_ne_nil _ _, List.cons_ne_nil _ _⟩
  obtain ⟨one, other, same⟩ :=
    ofKeys_any_order typed.1 typed.2 (by decide) (by decide) digits rfl
  exact ⟨digits, rfl, one, other, same _ _ (by decide) (by decide)⟩

end Expression

end FeetInches
