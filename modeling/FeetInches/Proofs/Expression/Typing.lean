import FeetInches.Proofs.Expression.Alternation
import FeetInches.Proofs.Expression.Tidy

namespace FeetInches

def Key.entryMode : Key → Mode
  | .digit .. | .fraction .. => .imperial
  | .scalarDigit _ | .point => .scalar
  | .operator _ | .equals | .control _ => .input

def Key.isControl : Key → Bool
  | .control _ => true
  | _ => false

theorem Key.cases_kind (key : Key) :
    key.isOperand = true ∨ key.isOperator = true ∨ key.isControl = true := by
  cases key <;> simp [isOperand, isOperator, isControl]

theorem Key.cases_control {motive : Key → Prop} (key : Key)
    (entered : ∀ key, key.isControl = false → motive key) (clear : motive (.control .clear))
    (backspace : motive (.control .backspace)) (errorTimeout : motive (.control .errorTimeout)) :
    motive key := by
  cases plain : key.isControl with
  | false => exact entered key plain
  | true =>
      cases key with
      | control command =>
          cases command with
          | clear => exact clear
          | backspace => exact backspace
          | errorTimeout => exact errorTimeout
      | _ => cases plain

theorem Key.not_isOperator_of_isOperand {key : Key} (operand : key.isOperand) :
    key.isOperator = false := by
  cases key <;> first | rfl | cases operand

theorem Key.entryMode_of_isOperand {key : Key} (operand : key.isOperand) :
    key.entryMode ≠ .input := by
  cases key <;> simp_all [isOperand, entryMode]

theorem Key.entryMode_of_isOperator {key : Key} (operator : key.isOperator) :
    key.entryMode = .input := by
  cases key <;> first | rfl | cases operator

namespace Operand

theorem isOperand_term (o : Operand) : o.term.isOperand := by
  cases o <;> rfl

theorem mode_term_ne_input (o : Operand) : o.term.mode ≠ .input := by
  cases o <;> simp [term, Term.mode]

end Operand

namespace Typing

theorem press_operator (t : Typing) {key : Key} (operator : key.isOperator) :
    t.press key = ⟨t.terms ++ [.operator key.text], none⟩ := by
  cases key <;> first | rfl | simp [Key.isOperator] at operator

theorem press_control (t : Typing) {key : Key} (control : key.isControl) : t.press key = t := by
  cases key <;> first | rfl | simp [Key.isControl] at control

/-- An operand of `family` is the one being typed, changed, or it is a new one. -/
def Enters (t after : Typing) (family : Mode) (new : Operand) : Prop :=
  (∃ old, t.operand = some old ∧ old.term.mode = family ∧ after = ⟨t.complete, some new⟩) ∨
    (∀ old ∈ t.operand, old.term.mode ≠ family) ∧ after = ⟨t.terms, some new⟩

theorem onLength_enters (t : Typing) (type : TypedLength → TypedLength)
    (keeps : ∀ l, l.Tidy → (type l).Tidy) :
    ∃ new : Operand, new.term.mode = .imperial ∧ Enters t (t.onLength type) .imperial new ∧
      ((∀ old ∈ t.operand, old.term.Tidy) → new.term.Tidy) := by
  have fresh : (type {}).Tidy := keeps {} TypedLength.tidy_empty
  rcases t with ⟨complete, _ | ⟨l⟩ | ⟨text⟩⟩
  · exact ⟨.length (type {}), rfl, Or.inr ⟨by simp, rfl⟩, fun _ => fresh⟩
  · exact ⟨.length (type l), rfl, Or.inl ⟨.length l, rfl, rfl, rfl⟩, fun tidy =>
      keeps l (tidy _ rfl)⟩
  · exact ⟨.length (type {}), rfl, Or.inr ⟨by simp [Operand.term, Term.mode], rfl⟩,
      fun _ => fresh⟩

theorem onNumber_enters (t : Typing) (type : Text → Text)
    (keeps : ∀ text, text = [] ∨ TidyNumber text → TidyNumber (type text)) :
    ∃ new : Operand, new.term.mode = .scalar ∧ Enters t (t.onNumber type) .scalar new ∧
      ((∀ old ∈ t.operand, old.term.Tidy) → new.term.Tidy) := by
  have fresh : TidyNumber (type []) := keeps [] (Or.inl rfl)
  rcases t with ⟨complete, _ | ⟨l⟩ | ⟨text⟩⟩
  · exact ⟨.number (type []), rfl, Or.inr ⟨by simp, rfl⟩, fun _ => fresh⟩
  · exact ⟨.number (type []), rfl, Or.inr ⟨by simp [Operand.term, Term.mode], rfl⟩,
      fun _ => fresh⟩
  · exact ⟨.number (type text), rfl, Or.inl ⟨.number text, rfl, rfl, rfl⟩, fun tidy =>
      keeps text (Or.inr (tidy _ rfl))⟩

theorem press_operand (t : Typing) {key : Key} (operand : key.isOperand) :
    ∃ new : Operand, new.term.mode = key.entryMode ∧ Enters t (t.press key) key.entryMode new ∧
      ((∀ old ∈ t.operand, old.term.Tidy) → new.term.Tidy) := by
  cases key with
  | digit pad d =>
      exact onLength_enters t _ fun l tidy => TypedLength.tidy_typeDigit tidy pad d
  | fraction pad literal =>
      exact onLength_enters t _ fun l tidy =>
        TypedLength.tidy_typeFraction tidy (Fraction.proper_of_read literal.reads)
  | scalarDigit d => exact onNumber_enters t _ fun text tidy => tidyNumber_typeDigit tidy d
  | point => exact onNumber_enters t _ fun text tidy => tidyNumber_typePoint tidy
  | operator op => simp [Key.isOperand] at operand
  | equals => simp [Key.isOperand] at operand
  | control command => simp [Key.isOperand] at operand

def ofKeys (log : List Key) : Typing := log.foldl press {}

theorem ofKeys_concat (log : List Key) (key : Key) :
    ofKeys (log ++ [key]) = (ofKeys log).press key := by
  simp [ofKeys]

theorem awaitsOperand_of_idle (log : List Key) (idle : (ofKeys log).operand = none) :
    Expression.AwaitsOperand (ofKeys log).complete := by
  induction log using List.reverseRecOn with
  | nil => simp [ofKeys]
  | append_singleton log key ih =>
      rw [ofKeys_concat] at idle ⊢
      rcases key.cases_kind with operand | operator | control
      · obtain ⟨new, _, entered, _⟩ := press_operand (ofKeys log) operand
        rcases entered with ⟨old, _, _, pressed⟩ | ⟨_, pressed⟩
        · simp [pressed] at idle
        · simp [pressed] at idle
      · rw [press_operator _ operator]
        simp [Term.isOperator]
      · rw [press_control _ control] at idle ⊢
        exact ih idle

theorem tidy_ofKeys (log : List Key) : ∀ term ∈ (ofKeys log).terms, term.Tidy := by
  induction log using List.reverseRecOn with
  | nil => simp [ofKeys, terms]
  | append_singleton log key ih =>
      rw [ofKeys_concat]
      rcases key.cases_kind with operand | operator | control
      · obtain ⟨new, _, entered, tidy⟩ := press_operand (ofKeys log) operand
        have newTidy : new.term.Tidy := by
          refine tidy fun old typed => ih old.term ?_
          simp [terms, Option.mem_def.mp typed]
        rcases entered with ⟨old, _, _, pressed⟩ | ⟨_, pressed⟩
        · intro term member
          simp only [pressed, terms, Option.map_some, Option.toList_some, List.mem_append,
            List.mem_singleton] at member
          rcases member with member | rfl
          · exact ih term (by simp [terms, member])
          · exact newTidy
        · intro term member
          rw [pressed, terms, Option.map_some, Option.toList_some, List.mem_append,
            List.mem_singleton] at member
          rcases member with member | rfl
          · exact ih term member
          · exact newTidy
      · intro term member
        rw [press_operator _ operator, terms, Option.map_none, Option.toList_none, List.append_nil,
          List.mem_append, List.mem_singleton] at member
        rcases member with member | rfl
        · exact ih term member
        · trivial
      · rw [press_control _ control]
        exact ih

end Typing

theorem Operand.of_eraseInput {term left : Term} (erased : term.eraseInput = some left) :
    ∃ old new : Operand, term = old.term ∧ left = new.term ∧ new.term.mode = old.term.mode := by
  rcases Term.eraseInput_eq_some erased with ⟨l, rfl, rfl⟩ | ⟨text, _, rfl, rfl⟩
  · exact ⟨.length l, .length l.eraseInput, rfl, rfl, rfl⟩
  · exact ⟨.number text, .number text.dropLast, rfl, rfl, rfl⟩

namespace Expression

theorem eraseInput_append {front back : Expression} (nonempty : back ≠ []) :
    eraseInput (front ++ back) = front ++ eraseInput back := by
  obtain ⟨start, last, rfl⟩ := (List.eq_nil_or_concat' back).resolve_left nonempty
  rw [← List.append_assoc, eraseInput_concat, eraseInput_concat, List.append_assoc]

theorem alternates_eraseInput {terms : Expression} (alternates : terms.Alternates) :
    terms.eraseInput.Alternates := by
  rcases List.eq_nil_or_concat' terms with rfl | ⟨front, last, rfl⟩
  · exact alternates
  · rw [eraseInput_concat]
    cases left : last.eraseInput with
    | none => simpa using alternates_front alternates
    | some shorter =>
        obtain ⟨old, new, rfl, rfl, _⟩ := Operand.of_eraseInput left
        exact (alternates_replace old.isOperand_term new.isOperand_term).mp alternates

theorem ofKeys_eq_terms (log : List Key) : ofKeys log = (Typing.ofKeys log).terms := rfl

@[simp] theorem ofKeys_nil : ofKeys [] = [] := rfl

theorem ofKeys_operator (log : List Key) {key : Key} (operator : key.isOperator) :
    ofKeys (log ++ [key]) = ofKeys log ++ [.operator key.text] := by
  rw [ofKeys_eq_terms, Typing.ofKeys_concat, Typing.press_operator _ operator]
  exact List.append_nil _

theorem ofKeys_control (log : List Key) {key : Key} (control : key.isControl) :
    ofKeys (log ++ [key]) = ofKeys log := by
  rw [ofKeys_eq_terms, ofKeys_eq_terms, Typing.ofKeys_concat, Typing.press_control _ control]

/-- An operand key changes a last operand of its family; after anything else it starts one. -/
theorem ofKeys_operand (log : List Key) {key : Key} (operand : key.isOperand) :
    ∃ new : Operand, new.term.mode = key.entryMode ∧
      ((∃ (front : Expression) (old : Operand), ofKeys log = front ++ [old.term] ∧
          old.term.mode = key.entryMode ∧ ofKeys (log ++ [key]) = front ++ [new.term]) ∨
        mode (ofKeys log) ≠ key.entryMode ∧ ofKeys (log ++ [key]) = ofKeys log ++ [new.term]) := by
  simp only [ofKeys_eq_terms, Typing.ofKeys_concat]
  obtain ⟨new, family, entered, _⟩ := Typing.press_operand (Typing.ofKeys log) operand
  rcases entered with ⟨old, typed, same, pressed⟩ | ⟨other, pressed⟩
  · refine ⟨new, family, Or.inl ⟨(Typing.ofKeys log).complete, old, ?_, same, ?_⟩⟩
    · simp [Typing.terms, typed]
    · simp [Typing.terms, pressed]
  · refine ⟨new, family, Or.inr ⟨?_, ?_⟩⟩
    · cases typed : (Typing.ofKeys log).operand with
      | none =>
          have awaits := Typing.awaitsOperand_of_idle log typed
          rw [Typing.terms, typed, Option.map_none, Option.toList_none, List.append_nil,
            mode_eq_input_of_awaitsOperand awaits, ← family]
          exact (Operand.mode_term_ne_input new).symm
      | some old =>
          rw [Typing.terms, typed, Option.map_some, Option.toList_some, mode_concat]
          exact other old typed
    · simp [pressed, Typing.terms]

end Expression

end FeetInches
