import FeetInches.Keypad.Basic
import Mathlib.Data.List.Chain

namespace FeetInches

namespace Term

def isOperand : Term → Bool
  | operator _ | keyPress _ => false
  | _ => true

/-- Of two neighbours one is an operand and the other an operator. -/
def TakesTurn (first second : Term) : Prop :=
  first.isOperand ∧ second.isOperator ∨ first.isOperator ∧ second.isOperand

theorem not_isOperator_of_isOperand {term : Term} (operand : term.isOperand) :
    term.isOperator = false := by
  cases term <;> simp_all [isOperand, isOperator]

theorem isOperand_of_isResult {term : Term} (result : term.isResult) : term.isOperand := by
  cases term <;> simp_all [isOperand, isResult]

theorem mode_eq_input {term : Term} : term.mode = .input ↔ term.isOperand = false := by
  cases term <;> simp [mode, isOperand]

theorem mode_ne_error (term : Term) : term.mode ≠ .error := by
  cases term <;> simp [mode]

end Term

namespace Expression

def Alternates (terms : Expression) : Prop :=
  (∀ first ∈ terms.head?, first.isOperand) ∧ terms.IsChain Term.TakesTurn

/-- An operand, then an arithmetic operator and an operand any number of times. -/
inductive Complete : Expression → Prop where
  | operand {term : Term} : term.isOperand → Complete [term]
  | step {terms : Expression} (op : Arith) {term : Term} :
      Complete terms → term.isOperand → Complete (terms ++ [.operator op.symbol, term])

def Arithmetic (terms : Expression) : Prop :=
  ∀ term ∈ terms, term.isOperator → ∃ op : Arith, term = .operator op.symbol

/-- Nothing stands at the end that an operator could follow. -/
def AwaitsOperand (terms : Expression) : Prop :=
  ∀ last ∈ terms.getLast?, last.isOperator

def mode (terms : Expression) : Mode :=
  match terms.getLast? with
  | none => .input
  | some last => last.mode

@[simp] theorem mode_concat (terms : Expression) (last : Term) :
    mode (terms ++ [last]) = last.mode := by
  simp [mode]

theorem mode_ne_error (terms : Expression) : mode terms ≠ .error := by
  unfold mode
  split
  · decide
  · exact Term.mode_ne_error _

@[simp] theorem awaitsOperand_nil : AwaitsOperand [] := by
  simp [AwaitsOperand]

@[simp] theorem awaitsOperand_concat (terms : Expression) (last : Term) :
    AwaitsOperand (terms ++ [last]) ↔ last.isOperator := by
  simp [AwaitsOperand]

@[simp] theorem alternates_nil : Alternates [] := by
  simp [Alternates]

@[simp] theorem alternates_singleton (term : Term) : Alternates [term] ↔ term.isOperand := by
  simp [Alternates]

theorem alternates_front {front back : Expression} (alternates : Alternates (front ++ back)) :
    Alternates front := by
  refine ⟨?_, alternates.2.left_of_append⟩
  intro first found
  exact alternates.1 first (List.mem_head?_append_of_mem_head? found)

theorem last_ordinary {front : Expression} {last : Term}
    (alternates : Alternates (front ++ [last])) : last.isOperand ∨ last.isOperator := by
  rcases List.eq_nil_or_concat' front with rfl | ⟨start, previous, rfl⟩
  · exact Or.inl (alternates_singleton last |>.mp alternates)
  · have turn := (List.isChain_append.mp alternates.2).2.2 previous (by simp) last (by simp)
    rcases turn with ⟨_, operator⟩ | ⟨_, operand⟩
    · exact Or.inr operator
    · exact Or.inl operand

/-- What may follow is settled by the last term alone. -/
theorem alternates_concat (terms : Expression) (last : Term) :
    Alternates (terms ++ [last]) ↔
      Alternates terms ∧ (AwaitsOperand terms ∧ last.isOperand ∨
        ¬ AwaitsOperand terms ∧ last.isOperator) := by
  rcases List.eq_nil_or_concat' terms with rfl | ⟨front, previous, rfl⟩
  · simp
  · have turn (ordinary : previous.isOperand ∨ previous.isOperator) :
        Term.TakesTurn previous last ↔ (previous.isOperator ∧ last.isOperand ∨
          ¬ previous.isOperator ∧ last.isOperator) := by
      cases previous <;> simp_all [Term.TakesTurn, Term.isOperand, Term.isOperator]
    rw [awaitsOperand_concat]
    constructor
    · intro alternates
      have before := alternates_front alternates
      have link := (List.isChain_append.mp alternates.2).2.2 previous (by simp) last (by simp)
      exact ⟨before, (turn (last_ordinary before)).mp link⟩
    · rintro ⟨before, follows⟩
      have link := (turn (last_ordinary before)).mpr follows
      refine ⟨?_, List.isChain_append.mpr ⟨before.2, List.isChain_singleton last, ?_⟩⟩
      · intro first found
        refine before.1 first ?_
        cases front <;> simpa using found
      · intro left leftLast right rightFirst
        simp only [List.getLast?_concat, Option.mem_def, Option.some.injEq, List.head?_cons]
          at leftLast rightFirst
        subst leftLast rightFirst
        exact link

theorem alternates_replace {front : Expression} {old new : Term} (oldOperand : old.isOperand)
    (newOperand : new.isOperand) :
    Alternates (front ++ [old]) ↔ Alternates (front ++ [new]) := by
  rw [alternates_concat, alternates_concat]
  simp [oldOperand, newOperand, Term.not_isOperator_of_isOperand]

theorem mode_eq_input_of_awaitsOperand {terms : Expression} (awaits : AwaitsOperand terms) :
    mode terms = .input := by
  rcases List.eq_nil_or_concat' terms with rfl | ⟨front, last, rfl⟩
  · rfl
  · rw [awaitsOperand_concat] at awaits
    cases last <;> simp_all [Term.isOperator, Term.mode]

theorem mode_eq_input_iff {terms : Expression} (alternates : Alternates terms) :
    mode terms = .input ↔ AwaitsOperand terms := by
  refine ⟨?_, mode_eq_input_of_awaitsOperand⟩
  intro input
  rcases List.eq_nil_or_concat' terms with rfl | ⟨front, last, rfl⟩
  · exact awaitsOperand_nil
  · rw [mode_concat, Term.mode_eq_input] at input
    rw [awaitsOperand_concat]
    exact (last_ordinary alternates).resolve_left (by simp [input])

theorem complete_of_alternates {terms : Expression} (alternates : Alternates terms)
    (arithmetic : Arithmetic terms) (ended : ¬ AwaitsOperand terms) : Complete terms := by
  -- by the length: the last operator and the operand behind it come off together
  induction size : terms.length using Nat.strong_induction_on generalizing terms with
  | _ length shorter =>
      rcases List.eq_nil_or_concat' terms with rfl | ⟨front, last, rfl⟩
      · exact absurd awaitsOperand_nil ended
      · have operand : last.isOperand :=
          (last_ordinary alternates).resolve_right (by simpa using ended)
        rcases List.eq_nil_or_concat' front with rfl | ⟨start, sign, rfl⟩
        · exact Complete.operand operand
        · have before := (alternates_concat _ _).mp alternates
          have operator : sign.isOperator := by
            simpa [operand, Term.not_isOperator_of_isOperand] using before.2
          have follows := ((alternates_concat _ _).mp before.1).2
          have notOperand : sign.isOperand ≠ true := by
            intro isOperand
            simp [Term.not_isOperator_of_isOperand isOperand] at operator
          obtain ⟨op, rfl⟩ := arithmetic sign (by simp) operator
          rw [List.append_assoc]
          refine Complete.step op ?_ operand
          refine shorter start.length ?_ (alternates_front before.1) ?_ ?_ rfl
          · simp [← size]
          · intro term member
            exact arithmetic term (by simp [member])
          · simpa [notOperand, operator] using follows

end Expression

end FeetInches
