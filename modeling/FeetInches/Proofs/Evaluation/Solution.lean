import FeetInches.Proofs.Evaluation.UnitSoundness

namespace FeetInches

/-- The errors that the values of an expression give rise to, whatever its form. -/
inductive CalcError.OfValues : CalcError → Prop where
  | divisionByZero : OfValues .divisionByZero
  | unsupported (left : Kind) (symbol : Text) (right : Kind) :
      OfValues (.unsupported left symbol right)
  | numberTooLarge : OfValues (.invalid .numberTooLarge)

def Failure.OfValues : Failure → Prop
  | .calc error => error.OfValues
  | .fault _ => True

abbrev Calculated {α : Type} (Q : α → Prop) (x : Except Failure α) : Prop :=
  Settles Failure.OfValues Q x

theorem Failure.OfArithmetic.ofValues {failure : Failure} (ofArithmetic : failure.OfArithmetic) :
    failure.OfValues := by
  cases ofArithmetic with
  | divisionByZero => exact .divisionByZero
  | numberTooLarge => exact .numberTooLarge
  | range fault => exact trivial
  | notReal text => exact trivial

theorem Grammar.Tree.Fails.ofValues {tree : Grammar.Tree} {failure : Failure}
    (fails : tree.Fails failure) : failure.OfValues := by
  rcases fails with ofArithmetic | ⟨left, op, right, rfl, _⟩
  · exact ofArithmetic.ofValues
  · exact .unsupported left op.symbol right

theorem Expression.calculated_solve {terms : Expression} (complete : Complete terms) :
    Calculated (fun result => result.isResult) (solve? terms) := by
  obtain ⟨phrase, rfl⟩ := Grammar.exists_phrase complete
  rw [Grammar.solve?_terms]
  apply settles_mono phrase.settles_result
  · intro failure fails
    exact fails.ofValues
  · intro result yields
    exact yields.1

/-- An equals sign at the end has everything before it calculated. -/
theorem Expression.evaluate?_equals (terms : Expression) :
    evaluate? (terms ++ [.operator equalsSymbol]) =
      match solve? terms with
      | .ok result => .ok ⟨terms ++ [.operator equalsSymbol], .ok result⟩
      | .error (.calc error) => .ok ⟨terms ++ [.operator equalsSymbol], .error error⟩
      | .error (.fault fault) => .error fault := by
  have last : lastEquals? (terms ++ [.operator equalsSymbol]) = some terms.length := by
    simp [lastEquals?, Term.isSymbol, List.findIdx?_cons]
  have before : (terms ++ [Term.operator equalsSymbol]).take terms.length = terms :=
    List.take_left
  rcases solved : solve? terms with (error | fault) | result <;>
    simp only [evaluate?, last, before, solved]

end FeetInches
