import FeetInches.Evaluation.Postfix

namespace FeetInches

namespace Expression

def lastEquals? (terms : Expression) : Option Nat :=
  (terms.reverse.findIdx? (·.isSymbol equalsSymbol)).map (terms.length - 1 - ·)

def solve? : Expression → Except Failure Term
  | [] => .error (.calc .emptyExpression)
  | [term] => term.solution?
  | terms => do
    let ordered ← Postfix.ofInfix [] terms
    Postfix.run [] ordered

end Expression

structure Outcome where
  expression : Expression
  result : Except CalcError Term

namespace Outcome

/-- The terms that take the place of the expression: the result alone, or, with an error, the same
ones as before. -/
def terms (o : Outcome) : Expression :=
  match o.result with
  | .ok result => [result]
  | .error _ => o.expression

def error? (o : Outcome) : Option CalcError :=
  match o.result with
  | .ok _ => none
  | .error error => some error

end Outcome

def Expression.evaluate? (terms : Expression) : Except Fault Outcome :=
  match lastEquals? terms with
  | none => .ok ⟨terms, .error .noEquals⟩
  | some index =>
    match solve? (terms.take index) with
    | .ok result => .ok ⟨terms, .ok result⟩
    | .error (.calc error) => .ok ⟨terms, .error error⟩
    | .error (.fault fault) => .error fault

end FeetInches
