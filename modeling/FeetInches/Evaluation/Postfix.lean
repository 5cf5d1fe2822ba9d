import FeetInches.Evaluation.UnitRule

namespace FeetInches

def Arith.precedence : Arith → Nat
  | plus | minus => 1
  | times | dividedBy => 2

namespace Postfix

def operators (ops : List Arith) : List Term := ops.map fun op => .operator op.symbol

/-- The terms in postfix order, after the operators in `stack`, which wait for their right
operands. An operator lets go those that bind at least as tight as it does. -/
def ofInfix (stack : List Arith) : List Term → Except CalcError (List Term)
  | [] => .ok (operators stack)
  | .operator symbol :: rest =>
    match Arith.ofSymbol? symbol with
    | none => .error (.invalid (.unexpected symbol))
    | some op => do
      let looser := stack.dropWhile fun waiting => op.precedence ≤ waiting.precedence
      let tighter := stack.takeWhile fun waiting => op.precedence ≤ waiting.precedence
      let terms ← ofInfix (op :: looser) rest
      return operators tighter ++ terms
  | term :: rest => do
    let terms ← ofInfix stack rest
    return term :: terms

/-- The result of a list in postfix order; the last value stands first on the stack. -/
def run (values : List Term) : List Term → Except Failure Term
  | [] =>
    match values with
    | [value] => value.solution?
    | _ => .error (.calc (.invalid .wrongOperandCount))
  | .operator symbol :: rest =>
    match values with
    | right :: left :: below => do
      let value ← left.combine? symbol right
      run (value :: below) rest
    | _ => .error (.calc (.invalid .notEnoughOperands))
  | term :: rest => run (term :: values) rest

end Postfix

end FeetInches
