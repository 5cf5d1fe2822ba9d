import FeetInches.Proofs.Evaluation.Chaining
import FeetInches.Proofs.Expression.Transcript
/-!
Which arrangements of operands and operators are calculated. Nothing looks at the order in which
they stand: an operator only needs two values when it leaves its stack, and one value has to be left
in the end. So prefix and postfix order pass as well as infix order. Where no two operands stand
side by side, counting is enough to tell that operands and operators take turns.
-/

namespace FeetInches

theorem UnitRule.kinds_of_subtotal? {left right : Kind} {op : Arith}
    {form : Binary64 → Binary64 → Subtotal} (row : subtotal? left op right = some form) :
    left ≠ .operator ∧ right ≠ .operator := by
  cases left <;> cases op <;> cases right <;> simp_all [subtotal?]

namespace Term

/-- A term that has a place in an expression without an equals sign. -/
def Ordinary (term : Term) : Prop := term.isOperand ∨ ∃ op : Arith, term = .operator op.symbol

def arith? : Term → Option Arith
  | operator symbol => Arith.ofSymbol? symbol
  | _ => none

theorem arith?_symbol (op : Arith) : (operator op.symbol).arith? = some op :=
  Arith.ofSymbol?_symbol op

theorem arith?_of_isOperand {term : Term} (operand : term.isOperand) : term.arith? = none := by
  cases term <;> first | rfl | cases operand

theorem isOperand_of_quantity {term : Term} {quantity : Quantity}
    (read : term.quantity? = .ok quantity) (other : quantity.kind ≠ .operator) :
    term.isOperand := by
  cases term with
  | operator symbol =>
      cases read
      exact absurd rfl other
  | keyPress key => cases read
  | _ => rfl

theorem operands_of_combine? {left right value : Term} {symbol : Text}
    (combined : left.combine? symbol right = .ok value) : left.isOperand ∧ right.isOperand := by
  obtain ⟨first, leftRead, more⟩ := bind_eq_ok.mp combined
  obtain ⟨second, rightRead, rule⟩ := bind_eq_ok.mp more
  split at rule
  · rename_i result found
    obtain ⟨op, _, known⟩ := Option.bind_eq_some_iff.mp found
    rw [UnitRule.result?_eq] at known
    obtain ⟨form, row, _⟩ := Option.map_eq_some_iff.mp known
    have kinds := UnitRule.kinds_of_subtotal? row
    exact ⟨isOperand_of_quantity (mapError_eq_ok.mp leftRead) kinds.1,
      isOperand_of_quantity (mapError_eq_ok.mp rightRead) kinds.2⟩
  · cases rule

theorem calculated_combine {left right : Term} (op : Arith) (leftOperand : left.isOperand)
    (rightOperand : right.isOperand) :
    Calculated (fun value => value.isOperand) (left.combine? op.symbol right) := by
  obtain ⟨leftKind, leftKnown⟩ := exists_kind leftOperand
  obtain ⟨rightKind, rightKnown⟩ := exists_kind rightOperand
  cases row : UnitRule.row? leftKind op rightKind with
  | none =>
      rw [combine?_unsupported op leftKnown rightKnown row]
      exact CalcError.OfValues.unsupported leftKind op.symbol rightKind
  | some kind =>
      apply settles_mono (computed_combine op leftKnown rightKnown row)
      · intro failure ofArithmetic
        exact ofArithmetic.ofValues
      · intro value result
        exact isOperand_of_isResult result.1

theorem calculated_solution {term : Term} (operand : term.isOperand) :
    Calculated (fun result => result.isResult) term.solution? := by
  obtain ⟨kind, known⟩ := exists_kind operand
  apply settles_mono (computed_solution operand known)
  · intro failure ofArithmetic
    exact ofArithmetic.ofValues
  · intro result isResult
    exact isResult.1

theorem isOperand_of_solution? {term result : Term} (solved : term.solution? = .ok result) :
    term.isOperand := by
  cases term <;> first | rfl | cases solved

end Term

namespace Expression

def signs (terms : Expression) : List Arith := terms.filterMap Term.arith?

def surplus (terms : Expression) : Int :=
  (terms.countP Term.isOperand : Int) - terms.countP Term.isOperator

/-- An operator behind `front` lets go those that bind at least as tight as it does, and they find
their operands. A looser operator, if there is one, goes on waiting. -/
def Feeds (front : Expression) (op : Arith) : Prop :=
  ∀ previous ∈ (signs front).getLast?, op.precedence ≤ previous.precedence →
    (if ∃ looser ∈ signs front, looser.precedence < op.precedence then 0 else 1) ≤ surplus front

/-- There is one operand more than operators, and there are enough of them in front of every
operator that lets go others. -/
structure Balanced (terms : Expression) : Prop where
  ordinary : ∀ term ∈ terms, term.Ordinary
  total : surplus terms = 1
  fed : ∀ front (op : Arith) back, terms = front ++ .operator op.symbol :: back → Feeds front op

theorem surplus_nil : surplus [] = 0 := rfl

theorem surplus_append (front back : Expression) :
    surplus (front ++ back) = surplus front + surplus back := by
  simp only [surplus, List.countP_append, Int.natCast_add]
  omega

theorem surplus_operand {term : Term} (operand : term.isOperand) : surplus [term] = 1 := by
  simp [surplus, operand, Term.not_isOperator_of_isOperand operand]

theorem surplus_operator (symbol : Text) : surplus [.operator symbol] = -1 := rfl

theorem signs_append (front back : Expression) :
    signs (front ++ back) = signs front ++ signs back :=
  List.filterMap_append

theorem signs_operand {term : Term} (operand : term.isOperand) : signs [term] = [] := by
  simp [signs, Term.arith?_of_isOperand operand]

theorem signs_operator (op : Arith) : signs [.operator op.symbol] = [op] := by
  simp [signs, Term.arith?_symbol]

end Expression

namespace Postfix

/-- A list in postfix order leaves one value on a stack of `depth` values, and each operator in it
finds two. -/
def Reduces (depth : Nat) : List Term → Prop
  | [] => depth = 1
  | .operator _ :: rest => 2 ≤ depth ∧ Reduces (depth - 1) rest
  | _ :: rest => Reduces (depth + 1) rest

theorem reduces_operand {term : Term} (operand : term.isOperand) (depth : Nat) (rest : List Term) :
    Reduces depth (term :: rest) ↔ Reduces (depth + 1) rest := by
  cases term <;> first | rfl | cases operand

theorem reduces_operators (ops : List Arith) (depth : Nat) (rest : List Term) :
    Reduces depth (operators ops ++ rest) ↔
      (ops = [] ∨ ops.length < depth) ∧ Reduces (depth - ops.length) rest := by
  induction ops generalizing depth with
  | nil => simp [operators]
  | cons op ops ih =>
      have step : Reduces depth (operators (op :: ops) ++ rest) ↔
          2 ≤ depth ∧ Reduces (depth - 1) (operators ops ++ rest) := Iff.rfl
      have fewer : depth - 1 - ops.length = depth - (ops.length + 1) := by omega
      have counts : (2 ≤ depth ∧ (ops = [] ∨ ops.length < depth - 1)) ↔ ops.length + 1 < depth := by
        cases ops with
        | nil =>
            simp only [true_or, and_true, List.length_nil]
            omega
        | cons other more =>
            simp only [reduceCtorEq, false_or, List.length_cons]
            omega
      rw [step, ih, ← and_assoc, counts, List.length_cons, fewer]
      simp only [reduceCtorEq, false_or]

/-- What comes to a result has operands and operators only, and reduces. -/
theorem reduces_of_run {values terms : List Term} {result : Term}
    (done : run values terms = .ok result) :
    Reduces values.length terms ∧ (∀ value ∈ values, value.isOperand) ∧
      ∀ term ∈ terms, term.isOperand ∨ term.isOperator := by
  induction terms generalizing values with
  | nil =>
      unfold run at done
      split at done
      · refine ⟨rfl, ?_, by simp⟩
        intro value member
        rw [List.mem_singleton.mp member]
        exact Term.isOperand_of_solution? done
      · cases done
  | cons term rest ih =>
      have pushed (following : run (term :: values) rest = .ok result) :
          Reduces values.length (term :: rest) ∧ (∀ value ∈ values, value.isOperand) ∧
            ∀ other ∈ term :: rest, other.isOperand ∨ other.isOperator := by
        obtain ⟨reduces, operands, others⟩ := ih following
        have operand := operands term (by simp)
        refine ⟨(reduces_operand operand _ _).mpr reduces, ?_, ?_⟩
        · intro value member
          exact operands value (List.mem_cons_of_mem term member)
        · intro other member
          rcases List.mem_cons.mp member with rfl | member
          · exact Or.inl operand
          · exact others other member
      cases term with
      | operator symbol =>
          unfold run at done
          split at done
          · rename_i right left below
            obtain ⟨value, combined, following⟩ := bind_eq_ok.mp done
            obtain ⟨reduces, operands, others⟩ := ih following
            obtain ⟨leftOperand, rightOperand⟩ := Term.operands_of_combine? combined
            refine ⟨⟨?_, reduces⟩, ?_, ?_⟩
            · simp only [List.length_cons]
              omega
            · intro other member
              rcases List.mem_cons.mp member with rfl | member
              · exact rightOperand
              · rcases List.mem_cons.mp member with rfl | member
                · exact leftOperand
                · exact operands other (List.mem_cons_of_mem value member)
            · intro other member
              rcases List.mem_cons.mp member with rfl | member
              · exact Or.inr rfl
              · exact others other member
          · cases done
      | _ => exact pushed done

theorem calculated_run {values terms : List Term} (reduces : Reduces values.length terms)
    (operands : ∀ value ∈ values, value.isOperand) (ordinary : ∀ term ∈ terms, term.Ordinary) :
    Calculated (fun result => result.isResult) (run values terms) := by
  induction terms generalizing values with
  | nil =>
      obtain ⟨value, rfl⟩ := List.length_eq_one_iff.mp reduces
      exact Term.calculated_solution (operands value (by simp))
  | cons term rest ih =>
      have more : ∀ term ∈ rest, term.Ordinary := by
        intro other member
        exact ordinary other (List.mem_cons_of_mem term member)
      rcases ordinary term (by simp) with operand | ⟨op, rfl⟩
      · have pushed : run values (term :: rest) = run (term :: values) rest := by
          cases term <;> first | rfl | cases operand
        rw [pushed]
        refine ih ((reduces_operand operand _ _).mp reduces) ?_ more
        intro value member
        rcases List.mem_cons.mp member with rfl | member
        · exact operand
        · exact operands value member
      · obtain ⟨enough, reduces⟩ := reduces
        match values, enough with
        | right :: left :: below, _ =>
            apply settles_bind (Term.calculated_combine op (operands left (by simp))
              (operands right (by simp)))
            intro value operand
            refine ih reduces ?_ more
            intro other member
            rcases List.mem_cons.mp member with rfl | member
            · exact operand
            · exact operands other (by simp [member])

/-! The operators that wait -/

/-- The operators that wait once these have been read, the last one on top. -/
def waiting (ops : List Arith) : List Arith :=
  ops.foldl (fun stack op => op :: stack.dropWhile (op.precedence ≤ ·.precedence)) []

theorem waiting_concat (ops : List Arith) (op : Arith) :
    waiting (ops ++ [op]) = op :: (waiting ops).dropWhile (op.precedence ≤ ·.precedence) := by
  simp [waiting]

theorem head?_waiting (ops : List Arith) : (waiting ops).head? = ops.getLast? := by
  rcases List.eq_nil_or_concat' ops with rfl | ⟨front, op, rfl⟩
  · rfl
  · simp [waiting_concat]

theorem dropWhile_dropWhile {α : Type} {p q : α → Bool} (weaker : ∀ x, q x → p x) (xs : List α) :
    (xs.dropWhile q).dropWhile p = xs.dropWhile p := by
  induction xs with
  | nil => rfl
  | cons x xs ih =>
      by_cases dropped : q x
      · rw [List.dropWhile_cons_of_pos dropped, ih, List.dropWhile_cons_of_pos (weaker x dropped)]
      · rw [List.dropWhile_cons_of_neg dropped]

/-- Of the operators that wait one at most stays, and one does if a looser one was read at all. -/
theorem length_looser (ops : List Arith) (op : Arith) :
    ((waiting ops).dropWhile (op.precedence ≤ ·.precedence)).length =
      if ∃ looser ∈ ops, looser.precedence < op.precedence then 1 else 0 := by
  induction ops using List.reverseRecOn generalizing op with
  | nil => simp [waiting]
  | append_singleton ops last ih =>
      rw [waiting_concat]
      by_cases tight : op.precedence ≤ last.precedence
      · have weaker (other : Arith) : decide (last.precedence ≤ other.precedence) →
            decide (op.precedence ≤ other.precedence) := by
          simp only [decide_eq_true_eq]
          omega
        have same : (∃ looser ∈ ops ++ [last], looser.precedence < op.precedence) ↔
            ∃ looser ∈ ops, looser.precedence < op.precedence := by
          simp [or_and_right, exists_or, tight]
        rw [List.dropWhile_cons_of_pos (by simpa using tight), dropWhile_dropWhile weaker, ih]
        simp only [same]
      · -- only a sum is looser, and nothing waits under its operator
        have nothing : ¬ ∃ looser ∈ ops, looser.precedence < last.precedence := by
          rintro ⟨looser, _, below⟩
          cases op <;> cases last <;> cases looser <;> simp_all [Arith.precedence]
        have found : ∃ looser ∈ ops ++ [last], looser.precedence < op.precedence :=
          ⟨last, by simp, by omega⟩
        rw [List.dropWhile_cons_of_neg (by simpa using tight), List.length_cons, ih,
          if_neg nothing, if_pos found]

end Postfix

namespace Expression

open Postfix

/-- Enough operands in front of an operator are enough values for those that it lets go. -/
theorem feeds_iff {front : Expression} {depth : Nat}
    (values : (depth : Int) = surplus front + (waiting (signs front)).length) (op : Arith) :
    Feeds front op ↔
      (waiting (signs front)).takeWhile (op.precedence ≤ ·.precedence) = [] ∨
        ((waiting (signs front)).takeWhile (op.precedence ≤ ·.precedence)).length < depth := by
  have looser := length_looser (signs front) op
  have parts := congrArg List.length
    (List.takeWhile_append_dropWhile (p := (op.precedence ≤ ·.precedence))
      (l := waiting (signs front)))
  rw [List.length_append] at parts
  have enough : (if ∃ looser ∈ signs front, looser.precedence < op.precedence then 0 else 1) ≤
      surplus front ↔
        ((waiting (signs front)).takeWhile (op.precedence ≤ ·.precedence)).length < depth := by
    split at looser
    · rename_i found
      rw [if_pos found]
      omega
    · rename_i absent
      rw [if_neg absent]
      omega
  unfold Feeds
  rw [enough, ← head?_waiting]
  cases waiting (signs front) with
  | nil => simp
  | cons previous below =>
      by_cases tight : op.precedence ≤ previous.precedence
      · simp [tight]
      · simp [tight]

theorem operators_cons {P : Expression → Arith → Prop} {term : Term} {rest : Expression} :
    (∀ front (op : Arith) back, term :: rest = front ++ .operator op.symbol :: back → P front op) ↔
      (∀ op : Arith, term = .operator op.symbol → P [] op) ∧
        ∀ front (op : Arith) back, rest = front ++ .operator op.symbol :: back →
          P (term :: front) op := by
  constructor
  · intro holds
    refine ⟨?_, ?_⟩
    · rintro op rfl
      exact holds [] op rest rfl
    · rintro front op back rfl
      exact holds (term :: front) op back rfl
  · rintro ⟨first, others⟩ front op back shape
    cases front with
    | nil => exact first op (List.cons.inj shape).1
    | cons head tail =>
        obtain ⟨rfl, same⟩ := List.cons.inj shape
        exact others tail op back same

/-- In postfix order the terms behind `front` reduce if they are balanced. The values on the stack
are the operands that no operator has taken yet. -/
theorem reduces_ofInfix {front rest : Expression} {depth : Nat} {ordered : List Term}
    (values : (depth : Int) = surplus front + (waiting (signs front)).length)
    (ordinary : ∀ term ∈ rest, term.Ordinary)
    (read : ofInfix (waiting (signs front)) rest = .ok ordered) :
    Reduces depth ordered ↔ surplus (front ++ rest) = 1 ∧
      ∀ middle (op : Arith) back, rest = middle ++ .operator op.symbol :: back →
        Feeds (front ++ middle) op := by
  induction rest generalizing front depth ordered with
  | nil =>
      cases read
      have all := reduces_operators (waiting (signs front)) depth []
      rw [List.append_nil] at all
      have last : Reduces (depth - (waiting (signs front)).length) [] ↔
          depth - (waiting (signs front)).length = 1 := Iff.rfl
      have absent : ∀ middle (op : Arith) back,
          ([] : Expression) = middle ++ .operator op.symbol :: back →
            Feeds (front ++ middle) op := by
        simp
      have total : (waiting (signs front) = [] ∨ (waiting (signs front)).length < depth) ∧
          depth - (waiting (signs front)).length = 1 ↔ surplus front = 1 := by
        cases shape : waiting (signs front) with
        | nil =>
            rw [shape, List.length_nil] at values
            simp only [true_or, true_and, List.length_nil]
            omega
        | cons top below =>
            rw [shape, List.length_cons] at values
            simp only [reduceCtorEq, false_or, List.length_cons]
            omega
      rw [all, last, total, List.append_nil]
      exact ⟨fun whole => ⟨whole, absent⟩, fun balanced => balanced.1⟩
  | cons term rest ih =>
      have more : ∀ term ∈ rest, term.Ordinary := by
        intro other member
        exact ordinary other (List.mem_cons_of_mem term member)
      have moved (middle : Expression) : front ++ term :: middle = front ++ [term] ++ middle := by
        rw [List.append_assoc, List.singleton_append]
      have behind : (∀ middle (op : Arith) back, rest = middle ++ .operator op.symbol :: back →
          Feeds (front ++ term :: middle) op) ↔
            ∀ middle (op : Arith) back, rest = middle ++ .operator op.symbol :: back →
              Feeds (front ++ [term] ++ middle) op := by
        simp only [← moved]
      rw [operators_cons, List.append_nil, behind, moved rest]
      rcases ordinary term (by simp) with operand | ⟨op, rfl⟩
      · have signsBefore : signs (front ++ [term]) = signs front := by
          rw [signs_append, signs_operand operand, List.append_nil]
        have valuesBefore : ((depth + 1 : Nat) : Int) =
            surplus (front ++ [term]) + (waiting (signs (front ++ [term]))).length := by
          rw [surplus_append, surplus_operand operand, signsBefore]
          omega
        have pushed : ofInfix (waiting (signs front)) (term :: rest) =
            (term :: ·) <$> ofInfix (waiting (signs front)) rest :=
          Grammar.ofInfix_atom _ ⟨term, operand⟩ rest
        rw [pushed] at read
        obtain ⟨others, following, rfl⟩ := map_eq_ok.mp read
        rw [← signsBefore] at following
        have first : ∀ op : Arith, term = .operator op.symbol → Feeds front op := by
          rintro op rfl
          cases operand
        rw [reduces_operand operand, ih valuesBefore more following]
        exact ⟨fun ⟨whole, fed⟩ => ⟨whole, first, fed⟩, fun ⟨whole, _, fed⟩ => ⟨whole, fed⟩⟩
      · have signsBefore : signs (front ++ [.operator op.symbol]) = signs front ++ [op] := by
          rw [signs_append, signs_operator]
        have first : (∀ other : Arith, Term.operator op.symbol = .operator other.symbol →
            Feeds front other) ↔ Feeds front op := by
          refine ⟨fun feeds => feeds op rfl, ?_⟩
          intro feeds other same
          rwa [← Grammar.symbol_injective (Term.operator.inj same)]
        rw [Grammar.ofInfix_operator] at read
        obtain ⟨others, following, rfl⟩ := map_eq_ok.mp read
        rw [← waiting_concat, ← signsBefore] at following
        rw [reduces_operators, ← feeds_iff values, first, and_left_comm]
        apply and_congr_right
        intro feeds
        refine ih ?_ more following
        have looser := congrArg List.length
          (List.takeWhile_append_dropWhile (p := (op.precedence ≤ ·.precedence))
            (l := waiting (signs front)))
        rw [List.length_append] at looser
        rw [surplus_append, surplus_operator, signsBefore, waiting_concat, List.length_cons]
        rcases (feeds_iff values op).mp feeds with empty | enough
        · rw [empty, List.length_nil] at looser ⊢
          omega
        · omega

theorem ordinary_of_ofInfix {stack : List Arith} {terms : Expression} {ordered : List Term}
    (read : ofInfix stack terms = .ok ordered)
    (others : ∀ term ∈ ordered, term.isOperand ∨ term.isOperator) :
    ∀ term ∈ terms, term.Ordinary := by
  induction terms generalizing stack ordered with
  | nil => simp
  | cons first rest ih =>
      have ordinary (firstOrdinary : first.Ordinary)
          (restOrdinary : ∀ term ∈ rest, term.Ordinary) :
          ∀ term ∈ first :: rest, term.Ordinary := by
        intro term member
        rcases List.mem_cons.mp member with rfl | member
        · exact firstOrdinary
        · exact restOrdinary term member
      cases first with
      | operator symbol =>
          unfold ofInfix at read
          split at read
          · cases read
          · rename_i op found
            obtain ⟨more, following, result⟩ := bind_eq_ok.mp read
            cases result
            refine ordinary (Or.inr ⟨op, by rw [eq_symbol_of_ofSymbol? found]⟩) (ih following ?_)
            intro term member
            exact others term (List.mem_append_right _ member)
      | _ =>
          obtain ⟨more, following, result⟩ := bind_eq_ok.mp read
          cases result
          refine ordinary (Or.inl ((others _ (by simp)).resolve_right ?_)) (ih following ?_)
          · exact Bool.false_ne_true
          · intro term member
            exact others term (List.mem_cons_of_mem _ member)

theorem exists_ofInfix {terms : Expression} (ordinary : ∀ term ∈ terms, term.Ordinary)
    (stack : List Arith) :
    ∃ ordered, ofInfix stack terms = .ok ordered ∧ ∀ term ∈ ordered, term.Ordinary := by
  have released (ops : List Arith) : ∀ term ∈ Postfix.operators ops, term.Ordinary := by
    intro term member
    obtain ⟨op, _, rfl⟩ := List.mem_map.mp member
    exact Or.inr ⟨op, rfl⟩
  induction terms generalizing stack with
  | nil => exact ⟨Postfix.operators stack, rfl, released stack⟩
  | cons first rest ih =>
      have more : ∀ term ∈ rest, term.Ordinary := by
        intro other member
        exact ordinary other (List.mem_cons_of_mem first member)
      rcases ordinary first (by simp) with operand | ⟨op, rfl⟩
      · obtain ⟨ordered, read, others⟩ := ih more stack
        have pushed := Grammar.ofInfix_atom stack ⟨first, operand⟩ rest
        refine ⟨first :: ordered, pushed.trans (map_eq_ok.mpr ⟨ordered, read, rfl⟩), ?_⟩
        intro term member
        rcases List.mem_cons.mp member with rfl | member
        · exact Or.inl operand
        · exact others term member
      · obtain ⟨ordered, read, others⟩ :=
          ih more (op :: stack.dropWhile fun waiting => op.precedence ≤ waiting.precedence)
        have pushed := Grammar.ofInfix_operator stack op rest
        refine ⟨_, pushed.trans (map_eq_ok.mpr ⟨ordered, read, rfl⟩), ?_⟩
        intro term member
        rcases List.mem_append.mp member with member | member
        · exact released _ term member
        · exact others term member

theorem solve?_eq_run {terms : Expression} {ordered : List Term} (nonempty : terms ≠ [])
    (read : ofInfix [] terms = .ok ordered) : solve? terms = run [] ordered := by
  match terms with
  | [] => exact absurd rfl nonempty
  | [term] =>
      cases term with
      | operator symbol =>
          unfold ofInfix at read
          split at read
          · cases read
          · cases read
            rfl
      | _ =>
          cases read
          rfl
  | _ :: _ :: _ =>
      simp only [solve?, read]
      rfl

theorem reduces_iff_balanced {terms : Expression} {ordered : List Term}
    (ordinary : ∀ term ∈ terms, term.Ordinary) (read : ofInfix [] terms = .ok ordered) :
    Reduces 0 ordered ↔ Balanced terms := by
  have counted := @reduces_ofInfix [] terms 0 ordered rfl ordinary read
  constructor
  · intro reduces
    obtain ⟨total, fed⟩ := counted.mp reduces
    exact ⟨ordinary, total, fed⟩
  · intro balanced
    exact counted.mpr ⟨balanced.total, balanced.fed⟩

theorem balanced_of_solve? {terms : Expression} {result : Term}
    (solved : solve? terms = .ok result) : Balanced terms := by
  have nonempty : terms ≠ [] := by
    rintro rfl
    cases solved
  obtain ⟨ordered, read⟩ : ∃ ordered, ofInfix [] terms = .ok ordered := by
    match terms with
    | [] => exact absurd rfl nonempty
    | [term] =>
        cases term with
        | operator symbol => cases solved
        | _ => exact ⟨_, rfl⟩
    | _ :: _ :: _ =>
        obtain ⟨ordered, read, _⟩ := bind_eq_ok.mp solved
        exact ⟨ordered, mapError_eq_ok.mp read⟩
  rw [solve?_eq_run nonempty read] at solved
  obtain ⟨reduces, _, others⟩ := reduces_of_run solved
  have ordinary := ordinary_of_ofInfix read others
  exact (reduces_iff_balanced ordinary read).mp reduces

/-- Balanced terms come to a result, or fail because of their values. -/
theorem Balanced.calculated {terms : Expression} (balanced : Balanced terms) :
    Calculated (fun result => result.isResult) (solve? terms) := by
  have nonempty : terms ≠ [] := by
    rintro rfl
    cases balanced.total
  obtain ⟨ordered, read, ordinary⟩ := exists_ofInfix balanced.ordinary []
  have reduces := (reduces_iff_balanced balanced.ordinary read).mpr balanced
  rw [solve?_eq_run nonempty read]
  exact calculated_run reduces (by simp) ordinary

theorem isResult_of_solve? {terms : Expression} {result : Term}
    (solved : solve? terms = .ok result) : result.isResult := by
  have calculated := (balanced_of_solve? solved).calculated
  rwa [solved] at calculated

/-! Balance and turns -/

def Spaced (terms : Expression) : Prop :=
  terms.IsChain fun first second => ¬ (first.isOperand ∧ second.isOperand)

theorem Complete.ordinary {terms : Expression} (complete : Complete terms) :
    ∀ term ∈ terms, term.Ordinary := by
  induction complete with
  | operand operand =>
      intro term member
      rw [List.mem_singleton.mp member]
      exact Or.inl operand
  | step op before operand ih =>
      intro term member
      simp only [List.mem_append, List.mem_cons, List.not_mem_nil, or_false] at member
      rcases member with member | rfl | rfl
      · exact ih term member
      · exact Or.inr ⟨op, rfl⟩
      · exact Or.inl operand

theorem Complete.alternates {terms : Expression} (complete : Complete terms) :
    Alternates terms ∧ ¬ AwaitsOperand terms := by
  induction complete with
  | @operand term operand =>
      refine ⟨(alternates_singleton term).mpr operand, ?_⟩
      rw [← List.nil_append [term], awaitsOperand_concat,
        Term.not_isOperator_of_isOperand operand]
      exact Bool.false_ne_true
  | @step terms op term before operand ih =>
      have sign : Alternates (terms ++ [.operator op.symbol]) :=
        (alternates_concat _ _).mpr ⟨ih.1, Or.inr ⟨ih.2, rfl⟩⟩
      have awaits : AwaitsOperand (terms ++ [.operator op.symbol]) :=
        (awaitsOperand_concat _ _).mpr rfl
      have ended : ¬ AwaitsOperand (terms ++ [.operator op.symbol] ++ [term]) := by
        rw [awaitsOperand_concat, Term.not_isOperator_of_isOperand operand]
        exact Bool.false_ne_true
      rw [List.append_cons]
      exact ⟨(alternates_concat _ _).mpr ⟨sign, Or.inl ⟨awaits, operand⟩⟩, ended⟩

theorem Complete.surplus {terms : Expression} (complete : Complete terms) : surplus terms = 1 := by
  induction complete with
  | operand operand => exact surplus_operand operand
  | @step terms op term before operand ih =>
      have pair : Expression.surplus [.operator op.symbol, term] = 0 := by
        rw [← List.singleton_append, surplus_append, surplus_operator, surplus_operand operand]
        rfl
      rw [surplus_append, ih, pair]
      rfl

theorem Complete.front {front back : Expression} {op : Arith}
    (complete : Complete (front ++ .operator op.symbol :: back)) : Complete front := by
  have arithmetic : Arithmetic front := by
    intro term member operator
    refine (complete.ordinary term (List.mem_append_left _ member)).resolve_left ?_
    intro operand
    rw [Term.not_isOperator_of_isOperand operand] at operator
    cases operator
  have alternates := complete.alternates.1
  rw [List.append_cons] at alternates
  obtain ⟨before, follows⟩ := (alternates_concat _ _).mp (alternates_front alternates)
  exact complete_of_alternates before arithmetic
    (by simpa [Term.isOperand, Term.isOperator] using follows)

theorem Complete.balanced {terms : Expression} (complete : Complete terms) : Balanced terms := by
  refine ⟨complete.ordinary, complete.surplus, ?_⟩
  rintro front op back rfl previous _ _
  rw [complete.front.surplus]
  split <;> decide

theorem Complete.spaced {terms : Expression} (complete : Complete terms) : Spaced terms := by
  refine complete.alternates.1.2.imp ?_
  rintro first second (⟨_, operator⟩ | ⟨operator, _⟩) ⟨firstOperand, secondOperand⟩
  · rw [Term.not_isOperator_of_isOperand secondOperand] at operator
    cases operator
  · rw [Term.not_isOperator_of_isOperand firstOperand] at operator
    cases operator

/-- Without two operands side by side there is at most one operand more than operators, and none
more up to an operator; where there are as many, operands and operators take turns. -/
theorem surplus_le {terms : Expression} (ordinary : ∀ term ∈ terms, term.Ordinary)
    (spaced : Spaced terms) :
    (AwaitsOperand terms → surplus terms ≤ 0 ∧ (surplus terms = 0 → Alternates terms)) ∧
      (¬ AwaitsOperand terms → surplus terms ≤ 1 ∧ (surplus terms = 1 → Alternates terms)) := by
  induction terms using List.reverseRecOn with
  | nil => simp [surplus_nil]
  | append_singleton terms last ih =>
      have before := ih (fun term member => ordinary term (List.mem_append_left _ member))
        spaced.left_of_append
      rw [awaitsOperand_concat, surplus_append, alternates_concat]
      rcases ordinary last (by simp) with operand | ⟨op, rfl⟩
      · have awaits : AwaitsOperand terms := by
          intro previous found
          obtain ⟨front, rfl⟩ := List.getLast?_eq_some_iff.mp found
          have apart := (List.isChain_append.mp spaced).2.2 previous found last (by simp)
          rcases ordinary previous (by simp) with previousOperand | ⟨op, rfl⟩
          · exact absurd ⟨previousOperand, operand⟩ apart
          · rfl
        obtain ⟨most, turns⟩ := before.1 awaits
        rw [Term.not_isOperator_of_isOperand operand, surplus_operand operand]
        refine ⟨fun other => absurd other Bool.false_ne_true, fun _ => ⟨by omega, ?_⟩⟩
        intro all
        exact ⟨turns (by omega), Or.inl ⟨awaits, operand⟩⟩
      · rw [surplus_operator]
        refine ⟨fun _ => ?_, fun other => absurd rfl other⟩
        by_cases awaits : AwaitsOperand terms
        · have most := (before.1 awaits).1
          exact ⟨by omega, fun all => by omega⟩
        · obtain ⟨most, turns⟩ := before.2 awaits
          refine ⟨by omega, ?_⟩
          intro all
          exact ⟨turns (by omega), Or.inr ⟨awaits, rfl⟩⟩

theorem Balanced.complete {terms : Expression} (balanced : Balanced terms)
    (spaced : Spaced terms) : Complete terms := by
  have most := surplus_le balanced.ordinary spaced
  have total := balanced.total
  have ended : ¬ AwaitsOperand terms := by
    intro awaits
    have apart := (most.1 awaits).1
    omega
  refine complete_of_alternates ((most.2 ended).2 total) ?_ ended
  intro term member operator
  refine (balanced.ordinary term member).resolve_left ?_
  intro operand
  rw [Term.not_isOperator_of_isOperand operand] at operator
  cases operator

/-- An expression in front of an equals sign has a result only if it is balanced, and then only its
values can be wrong. The complete expressions are the balanced ones without two operands side by
side. -/
theorem arrangement_decided_by_counts {terms : Expression} {outcome : Outcome}
    (evaluated : evaluate? (terms ++ [.operator equalsSymbol]) = .ok outcome) :
    (outcome.error? = none → Balanced terms) ∧
      (∀ error, Balanced terms → outcome.error? = some error → error.OfValues) ∧
      (Complete terms ↔ Balanced terms ∧ Spaced terms) := by
  refine ⟨?_, ?_, fun complete => ⟨complete.balanced, complete.spaced⟩,
    fun ⟨balanced, spaced⟩ => balanced.complete spaced⟩
  · intro answered
    cases found : outcome.result with
    | error error => simp [Outcome.error?, found] at answered
    | ok result => exact balanced_of_solve? (solve?_of_evaluate? evaluated found)
  · intro error balanced failed
    have calculated := balanced.calculated
    rw [evaluate?_equals] at evaluated
    rcases solved : solve? terms with (found | fault) | result
    · rw [solved] at calculated evaluated
      cases evaluated
      cases failed
      exact calculated
    · rw [solved] at evaluated
      cases evaluated
    · rw [solved] at evaluated
      cases evaluated
      cases failed

/-- `+ 1 2` is calculated, and so it is balanced. -/
theorem prefix_order_balanced :
    let terms : Expression := [.operator "+", .typedNumber "1", .typedNumber "2"]
    (∃ outcome, evaluate? (terms ++ [.operator equalsSymbol]) = .ok outcome ∧
      outcome.result = .ok (.number "3")) ∧ Balanced terms := by
  intro terms
  have answer : (evaluate? (terms ++ [.operator equalsSymbol])).map Outcome.result =
      .ok (.ok (.number "3")) := by decide +kernel
  cases evaluated : evaluate? (terms ++ [.operator equalsSymbol]) with
  | error fault =>
      rw [evaluated] at answer
      cases answer
  | ok outcome =>
      rw [evaluated] at answer
      have result : outcome.result = .ok (.number "3") := Except.ok.inj answer
      refine ⟨⟨outcome, rfl, result⟩, (arrangement_decided_by_counts evaluated).1 ?_⟩
      simp [Outcome.error?, result]

/-- `1 2 +` has a result, though two operands stand side by side and the operator behind them. -/
theorem postfix_order_answered :
    let terms : Expression := [.typedNumber "1", .typedNumber "2", .operator "+"]
    (evaluate? (terms ++ [.operator equalsSymbol])).map Outcome.result =
      .ok (.ok (.number "3")) ∧ ¬ Complete terms := by
  intro terms
  refine ⟨by decide +kernel, ?_⟩
  intro complete
  exact (List.isChain_cons_cons.mp complete.spaced).1 ⟨rfl, rfl⟩

end Expression

end FeetInches
