import FeetInches.Evaluation.Outcome
import FeetInches.Proofs.Expression.Alternation
/-!
The grammar of expressions: a phrase is a chain of products joined by `+` and `-`, a product a
chain of operands joined by `x` and `/`, both read from the left. An expression that alternates
between operands and operators has the result that its tree has.
-/

namespace FeetInches.Grammar

abbrev Atom := { term : Term // term.isOperand }

inductive Tight where
  | times
  | dividedBy
  deriving DecidableEq, Repr

inductive Loose where
  | plus
  | minus
  deriving DecidableEq, Repr

def Tight.arith : Tight → Arith
  | times => .times
  | dividedBy => .dividedBy

def Loose.arith : Loose → Arith
  | plus => .plus
  | minus => .minus

inductive Product where
  | operand (atom : Atom)
  | step (left : Product) (op : Tight) (right : Atom)

inductive Phrase where
  | product (chain : Product)
  | step (left : Phrase) (op : Loose) (right : Product)

inductive Tree where
  | leaf (atom : Atom)
  | node (left : Tree) (op : Arith) (right : Tree)

def Product.terms : Product → Expression
  | operand atom => [atom.val]
  | step left op right => left.terms ++ [.operator op.arith.symbol, right.val]

def Phrase.terms : Phrase → Expression
  | product chain => chain.terms
  | step left op right => left.terms ++ .operator op.arith.symbol :: right.terms

def Product.tree : Product → Tree
  | operand atom => .leaf atom
  | step left op right => .node left.tree op.arith (.leaf right)

def Phrase.tree : Phrase → Tree
  | product chain => chain.tree
  | step left op right => .node left.tree op.arith right.tree

/-- The left branch is calculated first, then the right one, then the operator is applied. -/
def Tree.value? : Tree → Except Failure Term
  | leaf atom => .ok atom.val
  | node left op right => do
    let first ← left.value?
    let second ← right.value?
    first.combine? op.symbol second

def Phrase.result? (phrase : Phrase) : Except Failure Term := do
  let value ← phrase.tree.value?
  value.solution?

def Tree.postorder : Tree → List Term
  | leaf atom => [atom.val]
  | node left op right => left.postorder ++ right.postorder ++ [.operator op.symbol]

/-! The stack of values -/

theorem run_atom (atom : Atom) (values rest : List Term) :
    Postfix.run values (atom.val :: rest) = Postfix.run (atom.val :: values) rest := by
  obtain ⟨term, operand⟩ := atom
  cases term <;> first | rfl | simp [Term.isOperand] at operand

/-- A tree in postfix order leaves its value on the stack, whatever lies below and comes after. -/
theorem run_postorder (tree : Tree) (values rest : List Term) :
    Postfix.run values (tree.postorder ++ rest) =
      tree.value? >>= fun value => Postfix.run (value :: values) rest := by
  induction tree generalizing values rest with
  | leaf atom => exact run_atom atom values rest
  | node left op right leftRuns rightRuns =>
      simp only [Tree.postorder, Tree.value?, List.append_assoc, leftRuns, rightRuns, bind_assoc]
      rfl

/-! The stack of operators -/

/-- The list is at its end or goes on with an operator that binds no tighter than `op`. -/
def Releases (op : Arith) (rest : List Term) : Prop :=
  rest = [] ∨ ∃ later more, later.precedence ≤ op.precedence ∧
    rest = .operator (Arith.symbol later) :: more

theorem ofInfix_atom (stack : List Arith) (atom : Atom) (rest : List Term) :
    Postfix.ofInfix stack (atom.val :: rest) =
      (atom.val :: ·) <$> Postfix.ofInfix stack rest := by
  obtain ⟨term, operand⟩ := atom
  cases term <;> first | rfl | simp [Term.isOperand] at operand

theorem ofInfix_operator (stack : List Arith) (op : Arith) (rest : List Term) :
    Postfix.ofInfix stack (.operator op.symbol :: rest) =
      (Postfix.operators (stack.takeWhile fun waiting => op.precedence ≤ waiting.precedence) ++ ·)
        <$> Postfix.ofInfix
          (op :: stack.dropWhile fun waiting => op.precedence ≤ waiting.precedence) rest := by
  rw [Postfix.ofInfix, Arith.ofSymbol?_symbol]
  rfl

theorem ofInfix_release (op : Arith) (stack : List Arith) (rest : List Term)
    (released : Releases op rest) :
    Postfix.ofInfix (op :: stack) rest =
      (.operator op.symbol :: ·) <$> Postfix.ofInfix stack rest := by
  rcases released with rfl | ⟨later, more, looser, rfl⟩
  · rfl
  · simp only [ofInfix_operator, List.takeWhile_cons, List.dropWhile_cons, looser, decide_true,
      if_true, Functor.map_map]
    rfl

theorem releases_tight (op : Tight) (later : Arith) (more : List Term) :
    Releases op.arith (.operator later.symbol :: more) := by
  refine Or.inr ⟨later, more, ?_, rfl⟩
  cases op <;> cases later <;> decide

theorem releases_loose (op later : Loose) (more : List Term) :
    Releases op.arith (.operator later.arith.symbol :: more) := by
  refine Or.inr ⟨later.arith, more, ?_, rfl⟩
  cases op <;> cases later <;> decide

/-- An operator of a product waits on top of looser ones. -/
theorem ofInfix_tight (stack : List Arith) (op : Tight) (rest : List Term)
    (below : ∀ waiting ∈ stack.head?, waiting.precedence = 1) :
    Postfix.ofInfix stack (.operator op.arith.symbol :: rest) =
      Postfix.ofInfix (op.arith :: stack) rest := by
  have precedence : op.arith.precedence = 2 := by cases op <;> rfl
  rw [ofInfix_operator]
  cases stack with
  | nil => exact id_map _
  | cons waiting stack =>
      have loose : waiting.precedence = 1 := below waiting rfl
      simp only [List.takeWhile_cons, List.dropWhile_cons, precedence, loose, Nat.reduceLeDiff,
        decide_false, Bool.false_eq_true, if_false]
      exact id_map _

theorem ofInfix_product (product : Product) (stack : List Arith) (rest : List Term)
    (below : ∀ waiting ∈ stack.head?, waiting.precedence = 1)
    (released : ∀ op : Tight, Releases op.arith rest) :
    Postfix.ofInfix stack (product.terms ++ rest) =
      (product.tree.postorder ++ ·) <$> Postfix.ofInfix stack rest := by
  -- `rest` varies: for the left part of a chain it begins with the operator of the step
  induction product generalizing rest with
  | operand atom => exact ofInfix_atom stack atom rest
  | step left op right leftPasses =>
      simp only [Product.terms, Product.tree, Tree.postorder, List.append_assoc, List.cons_append,
        List.nil_append]
      rw [leftPasses _ (fun before => releases_tight before op.arith _),
        ofInfix_tight stack op _ below, ofInfix_atom, ofInfix_release _ _ _ (released op),
        Functor.map_map, Functor.map_map]

theorem ofInfix_phrase (phrase : Phrase) (rest : List Term)
    (next : rest = [] ∨ ∃ (op : Loose) (more : List Term),
      rest = .operator op.arith.symbol :: more) :
    Postfix.ofInfix [] (phrase.terms ++ rest) =
      (phrase.tree.postorder ++ ·) <$> Postfix.ofInfix [] rest := by
  have tightReleased (op : Tight) : Releases op.arith rest := by
    rcases next with rfl | ⟨later, more, rfl⟩
    · exact Or.inl rfl
    · exact releases_tight op later.arith more
  induction phrase generalizing rest with
  | product chain => exact ofInfix_product chain [] rest (by simp) tightReleased
  | step left op right leftPasses =>
      have looseReleased : Releases op.arith rest := by
        rcases next with rfl | ⟨later, more, rfl⟩
        · exact Or.inl rfl
        · exact releases_loose op later more
      have top : ∀ waiting ∈ [op.arith].head?, waiting.precedence = 1 := by
        cases op <;> simp [Loose.arith, Arith.precedence]
      simp only [Phrase.terms, Phrase.tree, Tree.postorder, List.append_assoc, List.cons_append,
        List.nil_append]
      rw [leftPasses _ (Or.inr ⟨op, _, rfl⟩) (fun before => releases_tight before op.arith _),
        ofInfix_operator, List.takeWhile_nil, List.dropWhile_nil,
        ofInfix_product right [op.arith] rest top tightReleased,
        ofInfix_release _ _ _ looseReleased, Functor.map_map, Functor.map_map, Functor.map_map]
      rfl

theorem ofInfix_terms (phrase : Phrase) :
    Postfix.ofInfix [] phrase.terms = .ok phrase.tree.postorder := by
  have passes := ofInfix_phrase phrase [] (Or.inl rfl)
  rw [List.append_nil] at passes
  rw [passes]
  change Except.ok (phrase.tree.postorder ++ []) = Except.ok phrase.tree.postorder
  rw [List.append_nil]

/-! Reading a phrase -/

/-- The phrase with an operator and an operand more: they join the last product, or start one. -/
def Phrase.extend (phrase : Phrase) (op : Arith) (atom : Atom) : Phrase :=
  match op, phrase with
  | .plus, phrase => .step phrase .plus (.operand atom)
  | .minus, phrase => .step phrase .minus (.operand atom)
  | .times, .product chain => .product (.step chain .times atom)
  | .dividedBy, .product chain => .product (.step chain .dividedBy atom)
  | .times, .step left join chain => .step left join (.step chain .times atom)
  | .dividedBy, .step left join chain => .step left join (.step chain .dividedBy atom)

theorem terms_extend (phrase : Phrase) (op : Arith) (atom : Atom) :
    (phrase.extend op atom).terms = phrase.terms ++ [.operator op.symbol, atom.val] := by
  cases op <;> cases phrase <;> simp [Phrase.extend, Phrase.terms, Product.terms, Tight.arith,
    Loose.arith]

theorem phrase_cases (phrase : Phrase) :
    (∃ atom, phrase = .product (.operand atom)) ∨
      ∃ (before : Phrase) (op : Arith) (atom : Atom), phrase = before.extend op atom := by
  cases phrase with
  | product chain =>
      cases chain with
      | operand atom => exact Or.inl ⟨atom, rfl⟩
      | step left op right =>
          exact Or.inr ⟨.product left, op.arith, right, by cases op <;> rfl⟩
  | step left op right =>
      cases right with
      | operand atom => exact Or.inr ⟨left, op.arith, atom, by cases op <;> rfl⟩
      | step inner tight atom =>
          exact Or.inr ⟨.step left op inner, tight.arith, atom, by cases tight <;> rfl⟩

theorem terms_ne_nil (phrase : Phrase) : phrase.terms ≠ [] := by
  rcases phrase_cases phrase with ⟨atom, rfl⟩ | ⟨before, op, atom, rfl⟩
  · simp [Phrase.terms, Product.terms]
  · simp [terms_extend]

theorem symbol_injective {first second : Arith}
    (same : (first.symbol : Text) = second.symbol) : first = second := by
  have read := Arith.ofSymbol?_symbol first
  rw [same, Arith.ofSymbol?_symbol] at read
  exact (Option.some.inj read).symm

/-- No expression has two readings. -/
theorem terms_injective {first second : Phrase} (same : first.terms = second.terms) :
    first = second := by
  -- by the length of the expression: both phrases end in the same operator and operand
  induction size : first.terms.length using Nat.strong_induction_on generalizing first second with
  | _ length shorter =>
      rcases phrase_cases first with ⟨atom, rfl⟩ | ⟨before, op, atom, rfl⟩ <;>
        rcases phrase_cases second with ⟨other, rfl⟩ | ⟨otherBefore, otherOp, other, rfl⟩
      · have equal : atom.val = other.val := by
          simpa [Phrase.terms, Product.terms] using same
        rw [Subtype.ext equal]
      · have lengths := congrArg List.length same
        simp [terms_extend, Phrase.terms, Product.terms] at lengths
      · have lengths := congrArg List.length same
        simp [terms_extend, Phrase.terms, Product.terms] at lengths
      · rw [terms_extend, terms_extend] at same
        obtain ⟨front, back⟩ := List.append_inj' same rfl
        simp only [List.cons.injEq, Term.operator.injEq, and_true] at back
        have sameBefore : before = otherBefore := by
          refine shorter before.terms.length ?_ front rfl
          simp [← size, terms_extend]
        rw [sameBefore, symbol_injective back.1, Subtype.ext back.2]

theorem solve?_terms (phrase : Phrase) : Expression.solve? phrase.terms = phrase.result? := by
  rcases phrase_cases phrase with ⟨atom, rfl⟩ | ⟨before, op, atom, rfl⟩
  · rfl
  · obtain ⟨first, rest, shape⟩ := List.exists_cons_of_ne_nil (terms_ne_nil before)
    obtain ⟨second, others, more⟩ := List.exists_cons_of_ne_nil
      (show rest ++ [.operator op.symbol, atom.val] ≠ [] by simp)
    have ordered := ofInfix_terms (before.extend op atom)
    have runs := run_postorder (before.extend op atom).tree [] []
    rw [terms_extend, shape, List.cons_append, more] at ordered ⊢
    rw [List.append_nil] at runs
    simp only [Expression.solve?, ordered]
    exact runs

theorem exists_phrase {terms : Expression} (complete : Expression.Complete terms) :
    ∃ phrase : Phrase, phrase.terms = terms := by
  induction complete with
  | @operand term operand => exact ⟨.product (.operand ⟨term, operand⟩), rfl⟩
  | @step terms op term before operand read =>
      obtain ⟨phrase, rfl⟩ := read
      exact ⟨phrase.extend op ⟨term, operand⟩, terms_extend phrase op ⟨term, operand⟩⟩

/-- A complete expression has one reading by the grammar, and the result of the expression is that
of the reading's tree: the same term, or the same first failure. -/
theorem solve?_eq_result? {terms : Expression} (complete : Expression.Complete terms) :
    (∃! phrase : Phrase, phrase.terms = terms) ∧
      ∀ phrase : Phrase, phrase.terms = terms → Expression.solve? terms = phrase.result? := by
  obtain ⟨phrase, rfl⟩ := exists_phrase complete
  refine ⟨⟨phrase, rfl, fun other same => terms_injective same⟩, ?_⟩
  intro other same
  rw [terms_injective same]
  exact solve?_terms phrase

/-- `1 - 2 x 3 - 4` is calculated as `(1 - (2 x 3)) - 4`. -/
theorem solve?_two_levels :
    let one : Atom := ⟨.typedNumber "1", rfl⟩
    let two : Atom := ⟨.typedNumber "2", rfl⟩
    let three : Atom := ⟨.typedNumber "3", rfl⟩
    let four : Atom := ⟨.typedNumber "4", rfl⟩
    let difference := Tree.node (.leaf one) .minus (.node (.leaf two) .times (.leaf three))
    Expression.solve? [one.val, .operator "-", two.val, .operator "x", three.val, .operator "-",
        four.val] =
      (Tree.node difference .minus (.leaf four)).value? >>= Term.solution? := by
  intro one two three four difference
  have complete : Expression.Complete (([one.val] ++ [.operator Arith.minus.symbol, two.val]) ++
      [.operator Arith.times.symbol, three.val] ++ [.operator Arith.minus.symbol, four.val]) :=
    .step .minus (.step .times (.step .minus (.operand one.2) two.2) three.2) four.2
  exact (solve?_eq_result? complete).2
    (.step (.step (.product (.operand one)) .minus (.step (.operand two) .times three)) .minus
      (.operand four)) rfl

end FeetInches.Grammar
