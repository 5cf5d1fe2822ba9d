import FeetInches.Proofs.Evaluation.Solution
/-!
Going on from a result. A result has the quantity of the operand or calculation that it stands
for, and the unit rules look at quantities alone. So an expression may be calculated up to one of
its operators, and the result put in place of what was calculated: the answer stays the same,
provided that the part in front of the operator is a whole left operand of it.
-/

namespace FeetInches

namespace Length

theorem total_of_ofTotal? {total : Binary64} {length : Length}
    (formed : ofTotal? total = .ok length) : length.total = total := by
  unfold ofTotal? at formed
  obtain ⟨feet, _, formed⟩ := bind_eq_ok.mp formed
  obtain ⟨whole, _, formed⟩ := bind_eq_ok.mp formed
  obtain ⟨inches, _, formed⟩ := bind_eq_ok.mp formed
  obtain ⟨wholeInches, _, formed⟩ := bind_eq_ok.mp formed
  obtain ⟨fraction, _, formed⟩ := bind_eq_ok.mp formed
  cases formed
  rfl

end Length

theorem mapError_eq_ok {ε δ α : Type} {x : Except ε α} {rename : ε → δ} {value : α} :
    x.mapError rename = .ok value ↔ x = .ok value := by
  cases x <;> simp [Except.mapError]

theorem Amount.finite?_real {x total : Binary64} (finite : (Amount.real x).finite? = .ok total) :
    total = x := by
  unfold Amount.finite? Amount.toReal? at finite
  simp only at finite
  split at finite
  · cases finite
    rfl
  · cases finite

theorem Length.total_of_ofAmount? {x : Binary64} {length : Length}
    (formed : Length.ofAmount? (.real x) = .ok length) : length.total = x := by
  obtain ⟨total, finite, split⟩ := bind_eq_ok.mp formed
  have same := Amount.finite?_real (mapError_eq_ok.mp finite)
  rw [← same]
  exact Length.total_of_ofTotal? (mapError_eq_ok.mp (mapError_eq_ok.mp split))

namespace Term

theorem quantity_of_solution {term result : Term} (solved : term.solution? = .ok result) :
    result.quantity? = term.quantity? := by
  cases term with
  | typedLength l =>
      obtain ⟨total, read, more⟩ := bind_eq_ok.mp solved
      obtain ⟨length, formed, same⟩ := bind_eq_ok.mp more
      cases same
      have kept := Length.total_of_ofAmount? formed
      simp only [quantity?, kept, read]
  | operator symbol => cases solved
  | keyPress key => cases solved
  | _ =>
      cases solved
      rfl

/-- A rule looks at the quantity of its left operand only. -/
theorem combine_congr {left other : Term} (same : left.quantity? = other.quantity?) (symbol : Text)
    (right : Term) : left.combine? symbol right = other.combine? symbol right := by
  unfold combine?
  rw [same]

end Term

namespace Grammar

/-- Both trees have a value, and no rule can tell one from the other. -/
def Tree.Interchangeable (first second : Tree) : Prop :=
  ∃ value other, first.value? = .ok value ∧ second.value? = .ok other ∧
    value.quantity? = other.quantity?

theorem Tree.value_node_congr {first second : Tree} (same : first.Interchangeable second)
    (op : Arith) (right : Tree) :
    (Tree.node first op right).value? = (Tree.node second op right).value? := by
  obtain ⟨value, other, left, otherLeft, quantity⟩ := same
  have combined (third : Term) : value.combine? op.symbol third = other.combine? op.symbol third :=
    Term.combine_congr quantity op.symbol third
  simp only [Tree.value?, left, otherLeft, bind, Except.bind, combined]

def Product.append (left : Product) (op : Tight) : Product → Product
  | operand atom => .step left op atom
  | step chain next atom => .step (left.append op chain) next atom

/-- The phrase that begins with a product, and goes on inside it. -/
def Phrase.continued (left : Product) (op : Tight) : Phrase → Phrase
  | product chain => .product (left.append op chain)
  | step rest next chain => .step (continued left op rest) next chain

def Phrase.append (left : Phrase) (op : Loose) : Phrase → Phrase
  | product chain => .step left op chain
  | step rest next chain => .step (left.append op rest) next chain

theorem Product.terms_append (left : Product) (op : Tight) (right : Product) :
    (left.append op right).terms = left.terms ++ .operator op.arith.symbol :: right.terms := by
  induction right with
  | operand atom => rfl
  | step chain next atom ih => simp [append, terms, ih]

theorem Phrase.terms_continued (left : Product) (op : Tight) (right : Phrase) :
    (continued left op right).terms = left.terms ++ .operator op.arith.symbol :: right.terms := by
  induction right with
  | product chain => exact left.terms_append op chain
  | step rest next chain ih => simp [continued, terms, ih]

theorem Phrase.terms_append (left : Phrase) (op : Loose) (right : Phrase) :
    (left.append op right).terms = left.terms ++ .operator op.arith.symbol :: right.terms := by
  induction right with
  | product chain => rfl
  | step rest next chain ih => simp [append, terms, ih]

section Values

variable {left other : Product}

theorem Product.value_append (same : left.tree.Interchangeable other.tree) (op : Tight)
    (right : Product) :
    (left.append op right).tree.value? = (other.append op right).tree.value? := by
  induction right with
  | operand atom => exact Tree.value_node_congr same op.arith (.leaf atom)
  | step chain next atom ih => simp only [append, tree, Tree.value?, ih]

theorem Phrase.value_continued (same : left.tree.Interchangeable other.tree) (op : Tight)
    (right : Phrase) :
    (continued left op right).tree.value? = (continued other op right).tree.value? := by
  induction right with
  | product chain => exact Product.value_append same op chain
  | step rest next chain ih => simp only [continued, tree, Tree.value?, ih]

theorem Phrase.value_append {left other : Phrase} (same : left.tree.Interchangeable other.tree)
    (op : Loose) (right : Phrase) :
    (left.append op right).tree.value? = (other.append op right).tree.value? := by
  induction right with
  | product chain => exact Tree.value_node_congr same op.arith chain.tree
  | step rest next chain ih => simp only [append, tree, Tree.value?, ih]

end Values

theorem exists_product {phrase : Phrase}
    (noSum : ∀ op : Loose, .operator op.arith.symbol ∉ phrase.terms) :
    ∃ chain, phrase = .product chain := by
  cases phrase with
  | product chain => exact ⟨chain, rfl⟩
  | step left op right =>
      have member : .operator op.arith.symbol ∈ (Phrase.step left op right).terms := by
        simp [Phrase.terms]
      exact absurd member (noSum op)

theorem interchangeable_result {phrase : Phrase} {result : Atom}
    (solved : phrase.result? = .ok result.val) :
    phrase.tree.Interchangeable (.leaf result) := by
  obtain ⟨value, calculated, solution⟩ := bind_eq_ok.mp solved
  refine ⟨value, result.val, calculated, rfl, ?_⟩
  exact (Term.quantity_of_solution solution).symm

end Grammar

namespace Expression

theorem result_evaluate?_equals (terms : Expression) :
    (evaluate? (terms ++ [.operator equalsSymbol])).map Outcome.result =
      match solve? terms with
      | .ok result => .ok (.ok result)
      | .error (.calc error) => .ok (.error error)
      | .error (.fault fault) => .error fault := by
  rw [evaluate?_equals]
  rcases solve? terms with (error | fault) | result <;> rfl

theorem solve?_of_evaluate? {terms : Expression} {outcome : Outcome} {result : Term}
    (evaluated : evaluate? (terms ++ [.operator equalsSymbol]) = .ok outcome)
    (solved : outcome.result = .ok result) : solve? terms = .ok result := by
  rw [evaluate?_equals] at evaluated
  split at evaluated
  · rename_i term found
    cases evaluated
    cases solved
    exact found
  · cases evaluated
    cases solved
  · cases evaluated

/-- The part in front of an operator may be replaced by its result, if it is a whole left operand:
in front of `+` and `-` it always is, in front of `x` and `/` it is without a sum in it. -/
theorem solve?_from_result {before after : Expression} {op : Arith} {result : Term}
    (complete : before.Complete) (follows : after.Complete)
    (whole : op = .plus ∨ op = .minus ∨
      ∀ sign ∈ [Arith.plus, .minus], .operator sign.symbol ∉ before)
    (solved : solve? before = .ok result) :
    solve? (before ++ .operator op.symbol :: after) =
      solve? (result :: .operator op.symbol :: after) := by
  have isResult := calculated_solve complete
  rw [solved] at isResult
  let atom : Grammar.Atom := ⟨result, Term.isOperand_of_isResult isResult⟩
  obtain ⟨phrase, rfl⟩ := Grammar.exists_phrase complete
  obtain ⟨rest, rfl⟩ := Grammar.exists_phrase follows
  rw [Grammar.solve?_terms] at solved
  let single : Grammar.Phrase := .product (.operand atom)
  have same : phrase.tree.Interchangeable single.tree := Grammar.interchangeable_result solved
  have loose (sign : Grammar.Loose) (isSign : op = sign.arith) :
      solve? (phrase.terms ++ .operator op.symbol :: rest.terms) =
        solve? (result :: .operator op.symbol :: rest.terms) := by
    subst isSign
    have from_result := single.terms_append sign rest
    change _ = result :: .operator sign.arith.symbol :: rest.terms at from_result
    rw [← phrase.terms_append, ← from_result, Grammar.solve?_terms, Grammar.solve?_terms,
      Grammar.Phrase.result?, Grammar.Phrase.result?, Grammar.Phrase.value_append same]
  have tight (sign : Grammar.Tight) (isSign : op = sign.arith)
      (noSum : ∀ sign ∈ [Arith.plus, .minus], .operator sign.symbol ∉ phrase.terms) :
      solve? (phrase.terms ++ .operator op.symbol :: rest.terms) =
        solve? (result :: .operator op.symbol :: rest.terms) := by
    obtain ⟨chain, rfl⟩ : ∃ chain, phrase = .product chain := by
      refine Grammar.exists_product fun sign => noSum sign.arith ?_
      cases sign <;> decide
    subst isSign
    have from_product := Grammar.Phrase.terms_continued chain sign rest
    have from_result := Grammar.Phrase.terms_continued (.operand atom) sign rest
    change _ = (Grammar.Phrase.product chain).terms ++ _ at from_product
    change _ = result :: .operator sign.arith.symbol :: rest.terms at from_result
    rw [← from_product, ← from_result, Grammar.solve?_terms, Grammar.solve?_terms,
      Grammar.Phrase.result?, Grammar.Phrase.result?, Grammar.Phrase.value_continued same]
  cases op with
  | plus => exact loose .plus rfl
  | minus => exact loose .minus rfl
  | times => exact tight .times rfl (by simpa using whole)
  | dividedBy => exact tight .dividedBy rfl (by simpa using whole)

/-- An equals sign in the midst of an expression does not change the answer: going on from the
result gives the same term, or the same failure, as the expression without the sign. -/
theorem equals_midway {before after : Expression} {op : Arith} {outcome : Outcome} {result : Term}
    (complete : before.Complete) (follows : after.Complete)
    (whole : op = .plus ∨ op = .minus ∨
      ∀ sign ∈ [Arith.plus, .minus], .operator sign.symbol ∉ before)
    (evaluated : evaluate? (before ++ [.operator equalsSymbol]) = .ok outcome)
    (solved : outcome.result = .ok result) :
    (evaluate? (before ++ .operator op.symbol :: after ++ [.operator equalsSymbol])).map
        Outcome.result =
      (evaluate? (result :: .operator op.symbol :: after ++ [.operator equalsSymbol])).map
        Outcome.result := by
  have alone := solve?_of_evaluate? evaluated solved
  have same := solve?_from_result complete follows whole alone
  rw [result_evaluate?_equals, result_evaluate?_equals, same]

/-- `5ft 3 1/2in` is doubled and lengthened by a foot at once, or doubled after an equals sign. -/
theorem doubled_after_equals :
    let typed : Term := .typedLength { feet := 5, inches := 3, numerator := 1, denominator := 2 }
    let result : Term := .length ⟨.nearest false (127 * oneUnits) 2, 5, 3, 1, 2⟩
    let after : Expression :=
      [.typedNumber "2"] ++ [.operator Arith.plus.symbol, .typedLength { feet := 1 }]
    solve? [typed] = .ok result ∧
      (evaluate? ([typed] ++ .operator Arith.times.symbol :: after ++
        [.operator equalsSymbol])).map Outcome.result =
      (evaluate? (result :: .operator Arith.times.symbol :: after ++
        [.operator equalsSymbol])).map Outcome.result := by
  intro typed result after
  have complete : Complete [typed] := .operand rfl
  have follows : after.Complete := .step .plus (.operand rfl) rfl
  have noSum : ∀ sign ∈ [Arith.plus, .minus], .operator sign.symbol ∉ [typed] := by decide +kernel
  have solved : solve? [typed] = .ok result := by decide +kernel
  have evaluated := evaluate?_equals [typed]
  rw [solved] at evaluated
  exact ⟨solved, equals_midway complete follows (.inr (.inr noSum)) evaluated rfl⟩

end Expression

end FeetInches
