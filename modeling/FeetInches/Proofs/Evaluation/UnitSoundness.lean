import FeetInches.Proofs.Evaluation.Grammar
import FeetInches.Proofs.Evaluation.UnitTable

namespace FeetInches.Grammar

def Tree.kind? : Tree → Option Kind
  | leaf atom => atom.val.kind?.toOption
  | node left op right => do
    let leftKind ← left.kind?
    let rightKind ← right.kind?
    UnitRule.row? leftKind op rightKind

def Tree.nodes : Tree → List Tree
  | leaf _ => []
  | node left op right => left.nodes ++ right.nodes ++ [node left op right]

/-- The first node in postorder without a row joins these kinds by this operator. -/
def Tree.FirstUnsupported (tree : Tree) (leftKind : Kind) (op : Arith) (rightKind : Kind) : Prop :=
  ∃ before left right after, tree.nodes = before ++ node left op right :: after ∧
    (∀ earlier ∈ before, earlier.kind?.isSome) ∧ left.kind? = some leftKind ∧
    right.kind? = some rightKind ∧ UnitRule.row? leftKind op rightKind = none

/-- How a calculation can fail: in its arithmetic, or at the first node without a row. -/
def Tree.Fails (tree : Tree) (failure : Failure) : Prop :=
  failure.OfArithmetic ∨ ∃ leftKind op rightKind,
    failure = .calc (.unsupported leftKind op.symbol rightKind) ∧
      tree.FirstUnsupported leftKind op rightKind

variable {left right tree : Tree} {op : Arith} {leftKind rightKind kind : Kind}

theorem kind?_node (leftKnown : left.kind? = some leftKind)
    (rightKnown : right.kind? = some rightKind) :
    (Tree.node left op right).kind? = UnitRule.row? leftKind op rightKind := by
  simp only [Tree.kind?, leftKnown, rightKnown, Option.bind_eq_bind, Option.bind_some]

theorem isSome_kind?_of_mem (known : tree.kind?.isSome) :
    ∀ node ∈ tree.nodes, node.kind?.isSome := by
  induction tree with
  | leaf atom => simp [Tree.nodes]
  | node left op right leftNodes rightNodes =>
      obtain ⟨kind, found⟩ := Option.isSome_iff_exists.mp known
      obtain ⟨leftKind, leftKnown, rest⟩ := Option.bind_eq_some_iff.mp found
      obtain ⟨rightKind, rightKnown, _⟩ := Option.bind_eq_some_iff.mp rest
      intro node member
      simp only [Tree.nodes, List.mem_append, List.mem_singleton] at member
      rcases member with (member | member) | rfl
      · exact leftNodes (by rw [leftKnown]; rfl) node member
      · exact rightNodes (by rw [rightKnown]; rfl) node member
      · exact known

namespace Tree.FirstUnsupported

theorem kind?_eq_none (first : tree.FirstUnsupported leftKind op rightKind) :
    tree.kind? = none := by
  obtain ⟨before, left, right, after, shape, _, leftKnown, rightKnown, absent⟩ := first
  by_contra known
  have found := isSome_kind?_of_mem (Option.isSome_iff_ne_none.mpr known) (.node left op right)
    (by simp [shape])
  rw [kind?_node leftKnown rightKnown, absent] at found
  cases found

theorem inLeft (first : left.FirstUnsupported leftKind op rightKind) (join : Arith) (right : Tree) :
    (node left join right).FirstUnsupported leftKind op rightKind := by
  obtain ⟨before, inner, other, after, shape, earlier, known⟩ := first
  refine ⟨before, inner, other, after ++ right.nodes ++ [node left join right], ?_, earlier, known⟩
  simp [nodes, shape]

theorem inRight (leftKnown : left.kind?.isSome)
    (first : right.FirstUnsupported leftKind op rightKind) (join : Arith) :
    (node left join right).FirstUnsupported leftKind op rightKind := by
  obtain ⟨before, inner, other, after, shape, earlier, known⟩ := first
  refine ⟨left.nodes ++ before, inner, other, after ++ [node left join right], ?_, ?_, known⟩
  · simp [nodes, shape]
  · intro node member
    rcases List.mem_append.mp member with member | member
    · exact isSome_kind?_of_mem leftKnown node member
    · exact earlier node member

theorem atRoot (leftKnown : left.kind? = some leftKind) (rightKnown : right.kind? = some rightKind)
    (absent : UnitRule.row? leftKind op rightKind = none) :
    (node left op right).FirstUnsupported leftKind op rightKind := by
  refine ⟨left.nodes ++ right.nodes, left, right, [], rfl, ?_, leftKnown, rightKnown, absent⟩
  intro node member
  rcases List.mem_append.mp member with member | member
  · exact isSome_kind?_of_mem (by rw [leftKnown]; rfl) node member
  · exact isSome_kind?_of_mem (by rw [rightKnown]; rfl) node member

end Tree.FirstUnsupported

/-- A term that a tree can come to: an operand of the kind of the tree. -/
def Tree.Yields (tree : Tree) (term : Term) : Prop :=
  term.isOperand ∧ ∃ kind, tree.kind? = some kind ∧ term.kind? = .ok kind

/-- The value of a tree is of its kind, whatever the kinds of the operands. -/
theorem Tree.settles_value (tree : Tree) : Settles tree.Fails tree.Yields tree.value? := by
  induction tree with
  | leaf atom =>
      obtain ⟨kind, known⟩ := Term.exists_kind atom.2
      refine ⟨atom.2, kind, ?_, known⟩
      rw [kind?, known]
      rfl
  | node left op right leftSettles rightSettles =>
      -- a failure on the left comes first, then one on the right, then one of this node
      apply settles_bind (settles_mono leftSettles ?_ fun _ yields => yields)
      · intro first ⟨_, leftKind, leftTyped, leftKnown⟩
        apply settles_bind (settles_mono rightSettles ?_ fun _ yields => yields)
        · intro second ⟨_, rightKind, rightTyped, rightKnown⟩
          cases row : UnitRule.row? leftKind op rightKind with
          | none =>
              rw [Term.combine?_unsupported op leftKnown rightKnown row]
              exact Or.inr ⟨leftKind, op, rightKind, rfl, .atRoot leftTyped rightTyped row⟩
          | some kind =>
              apply settles_mono (Term.computed_combine op leftKnown rightKnown row)
              · intro failure ofArithmetic
                exact Or.inl ofArithmetic
              · intro result ⟨isResult, known⟩
                refine ⟨Term.isOperand_of_isResult isResult, kind, ?_, known⟩
                rw [kind?_node leftTyped rightTyped, row]
        · rintro failure (ofArithmetic | ⟨leftKind, op, rightKind, same, first⟩)
          · exact Or.inl ofArithmetic
          · exact Or.inr ⟨leftKind, op, rightKind, same, first.inRight (by rw [leftTyped]; rfl) _⟩
      · rintro failure (ofArithmetic | ⟨leftKind, op, rightKind, same, first⟩)
        · exact Or.inl ofArithmetic
        · exact Or.inr ⟨leftKind, op, rightKind, same, first.inLeft _ _⟩

theorem Phrase.settles_result (phrase : Phrase) :
    Settles phrase.tree.Fails
      (fun result => result.isResult ∧ ∃ kind, phrase.tree.kind? = some kind ∧
        result.kind? = .ok kind) phrase.result? := by
  apply settles_bind phrase.tree.settles_value
  intro value ⟨operand, kind, typed, known⟩
  apply settles_mono (Term.computed_solution operand known)
  · intro failure ofArithmetic
    exact Or.inl ofArithmetic
  · intro result ⟨isResult, resultKnown⟩
    exact ⟨isResult, kind, typed, resultKnown⟩

/-- The units of a complete expression are sound: a result has the kind of the tree, an unsupported
pair is the first without a row, a tree with a kind fails in its arithmetic alone, and a tree
without one has no result. -/
theorem solve?_respects_units {terms : Expression} (complete : terms.Complete) :
    (∃! phrase : Phrase, phrase.terms = terms) ∧
      ∀ phrase : Phrase, phrase.terms = terms →
        (∀ result, Expression.solve? terms = .ok result →
          ∃ kind, phrase.tree.kind? = some kind ∧ result.kind? = .ok kind) ∧
        (∀ leftKind symbol rightKind,
          Expression.solve? terms = .error (.calc (.unsupported leftKind symbol rightKind)) →
          ∃ op : Arith, symbol = op.symbol ∧
            phrase.tree.FirstUnsupported leftKind op rightKind) ∧
        (phrase.tree.kind?.isSome → ∀ failure, Expression.solve? terms = .error failure →
          failure.OfArithmetic) ∧
        (phrase.tree.kind? = none → ∀ result, Expression.solve? terms ≠ .ok result) := by
  obtain ⟨reading, rfl⟩ := exists_phrase complete
  refine ⟨⟨reading, rfl, fun other same => terms_injective same⟩, ?_⟩
  intro phrase same
  rw [terms_injective same, solve?_terms]
  have settles := reading.settles_result
  refine ⟨?_, ?_, ?_, ?_⟩
  · intro result solved
    rw [solved] at settles
    exact settles.2
  · intro leftKind symbol rightKind failed
    rw [failed] at settles
    rcases settles with ofArithmetic | ⟨_, op, _, same, first⟩
    · cases ofArithmetic
    · cases same
      exact ⟨op, rfl, first⟩
  · intro typed failure failed
    rw [failed] at settles
    rcases settles with ofArithmetic | ⟨_, _, _, _, first⟩
    · exact ofArithmetic
    · rw [first.kind?_eq_none] at typed
      cases typed
  · intro untyped result solved
    rw [solved] at settles
    obtain ⟨_, kind, typed, _⟩ := settles
    rw [untyped] at typed
    cases typed

/-- `1ft x 1ft + 3 x 1ft` adds an area and a length, for which there is no row. -/
theorem area_plus_length :
    let foot : Atom := ⟨.typedLength { feet := 1 }, rfl⟩
    let three : Atom := ⟨.typedNumber "3", rfl⟩
    let area : Product := .step (.operand foot) .times foot
    let phrase : Phrase := .step (.product area) .plus (.step (.operand three) .times foot)
    Expression.solve? phrase.terms = .error (.calc (.unsupported .area "+" .imperial)) ∧
      phrase.tree.kind? = none ∧ phrase.tree.FirstUnsupported .area .plus .imperial := by
  intro foot three area phrase
  have complete : Expression.Complete phrase.terms :=
    .step .times (.step .plus (.step .times (.operand foot.2) foot.2) three.2) foot.2
  have failed : Expression.solve? phrase.terms =
      .error (.calc (.unsupported .area "+" .imperial)) := by decide +kernel
  obtain ⟨op, symbol, first⟩ :=
    ((solve?_respects_units complete).2 phrase rfl).2.1 .area "+" .imperial failed
  obtain rfl : .plus = op := symbol_injective symbol
  exact ⟨failed, first.kind?_eq_none, first⟩

end FeetInches.Grammar
