import FeetInches.Proofs.Evaluation.Subtotals
import FeetInches.Proofs.Numeral.ReadBack

namespace FeetInches

open Binary64

namespace Term

def numeric? (term : Term) : Except Failure Binary64 := do
  let quantity ← term.quantity?
  quantity.total

theorem Legible.numeric?_eq {term : Term} (legible : term.Legible) :
    term.numeric? = UnitRule.finite term.magnitude := by
  obtain ⟨quantity, read, _, total⟩ := legible.reads
  rw [numeric?, read, ← total]
  rfl

def numberText? : Term → Option Text
  | typedNumber text | number text => some text
  | _ => none

theorem magnitude_of_numberText? {term : Term} {text : Text}
    (shown : term.numberText? = some text) : term.magnitude = Text.magnitude text := by
  cases term <;> cases shown <;> rfl

end Term

/-! What is formed -/

theorem Text.isFinite_magnitude_text {x : Binary64} (known : x.isFinite) :
    (Text.magnitude x.text).isFinite := by
  unfold Text.magnitude
  split
  · rfl
  · obtain ⟨y, read, finite⟩ := exists_readReal_text known
    rw [read]
    exact finite

theorem BigUnit.total_of_extent? {u : BigUnit} {x : Binary64} {extent : Extent}
    (formed : u.extent? x = .ok extent) : extent.total = x := by
  obtain ⟨text, _, same⟩ := bind_eq_ok.mp formed
  cases same
  rfl

theorem Subtotal.isFinite_of_shown? {s : Subtotal} {term : Term} (known : s.total.isFinite)
    (shown : s.shown? = .ok term) : term.magnitude.isFinite := by
  cases s with
  | length x =>
      obtain ⟨length, formed, same⟩ := bind_eq_ok.mp shown
      cases same
      rw [Term.magnitude, Length.total_of_ofTotal? (mapError_eq_ok.mp (mapError_eq_ok.mp formed))]
      exact known
  | area x | volume x =>
      obtain ⟨extent, formed, same⟩ := bind_eq_ok.mp shown
      cases same
      rw [Term.magnitude, BigUnit.total_of_extent? (mapError_eq_ok.mp (mapError_eq_ok.mp formed))]
      exact known
  | number x =>
      cases shown
      exact Text.isFinite_magnitude_text known

theorem Formation.isFinite_of_term? {f : Formation} {term : Term} (formed : f.term? = .ok term) :
    term.magnitude.isFinite := by
  unfold Formation.term? at formed
  split at formed
  · rw [Subtotal.term?_eq] at formed
    split at formed
    · rename_i known
      exact Subtotal.isFinite_of_shown? known formed
    · cases formed
  · cases formed

theorem Term.isFinite_of_combine? {left right value : Term} {symbol : Text}
    (leftLegible : left.Legible) (rightLegible : right.Legible)
    (combined : left.combine? symbol right = .ok value) : value.magnitude.isFinite := by
  rcases combine?_formed leftLegible rightLegible symbol with ⟨f, _, formed⟩ | ⟨_, error, _, failed⟩
  · rw [formed] at combined
    exact Formation.isFinite_of_term? combined
  · rw [failed] at combined
    cases combined

theorem Length.isFinite_of_ofAmount? {x : Binary64} {length : Length}
    (formed : ofAmount? (.real x) = .ok length) : length.total.isFinite := by
  rw [total_of_ofAmount? formed]
  obtain ⟨total, finite, _⟩ := bind_eq_ok.mp formed
  have known := mapError_eq_ok.mp finite
  unfold Amount.finite? at known
  simp only [Amount.toReal?] at known
  split at known
  · assumption
  · cases known

theorem Term.finite_or_number_of_solution? {term result : Term} (legible : term.Legible)
    (solved : term.solution? = .ok result) :
    result.magnitude.isFinite ∨
      ∃ text, term.numberText? = some text ∧ result = .number text := by
  cases term with
  | typedLength l =>
      obtain ⟨total, _, more⟩ := bind_eq_ok.mp solved
      obtain ⟨length, formed, same⟩ := bind_eq_ok.mp more
      cases same
      exact Or.inl (Length.isFinite_of_ofAmount? formed)
  | typedNumber text | number text =>
      cases solved
      exact Or.inr ⟨text, rfl, rfl⟩
  | operator _ | keyPress _ => cases solved
  | length l =>
      cases solved
      exact Or.inl legible.1
  | area extent | volume extent =>
      cases solved
      exact Or.inl legible

/-! Whole calculations -/

/-- By the length of the list, for every stack. As long as there is more than one term, or a finite
one, the last value is that of an operator, or is finite. -/
theorem Postfix.isFinite_of_run {values terms : List Term} {result : Term}
    (below : ∀ term ∈ values, term.Legible) (ahead : ∀ term ∈ terms, term.Legible)
    (enough : 2 ≤ values.length + terms.length ∨ ∃ value ∈ values, value.magnitude.isFinite)
    (solved : run values terms = .ok result) : result.magnitude.isFinite := by
  induction terms generalizing values with
  | nil =>
      match values with
      | [] => cases solved
      | [value] =>
          have finite : value.magnitude.isFinite := by
            rcases enough with two | ⟨_, member, finite⟩
            · simp at two
            · rwa [List.mem_singleton.mp member] at finite
          rcases Term.finite_or_number_of_solution? (below value (by simp)) solved with
            known | ⟨text, shown, rfl⟩
          · exact known
          · rwa [Term.magnitude_of_numberText? shown] at finite
      | _ :: _ :: _ => cases solved
  | cons term rest ih =>
      have more : ∀ term ∈ rest, term.Legible := fun other member => ahead other (by simp [member])
      have pushed (goesOn : run (term :: values) rest = .ok result) :
          result.magnitude.isFinite := by
        refine ih (List.forall_mem_cons.mpr ⟨ahead term (by simp), below⟩) more ?_ goesOn
        rcases enough with two | ⟨value, member, finite⟩
        · simp only [List.length_cons] at two ⊢
          exact Or.inl (by omega)
        · exact Or.inr ⟨value, by simp [member], finite⟩
      cases term with
      | operator symbol =>
          match values with
          | [] => cases solved
          | [_] => cases solved
          | right :: left :: values =>
              obtain ⟨value, combined, goesOn⟩ := bind_eq_ok.mp solved
              have leftLegible := below left (by simp)
              have rightLegible := below right (by simp)
              have legible :=
                (Term.answers_combine leftLegible rightLegible symbol).value value combined
              have finite := Term.isFinite_of_combine? leftLegible rightLegible combined
              refine ih (List.forall_mem_cons.mpr ⟨legible, ?_⟩) more ?_ goesOn
              · exact fun other member => below other (by simp [member])
              · exact Or.inr ⟨value, by simp, finite⟩
      | _ => exact pushed solved

theorem Postfix.length_of_ofInfix {terms ordered : List Term} {stack : List Arith}
    (read : ofInfix stack terms = .ok ordered) : ordered.length = stack.length + terms.length := by
  induction terms generalizing stack ordered with
  | nil =>
      cases read
      simp [operators]
  | cons term rest ih =>
      cases term with
      | operator symbol =>
          unfold ofInfix at read
          split at read
          · cases read
          · rename_i op _
            obtain ⟨others, found, same⟩ := bind_eq_ok.mp read
            cases same
            have whole := congrArg List.length (List.takeWhile_append_dropWhile
              (p := fun waiting => decide (op.precedence ≤ waiting.precedence)) (l := stack))
            rw [List.length_append] at whole
            rw [List.length_append, ih found]
            simp only [operators, List.length_map, List.length_cons]
            omega
      | _ =>
          obtain ⟨others, found, same⟩ := bind_eq_ok.mp read
          cases same
          rw [List.length_cons, ih found, List.length_cons]
          omega

namespace Expression

theorem finite_or_number_of_solve? {terms : Expression} {result : Term}
    (legible : ∀ term ∈ terms, term.Legible) (solved : solve? terms = .ok result) :
    result.magnitude.isFinite ∨
      ∃ term text, terms = [term] ∧ term.numberText? = some text ∧ result = .number text := by
  match terms with
  | [] => cases solved
  | [term] =>
      rcases Term.finite_or_number_of_solution? (legible term (by simp)) solved with
        finite | ⟨text, shown, same⟩
      · exact Or.inl finite
      · exact Or.inr ⟨term, text, rfl, shown, same⟩
  | first :: second :: rest =>
      left
      obtain ⟨ordered, found, ran⟩ := bind_eq_ok.mp solved
      have read : Postfix.ofInfix [] (first :: second :: rest) = .ok ordered :=
        mapError_eq_ok.mp found
      have settled := Postfix.settles_ofInfix legible []
      rw [read] at settled
      have length := Postfix.length_of_ofInfix read
      simp only [List.length_nil, List.length_cons] at length
      refine Postfix.isFinite_of_run (by simp) settled (Or.inl ?_) ran
      rw [List.length_nil]
      omega

theorem exists_solve? {terms : Expression} {outcome : Outcome} {result : Term}
    (evaluated : evaluate? terms = .ok outcome) (solved : outcome.result = .ok result) :
    ∃ index, lastEquals? terms = some index ∧ solve? (terms.take index) = .ok result := by
  unfold evaluate? at evaluated
  split at evaluated
  · cases evaluated
    cases solved
  · rename_i index found
    split at evaluated
    · rename_i value known
      cases evaluated
      cases solved
      exact ⟨index, found, known⟩
    · cases evaluated
      cases solved
    · cases evaluated

theorem finite_or_number_of_evaluate? {terms : Expression} {outcome : Outcome} {result : Term}
    (legible : ∀ term ∈ terms, term.Legible) (evaluated : evaluate? terms = .ok outcome)
    (solved : outcome.result = .ok result) :
    result.magnitude.isFinite ∨ ∃ index term text, lastEquals? terms = some index ∧
      terms.take index = [term] ∧ term ∈ terms ∧ term.numberText? = some text ∧
      result = .number text := by
  obtain ⟨index, found, known⟩ := exists_solve? evaluated solved
  have before : ∀ term ∈ terms.take index, term.Legible :=
    fun term member => legible term (List.mem_of_mem_take member)
  rcases finite_or_number_of_solve? before known with finite | ⟨term, text, alone, shown, same⟩
  · exact Or.inl finite
  · have member : term ∈ terms := by
      apply List.mem_of_mem_take (i := index)
      rw [alone]
      exact List.mem_singleton_self term
    exact Or.inr ⟨index, term, text, found, alone, member, shown, same⟩

end Expression

/-- A number that is out of range was typed, however often it was evaluated since. -/
theorem Term.Usable.finite_or_typed {term : Term} (usable : term.Usable) {text : Text}
    (shown : term.numberText? = some text) : term.magnitude.isFinite ∨ TidyNumber text := by
  induction usable generalizing text with
  | @typed term tidy _ =>
      cases term with
      | typedNumber other =>
          cases shown
          exact Or.inr tidy
      | number other => cases tidy
      | _ => cases shown
  | operator op => cases shown
  | equals => cases shown
  | result usable evaluated solved typed =>
      have legible := fun term member => (usable term member).legible
      rcases Expression.finite_or_number_of_evaluate? legible evaluated solved with
        finite | ⟨_, term, other, _, _, member, earlier, rfl⟩
      · exact Or.inl finite
      · cases shown
        have known := typed term member earlier
        rwa [magnitude_of_numberText? earlier] at known

/-- A result has a finite value, unless it is a typed number that stood alone and is out of
range. -/
theorem Expression.result_finite_or_lone {terms : Expression}
    (usable : ∀ term ∈ terms, term.Usable) {outcome : Outcome} {result : Term}
    (evaluated : evaluate? terms = .ok outcome) (solved : outcome.result = .ok result) :
    (∃ x, result.numeric? = .ok x ∧ x.isFinite) ∨
      ∃ index text, lastEquals? terms = some index ∧
        (terms.take index = [.typedNumber text] ∨ terms.take index = [.number text]) ∧
        TidyNumber text ∧ result = .number text ∧
        result.numeric? = .error (.calc (.invalid .numberTooLarge)) := by
  have read := (Term.Usable.result usable evaluated solved).legible.numeric?_eq
  rw [UnitRule.finite_eq] at read
  cases known : result.magnitude.isFinite with
  | true =>
      rw [if_pos known] at read
      exact Or.inl ⟨_, read, known⟩
  | false =>
      right
      have legible := fun term member => (usable term member).legible
      rcases finite_or_number_of_evaluate? legible evaluated solved with
        finite | ⟨index, term, text, found, alone, member, shown, same⟩
      · rw [known] at finite
        cases finite
      · have tidy : TidyNumber text := by
          refine ((usable term member).finite_or_typed shown).resolve_left ?_
          rw [same] at known
          rw [Term.magnitude_of_numberText? shown]
          intro finite
          cases known.symm.trans finite
        have lone : terms.take index = [.typedNumber text] ∨ terms.take index = [.number text] := by
          rw [alone]
          cases term <;> cases shown
          · exact Or.inl rfl
          · exact Or.inr rfl
        rw [known] at read
        exact ⟨index, text, found, lone, tidy, same, read⟩

/-- `1.5 + 2`, going on from an evaluated `1.5`. -/
theorem sum_with_result_finite : ∃ (outcome : Outcome) (result : Term) (x : Binary64),
    Expression.evaluate? [.number "1.5", .operator Arith.plus.symbol, .typedNumber "2",
      .operator equalsSymbol] = .ok outcome ∧
    outcome.result = .ok result ∧ result.numeric? = .ok x ∧ x.isFinite := by
  have first : Term.Usable (.typedNumber "1.5") := .typed ⟨by decide, by decide, by decide⟩ rfl
  have second : Term.Usable (.typedNumber "2") := .typed ⟨by decide, by decide, by decide⟩ rfl
  have alone : ∀ term ∈ ([.typedNumber "1.5", .operator equalsSymbol] : Expression),
      term.Usable :=
    List.forall_mem_cons.mpr ⟨first, List.forall_mem_singleton.mpr .equals⟩
  have earlier : Term.Usable (.number "1.5") :=
    .result alone (Expression.evaluate?_equals [.typedNumber "1.5"]) rfl
  let sum : Expression := [.number "1.5", .operator Arith.plus.symbol, .typedNumber "2"]
  have usable : ∀ term ∈ sum ++ [.operator equalsSymbol], term.Usable := by
    intro term member
    simp only [sum, List.cons_append, List.nil_append, List.mem_cons, List.not_mem_nil,
      or_false] at member
    rcases member with rfl | rfl | rfl | rfl
    · exact earlier
    · exact .operator .plus
    · exact second
    · exact .equals
  have solved : Expression.solve? sum = .ok (.number "3.5") := by decide +kernel
  have evaluated := Expression.evaluate?_equals sum
  rw [solved] at evaluated
  rcases Expression.result_finite_or_lone usable evaluated rfl with
    ⟨x, read, finite⟩ | ⟨index, text, found, lone, _⟩
  · exact ⟨_, _, x, evaluated, rfl, read, finite⟩
  · have last : Expression.lastEquals? (sum ++ [.operator equalsSymbol]) = some 3 := by decide
    obtain rfl : 3 = index := Option.some.inj (last.symm.trans found)
    simp [sum] at lone

/-- A number of 309 nines is its own result, and cannot be read. -/
theorem huge_number_alone :
    let nines : Text := List.replicate 309 (.char '9')
    (∀ term ∈ ([.typedNumber nines, .operator equalsSymbol] : Expression), term.Usable) ∧
      ∃ outcome, Expression.evaluate? [.typedNumber nines, .operator equalsSymbol] = .ok outcome ∧
        outcome.result = .ok (.number nines) ∧
        (Term.number nines).numeric? = .error (.calc (.invalid .numberTooLarge)) := by
  intro nines
  refine ⟨?_, _, Expression.evaluate?_equals [.typedNumber nines], rfl, by decide +kernel⟩
  have tidy : TidyNumber nines := by
    refine ⟨by decide, ?_, by decide +kernel⟩
    intro c member
    exact Or.inr ⟨9, List.eq_of_mem_replicate member⟩
  have typed : Term.Usable (.typedNumber nines) := .typed tidy rfl
  exact List.forall_mem_cons.mpr ⟨typed, List.forall_mem_singleton.mpr .equals⟩

end FeetInches
