import FeetInches.Proofs.Evaluation.Legible
/-!
The magnitudes that a calculation comes to on its way decide how it can end. One that is out of
range ends it with an error for the display, and a measure that is the greatest number ends it with
a fault; there are no other faults.
-/

namespace FeetInches

/-- A step of a calculation: the magnitudes that it reads, and what it forms of them. -/
structure Formation where
  read : List Binary64
  formed : Subtotal
  deriving DecidableEq

namespace Formation

def ReadsFinite (f : Formation) : Prop := ∀ x ∈ f.read, x.isFinite

theorem readsFinite_pair (a b : Binary64) (s : Subtotal) :
    ReadsFinite ⟨[a, b], s⟩ ↔ (a.isFinite && b.isFinite) = true := by
  simp [ReadsFinite]

instance (f : Formation) : Decidable f.ReadsFinite :=
  inferInstanceAs (Decidable (∀ x ∈ f.read, x.isFinite))

def ReachesGreatest (f : Formation) : Prop := f.ReadsFinite ∧ f.formed.IsGreatest

def LeavesRange (f : Formation) : Prop := ¬ (f.ReadsFinite ∧ f.formed.total.isFinite)

def term? (f : Formation) : Except Failure Term :=
  if f.ReadsFinite then f.formed.term? else .error (.calc (.invalid .numberTooLarge))

def after {ε α : Type} (x : Except ε α) (next : α → List Formation) : List Formation :=
  match x with
  | .ok value => next value
  | .error _ => []

end Formation

namespace Term

/-- What an operator forms of two terms; nothing without a rule, or where zero divides. -/
def formation? (left : Term) (symbol : Text) (right : Term) : Option Formation := do
  let op ← Arith.ofSymbol? symbol
  let leftKind ← left.kind?.toOption
  let rightKind ← right.kind?.toOption
  let form ← UnitRule.subtotal? leftKind op rightKind
  if op = .dividedBy ∧ right.magnitude.isZero then none
  else some ⟨[left.magnitude, right.magnitude], form left.magnitude right.magnitude⟩

def formations : Term → List Formation
  | typedLength l => [⟨[l.magnitude], .length l.magnitude⟩]
  | _ => []

end Term

def Postfix.formations (values : List Term) : List Term → List Formation
  | [] =>
    match values with
    | [value] => value.formations
    | _ => []
  | .operator symbol :: rest =>
    match values with
    | right :: left :: below =>
      (left.formation? symbol right).toList ++
        Formation.after (left.combine? symbol right) fun value => formations (value :: below) rest
    | _ => []
  | term :: rest => formations (term :: values) rest

namespace Expression

def formations (terms : Expression) : List Formation :=
  match lastEquals? terms with
  | none => []
  | some index => Formation.after (Postfix.ofInfix [] (terms.take index)) (Postfix.formations [])

/-- On the way to its result the expression comes to a measure that is the greatest number. -/
def ReachesGreatest (terms : Expression) : Prop :=
  ∃ f ∈ terms.formations, f.ReachesGreatest

def LeavesRange (terms : Expression) : Prop :=
  ∃ f ∈ terms.formations, f.LeavesRange

end Expression

/-! What a calculation answers -/

/-- The calculation ends with a fault, or with the error for a number that is too large, exactly
if its formations say so; and there is no other fault. -/
structure Answers {α : Type} (Q : α → Prop) (formations : List Formation) (x : Except Failure α) :
    Prop where
  greatest : x = .error (.fault (.range .integerTooLarge)) ↔
    ∃ f ∈ formations, f.ReachesGreatest
  tooLarge : x = .error (.calc (.invalid .numberTooLarge)) ↔
    ∃ f ∈ formations, f.LeavesRange
  fault : ∀ fault, x = .error (.fault fault) → fault = .range .integerTooLarge
  value : ∀ value, x = .ok value → Q value

section Answers

variable {α β : Type} {Q : α → Prop} {R : β → Prop}

theorem answers_ok {value : α} (holds : Q value) : Answers Q [] (.ok value) :=
  ⟨by simp, by simp, by simp, by simpa using holds⟩

theorem answers_error {error : CalcError} (other : error ≠ .invalid .numberTooLarge) :
    Answers Q [] (.error (.calc error)) :=
  ⟨by simp, by simpa using other, by simp, by simp⟩

theorem Answers.error {formations : List Formation} {failure : Failure}
    (answers : Answers Q formations (.error failure)) : Answers R formations (.error failure) :=
  ⟨by simpa using answers.greatest, by simpa using answers.tooLarge,
    by simpa using answers.fault, by simp⟩

theorem exists_mem_append {p : Formation → Prop} {front back : List Formation}
    (absent : ¬ ∃ f ∈ front, p f) : (∃ f ∈ back, p f) ↔ ∃ f ∈ front ++ back, p f := by
  constructor
  · rintro ⟨f, member, holds⟩
    exact ⟨f, List.mem_append_right front member, holds⟩
  · rintro ⟨f, member, holds⟩
    rcases List.mem_append.mp member with member | member
    · exact absurd ⟨f, member, holds⟩ absent
    · exact ⟨f, member, holds⟩

theorem Answers.bind {formations : List Formation} {x : Except Failure α} {f : α → Except Failure β}
    {next : α → List Formation} (first : Answers Q formations x)
    (goesOn : ∀ value, Q value → Answers R (next value) (f value)) :
    Answers R (formations ++ Formation.after x next) (x >>= f) := by
  cases x with
  | error failure =>
      rw [Formation.after, List.append_nil]
      exact first.error
  | ok value =>
      have rest := goesOn value (first.value value rfl)
      have below : ¬ ∃ f ∈ formations, f.ReachesGreatest := by
        rw [← first.greatest]
        simp
      have inRange : ¬ ∃ f ∈ formations, f.LeavesRange := by
        rw [← first.tooLarge]
        simp
      exact ⟨rest.greatest.trans (exists_mem_append below),
        rest.tooLarge.trans (exists_mem_append inRange), rest.fault, rest.value⟩

end Answers

theorem answers_formation (f : Formation) : Answers Term.Legible [f] f.term? := by
  unfold Formation.term?
  by_cases read : f.ReadsFinite
  · rw [if_pos read, Subtotal.term?_eq]
    cases known : f.formed.total.isFinite with
    | false =>
        have other : ¬ f.formed.IsGreatest := by
          intro greatest
          rw [Binary64.isFinite_of_abs_greatest greatest.2] at known
          cases known
        constructor <;> simp [Formation.ReachesGreatest, Formation.LeavesRange, known, other]
    | true =>
        by_cases greatest : f.formed.IsGreatest
        · rw [if_pos rfl, Subtotal.shown?_of_isGreatest greatest]
          constructor <;>
            simp [Formation.ReachesGreatest, Formation.LeavesRange, read, known, greatest]
        · obtain ⟨term, shown, legible⟩ := Subtotal.exists_shown? known greatest
          rw [if_pos rfl, shown]
          constructor <;>
            simp [Formation.ReachesGreatest, Formation.LeavesRange, read, known, greatest, legible]
  · rw [if_neg read]
    constructor <;> simp [Formation.ReachesGreatest, Formation.LeavesRange, read]

/-! The steps -/

namespace UnitRule

theorem divisor_finite (b : Binary64) :
    divisor (finite b) = if b.isZero then .error (.calc .divisionByZero) else finite b := by
  rw [divisor, finite_eq]
  cases b with
  | nan => rfl
  | infinite negative => rfl
  | finite negative mantissa exponent canonical => rfl

theorem finite_pair (x y : Binary64) (pair : Binary64 → Binary64 → Binary64 × Binary64) :
    (do let first ← finite x; let second ← finite y; return pair first second) =
      if x.isFinite && y.isFinite then .ok (pair x y)
      else .error (.calc (.invalid .numberTooLarge)) := by
  rw [finite_eq, finite_eq]
  cases x.isFinite <;> cases y.isFinite <;> rfl

theorem totals_eq {left right : Quantity} {a b : Binary64} (op : Arith)
    (leftRead : left.total = finite a) (rightRead : right.total = finite b) :
    totals left op right =
      if op = .dividedBy ∧ b.isZero then .error (.calc .divisionByZero)
      else if a.isFinite && b.isFinite then .ok (a, b)
      else .error (.calc (.invalid .numberTooLarge)) := by
  have rightFirst := finite_pair b a fun second first => (first, second)
  rw [Bool.and_comm] at rightFirst
  unfold totals
  rw [leftRead, rightRead, divisor_finite]
  by_cases divides : op = .dividedBy
  · by_cases zero : b.isZero
    · simp only [divides, zero, if_true, and_self]
      rfl
    · simp only [divides, zero, if_true, if_false, Bool.false_eq_true, and_false]
      exact rightFirst
  · simp only [divides, if_false, false_and]
    split
    · exact rightFirst
    · exact finite_pair a b Prod.mk

end UnitRule

namespace Term

theorem combine?_formed {left right : Term} (leftLegible : left.Legible)
    (rightLegible : right.Legible) (symbol : Text) :
    (∃ f, left.formation? symbol right = some f ∧ left.combine? symbol right = f.term?) ∨
      (left.formation? symbol right = none ∧ ∃ error, error ≠ .invalid .numberTooLarge ∧
        left.combine? symbol right = .error (.calc error)) := by
  obtain ⟨leftQuantity, leftRead, leftKind, leftTotal⟩ := leftLegible.reads
  obtain ⟨rightQuantity, rightRead, rightKind, rightTotal⟩ := rightLegible.reads
  have unsupported : CalcError.unsupported leftQuantity.kind symbol rightQuantity.kind ≠
      .invalid .numberTooLarge := by simp
  rw [combine?_of_quantities leftRead rightRead, formation?, leftKind, rightKind]
  cases Arith.ofSymbol? symbol with
  | none => exact Or.inr ⟨rfl, _, unsupported, rfl⟩
  | some op =>
      rw [Option.bind_some, UnitRule.result?_eq, UnitRule.totals_eq op leftTotal rightTotal]
      simp only [Except.toOption, Option.bind_eq_bind, Option.bind_some]
      cases UnitRule.subtotal? leftQuantity.kind op rightQuantity.kind with
      | none => exact Or.inr ⟨rfl, _, unsupported, rfl⟩
      | some form =>
          simp only [Option.bind_some, Option.map_some]
          split
          · exact Or.inr ⟨rfl, _, by simp, rfl⟩
          · refine Or.inl ⟨_, rfl, ?_⟩
            simp only [Formation.term?, Formation.readsFinite_pair]
            cases left.magnitude.isFinite && right.magnitude.isFinite <;> rfl

theorem answers_combine {left right : Term} (leftLegible : left.Legible)
    (rightLegible : right.Legible) (symbol : Text) :
    Answers Legible (left.formation? symbol right).toList (left.combine? symbol right) := by
  rcases combine?_formed leftLegible rightLegible symbol with ⟨f, formed, combined⟩ |
    ⟨formless, error, other, combined⟩
  · rw [formed, combined]
    exact answers_formation f
  · rw [formless, combined]
    exact answers_error other

theorem answers_solution {term : Term} (legible : term.Legible) :
    Answers Legible term.formations term.solution? := by
  cases term with
  | typedLength l =>
      have solved : (typedLength l).solution? =
          Formation.term? ⟨[l.magnitude], .length l.magnitude⟩ := by
        rw [solution?, TypedLength.inches?_eq legible, UnitRule.finite_eq, Formation.term?]
        cases known : l.magnitude.isFinite <;> simp [Formation.ReadsFinite, known] <;> rfl
      rw [solved]
      exact answers_formation _
  | typedNumber text => exact answers_ok legible
  | operator symbol => exact answers_error (by simp)
  | keyPress key => cases legible
  | _ => exact answers_ok legible

end Term

/-! Whole calculations -/

/-- By the length of the list, for every stack: a step leaves a term that can be read. -/
theorem Postfix.answers_run {values terms : List Term} (below : ∀ term ∈ values, term.Legible)
    (ahead : ∀ term ∈ terms, term.Legible) :
    Answers Term.Legible (formations values terms) (run values terms) := by
  induction terms generalizing values with
  | nil =>
      match values with
      | [] => exact answers_error (by simp)
      | [value] => exact Term.answers_solution (below value (by simp))
      | _ :: _ :: _ => exact answers_error (by simp)
  | cons term rest ih =>
      have more : ∀ term ∈ rest, term.Legible := fun other member => ahead other (by simp [member])
      have pushed : Answers Term.Legible (formations (term :: values) rest)
          (run (term :: values) rest) := by
        apply ih _ more
        intro other member
        rcases List.mem_cons.mp member with rfl | member
        · exact ahead _ (by simp)
        · exact below other member
      cases term with
      | operator symbol =>
          match values with
          | [] => exact answers_error (by simp)
          | [_] => exact answers_error (by simp)
          | right :: left :: values =>
              have combined :=
                Term.answers_combine (below left (by simp)) (below right (by simp)) symbol
              apply combined.bind
              intro value legible
              apply ih _ more
              intro other member
              rcases List.mem_cons.mp member with rfl | member
              · exact legible
              · exact below other (by simp [member])
      | _ => exact pushed

theorem Postfix.settles_ofInfix {terms : List Term} (legible : ∀ term ∈ terms, term.Legible)
    (stack : List Arith) :
    Settles (fun error => error ≠ .invalid .numberTooLarge)
      (fun ordered => ∀ term ∈ ordered, term.Legible) (ofInfix stack terms) := by
  have operators (ops : List Arith) : ∀ term ∈ operators ops, term.Legible := by
    intro term member
    obtain ⟨op, _, rfl⟩ := List.mem_map.mp member
    exact trivial
  induction terms generalizing stack with
  | nil => exact operators stack
  | cons term rest ih =>
      have more : ∀ term ∈ rest, term.Legible :=
        fun other member => legible other (by simp [member])
      cases term with
      | operator symbol =>
          unfold ofInfix
          split
          · intro same
            cases same
          · apply settles_bind (ih more _)
            intro others found term member
            rcases List.mem_append.mp member with member | member
            · exact operators _ term member
            · exact found term member
      | _ =>
          apply settles_bind (ih more _)
          intro others found term member
          rcases List.mem_cons.mp member with rfl | member
          · exact legible _ (by simp)
          · exact found term member

namespace Expression

theorem answers_solve {terms : Expression} (legible : ∀ term ∈ terms, term.Legible) :
    Answers Term.Legible (Formation.after (Postfix.ofInfix [] terms) (Postfix.formations []))
      (solve? terms) := by
  have ordered : Answers Term.Legible
      (Formation.after (Postfix.ofInfix [] terms) (Postfix.formations []))
      ((Postfix.ofInfix [] terms : Except Failure (List Term)) >>= Postfix.run []) := by
    have settled := Postfix.settles_ofInfix legible []
    cases read : Postfix.ofInfix [] terms with
    | error error =>
        rw [read] at settled
        exact answers_error settled
    | ok ordered =>
        rw [read] at settled
        exact Postfix.answers_run (by simp) settled
  match terms with
  | [] => exact answers_error (by simp)
  | [term] =>
      cases term with
      | operator symbol =>
          -- a lone operator forms nothing, whether it can be ordered or not
          have nothing : Formation.after (Postfix.ofInfix [] [.operator symbol])
              (Postfix.formations []) = [] := by
            unfold Postfix.ofInfix
            split <;> rfl
          rw [nothing]
          exact answers_error (by simp)
      | _ => exact ordered
  | _ :: _ :: _ => exact ordered

/-- The magnitudes that an expression comes to decide whether its evaluation has an outcome, and
whether the outcome is that a number is too large. -/
theorem evaluate?_settles {terms : Expression} (legible : ∀ term ∈ terms, term.Legible) :
    (terms.ReachesGreatest ∧ evaluate? terms = .error (.range .integerTooLarge)) ∨
      (¬ terms.ReachesGreatest ∧ ∃ outcome, evaluate? terms = .ok outcome ∧
        (outcome.error? = some (.invalid .numberTooLarge) ↔ terms.LeavesRange) ∧
        ∀ result, outcome.result = .ok result → result.Legible) := by
  unfold ReachesGreatest LeavesRange formations evaluate?
  cases lastEquals? terms with
  | none =>
      right
      exact ⟨by simp, _, rfl, by simp [Outcome.error?], by simp⟩
  | some index =>
      have before : ∀ term ∈ terms.take index, term.Legible :=
        fun term member => legible term (List.mem_of_mem_take member)
      have answers := answers_solve before
      simp only
      rw [← answers.greatest, ← answers.tooLarge]
      rcases solved : solve? (terms.take index) with (error | fault) | result
      · right
        exact ⟨by simp, _, rfl, by simp [Outcome.error?], by simp⟩
      · left
        rw [answers.fault fault solved]
        exact ⟨rfl, rfl⟩
      · right
        refine ⟨by simp, _, rfl, by simp [Outcome.error?], ?_⟩
        rintro _ ⟨⟩
        exact answers.value result solved

theorem legible_of_evaluate? {terms : Expression} (legible : ∀ term ∈ terms, term.Legible)
    {outcome : Outcome} {result : Term} (evaluated : evaluate? terms = .ok outcome)
    (solved : outcome.result = .ok result) :
    result.Legible := by
  rcases evaluate?_settles legible with ⟨_, fault⟩ | ⟨_, settled, same, _, readable⟩
  · rw [fault] at evaluated
    cases evaluated
  · rw [same] at evaluated
    cases evaluated
    exact readable result solved

end Expression

/-- What an evaluation can be given: what can be typed, operators, and results of evaluations. -/
inductive Term.Usable : Term → Prop where
  | typed {term : Term} (tidy : term.Tidy) (operand : term.isOperand) : Usable term
  | operator (op : Arith) : Usable (.operator op.symbol)
  | equals : Usable (.operator equalsSymbol)
  | result {terms : Expression} {outcome : Outcome} {result : Term}
      (usable : ∀ term ∈ terms, Usable term) (evaluated : Expression.evaluate? terms = .ok outcome)
      (solved : outcome.result = .ok result) : Usable result

theorem Term.Usable.legible {term : Term} (usable : term.Usable) : term.Legible := by
  induction usable with
  | typed tidy _ => exact legible_of_tidy tidy
  | operator op => exact trivial
  | equals => exact trivial
  | result _ evaluated solved legible =>
      exact Expression.legible_of_evaluate? legible evaluated solved

end FeetInches
