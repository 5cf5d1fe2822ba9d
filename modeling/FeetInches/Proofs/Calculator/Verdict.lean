import FeetInches.Proofs.Calculator.Invariant
import FeetInches.Proofs.Expression.Display
/-!
What a key press comes to. The expression on the display decides whether the key is rejected, and
with which error; the mode, the timers and the way there have no say in it.
-/

namespace FeetInches

namespace Calculator

def Rejects (c : Calculator) (key : Key) (error : CalcError) : Prop :=
  ∃ next reply, c.press key = (next, .ok reply) ∧ reply.accepted = false ∧
    reply.error = some error

def Accepts (c : Calculator) (key : Key) : Prop :=
  ∃ next reply, c.press key = (next, .ok reply) ∧ reply.accepted = true ∧ reply.error = none

end Calculator

namespace Expression

def EndsInOperator (terms : Expression) : Prop :=
  ∃ front symbol, terms = front ++ [.operator symbol]

def EndsInOther (terms : Expression) (key : Key) : Prop :=
  ∃ front last, terms = front ++ [last] ∧ last.isOperand ∧ last.isResult = false ∧
    last.mode ≠ key.entryMode

/-- What an expression objects to. -/
inductive Refuses (terms : Expression) (key : Key) : CalcError → Prop where
  | emptyExpression : key.isOperator → terms = [] → Refuses terms key .emptyExpression
  | consecutiveOperator : key.isOperator → terms.EndsInOperator →
      Refuses terms key .consecutiveOperator
  | mixedType : key.isOperand → terms.EndsInOther key → Refuses terms key .mixedType

theorem refuses_operand {terms : Expression} {key : Key} (operand : key.isOperand)
    (error : CalcError) :
    Refuses terms key error ↔ error = .mixedType ∧ terms.EndsInOther key := by
  have notOperator := Key.not_isOperator_of_isOperand operand
  constructor
  · rintro (⟨operator, _⟩ | ⟨operator, _⟩ | ⟨_, other⟩)
    · simp [notOperator] at operator
    · simp [notOperator] at operator
    · exact ⟨rfl, other⟩
  · rintro ⟨rfl, other⟩
    exact .mixedType operand other

theorem refuses_operator {terms : Expression} {key : Key} (operator : key.isOperator)
    (error : CalcError) :
    Refuses terms key error ↔ error = .emptyExpression ∧ terms = [] ∨
      error = .consecutiveOperator ∧ terms.EndsInOperator := by
  constructor
  · rintro (⟨_, empty⟩ | ⟨_, ends⟩ | ⟨operand, _⟩)
    · exact Or.inl ⟨rfl, empty⟩
    · exact Or.inr ⟨rfl, ends⟩
    · simp [Key.not_isOperator_of_isOperand operand] at operator
  · rintro (⟨rfl, empty⟩ | ⟨rfl, ends⟩)
    · exact .emptyExpression operator empty
    · exact .consecutiveOperator operator ends

theorem awaitsOperand_iff {terms : Expression} (nonempty : terms ≠ []) :
    terms.AwaitsOperand ↔ terms.EndsInOperator := by
  obtain ⟨front, last, rfl⟩ := (List.eq_nil_or_concat' terms).resolve_left nonempty
  rw [awaitsOperand_concat]
  constructor
  · intro operator
    cases last with
    | operator symbol => exact ⟨front, symbol, rfl⟩
    | _ => cases operator
  · rintro ⟨other, symbol, same⟩
    rw [(List.append_inj' same rfl).2 |> List.singleton_inj.mp]
    rfl

end Expression

namespace Calculator

variable {c : Calculator} {key : Key}

theorem Rejects.unique {error other : CalcError} (rejects : c.Rejects key error)
    (again : c.Rejects key other) : error = other := by
  obtain ⟨_, _, done, _, shown⟩ := rejects
  obtain ⟨_, _, doneAgain, _, shownAgain⟩ := again
  cases done.symm.trans doneAgain
  exact Option.some.inj (shown.symm.trans shownAgain)

theorem Rejects.not_accepts {error : CalcError} (rejects : c.Rejects key error) :
    ¬ c.Accepts key := by
  rintro ⟨_, _, doneAgain, accepted, _⟩
  obtain ⟨_, _, done, rejected, _⟩ := rejects
  cases done.symm.trans doneAgain
  rw [rejected] at accepted
  cases accepted

theorem display_act (shown : ∃ text, c.display? = .ok text) {action : Action} {next : Calculator}
    {answer : Answer} (done : c.act action = (next, .ok answer)) :
    ∃ text, next.display? = .ok text := by
  cases acted_of_act done with
  | entered key reply _ done => exact ⟨reply.display, (faithful_enter c key next reply done).1⟩
  | erased reply done => exact ⟨reply.display, (faithful_backspace c next reply done).1⟩
  | cleared same =>
      rw [same]
      exact ⟨[], rfl⟩
  | reset same =>
      rw [same]
      exact ⟨[], rfl⟩
  | recovered same =>
      rw [same, recover_frame]
      exact shown
  | turned denominator reply _ done =>
      exact ⟨reply.display, (faithful_setDenominator c denominator next reply done).1⟩
  | closed same =>
      rw [same]
      exact shown
  | fired timer same =>
      rw [same, display?, fire_terms]
      exact shown

theorem display_of_run {first : Calculator} {events : List Event} (run : Run first events c)
    (shown : ∃ text, first.display? = .ok text) : ∃ text, c.display? = .ok text := by
  induction run with
  | start => exact shown
  | act _ _ done before => exact display_act before done

/-- A calculator that a run leads to is sound, and its display can be written. -/
theorem sound_of_reached (reached : c.Reached) :
    c.Sound ∧ ∃ text, c.display? = .ok text := by
  obtain ⟨settings, events, valid, run⟩ := reached
  exact ⟨run.sound (sound_fresh valid), display_of_run run ⟨[], rfl⟩⟩

theorem readied_display (shown : ∃ text, c.display? = .ok text) (key : Key) :
    ∃ text, (c.readied key).display? = .ok text := by
  unfold display? terms at *
  rcases c.readied_terms key with ⟨carry, log⟩ | ⟨_, _, _, carry, log⟩
  · rw [carry, log]
    exact shown
  · rw [carry, log]
    exact ⟨[], rfl⟩

theorem Sound.tidy_last (sound : c.Sound) (apart : c.carry = none ∨ c.log ≠ []) {front : Expression}
    {last : Term} (shape : c.terms = front ++ [last]) : last.Tidy := by
  have member : last ∈ Expression.ofKeys c.log := by
    have found : c.terms.getLast? = some last := by rw [shape, List.getLast?_concat]
    unfold terms at found
    rcases apart with dropped | typed
    · rw [dropped] at found
      exact List.mem_of_mem_getLast? found
    · rw [List.getLast?_append_of_ne_nil _ (Expression.ofKeys_ne_nil sound.order.plain typed)]
        at found
      exact List.mem_of_mem_getLast? found
  exact Typing.tidy_ofKeys c.log last member

theorem Sound.refusal?_operand (sound : c.Sound) (tracked : c.keypad.mode = c.terms.mode)
    (operand : key.isOperand) (apart : c.carry = none ∨ c.log ≠ []) (error : CalcError) :
    c.refusal? key = some error ↔ c.terms.Refuses key error := by
  rw [Expression.refuses_operand operand, refusal?, tracked]
  rcases FeetInches.refusal?_operand c.terms operand c.log.getLast? with ⟨ready, same⟩ |
    ⟨notInput, other, mixed⟩
  · rw [same]
    refine ⟨fun found => (by cases found), ?_⟩
    rintro ⟨_, front, last, shape, isOperand, _, different⟩
    rw [shape, Expression.mode_concat] at ready
    rcases ready with input | same
    · rw [Term.mode_eq_input, isOperand] at input
      cases input
    · exact absurd same different
  · rw [mixed]
    have ends : c.terms.EndsInOther key := by
      rcases List.eq_nil_or_concat' c.terms with empty | ⟨front, last, shape⟩
      · rw [empty] at notInput
        exact absurd rfl notInput
      · rw [shape, Expression.mode_concat] at notInput other
        refine ⟨front, last, shape, ?_, ?_, other⟩
        · simpa [Term.mode_eq_input] using notInput
        · exact Term.not_isResult_of_tidy (sound.tidy_last apart shape)
    exact ⟨fun found => ⟨(Option.some.inj found).symm, ends⟩, fun same => by rw [same.1]⟩

theorem Sound.refusal?_operator (sound : c.Sound) (tracked : c.keypad.mode = c.terms.mode)
    (operator : key.isOperator) (error : CalcError) :
    c.refusal? key = some error ↔ c.terms.Refuses key error := by
  have verdict : let found := c.terms.mode.refusal? key c.log.getLast?
      (c.terms = [] ∧ found = some .emptyExpression) ∨
        (c.terms ≠ [] ∧ c.terms.AwaitsOperand ∧ found = some .consecutiveOperator) ∨
        (¬ c.terms.AwaitsOperand ∧ found = none) :=
    FeetInches.refusal?_operator sound.order.results sound.order.plain sound.order.alternates
      operator
  rw [Expression.refuses_operator operator, refusal?, tracked]
  rcases verdict with ⟨empty, refused⟩ | ⟨nonempty, awaits, refused⟩ | ⟨ended, passed⟩
  · rw [refused, empty]
    have notEnds : ¬ Expression.EndsInOperator [] := by simp [Expression.EndsInOperator]
    simp [notEnds, eq_comm]
  · have ends := (Expression.awaitsOperand_iff nonempty).mp awaits
    rw [refused]
    simp [nonempty, ends, eq_comm]
  · have nonempty : c.terms ≠ [] := by
      rintro empty
      exact ended (by simp [empty])
    rw [Expression.awaitsOperand_iff nonempty] at ended
    rw [passed]
    simp [nonempty, ended]

/-- A key is refused where it is pressed exactly if the expression on the display objects. -/
theorem refusal?_iff (sound : c.Sound) (plain : key.isControl = false) (error : CalcError) :
    (c.readied key).refusal? key = some error ↔ c.terms.Refuses key error := by
  obtain ⟨ready, tracked, apart⟩ := sound.readied key
  have same : (c.readied key).terms.Refuses key error ↔ c.terms.Refuses key error := by
    rcases c.readied_terms key with ⟨carry, log⟩ | ⟨operand, ⟨result, carried⟩, empty, dropped, log⟩
    · rw [terms, carry, log]
      rfl
    · -- an operand behind a result meets an empty expression, and neither objects to it
      have isResult := sound.order.carried result carried
      rw [Expression.refuses_operand operand, Expression.refuses_operand operand]
      unfold terms
      rw [dropped, log, carried, empty]
      refine and_congr_right fun _ => ⟨?_, ?_⟩
      · rintro ⟨front, last, shape, _⟩
        simp at shape
      · rintro ⟨front, last, shape, _, typed, _⟩
        have last := (List.append_inj' (show [] ++ [result] = front ++ [last] from shape) rfl).2
        rw [List.singleton_inj.mp last, typed] at isResult
        cases isResult
  rcases key.cases_kind with operand | operator | control
  · rw [ready.refusal?_operand tracked operand (apart operand), same]
  · rw [ready.refusal?_operator tracked operator, same]
  · simp [plain] at control

theorem rejects_of_refuses (sound : c.Sound) (shown : ∃ text, c.display? = .ok text)
    (plain : key.isControl = false) {error : CalcError} (refuses : c.terms.Refuses key error) :
    c.Rejects key error := by
  obtain ⟨text, readiedShown⟩ := readied_display shown key
  have refused := (refusal?_iff sound plain error).mpr refuses
  rw [Rejects, press_eq_enter c plain, enter_eq, refused]
  refine ⟨_, _, reply_eq_ok.mpr ⟨rfl, text, ?_, rfl⟩, rfl, rejecting_error _ error⟩
  rw [← readiedShown]
  exact rejecting_display _ error

theorem press_of_admitted (sound : c.Sound) (plain : key.isControl = false)
    (admitted : ∀ error, ¬ c.terms.Refuses key error) :
    (c.readied key).refusal? key = none ∧ c.press key =
      if key = .equals then ((c.readied key).typed key).evaluate
      else ((c.readied key).typed key).reply true := by
  have passed : (c.readied key).refusal? key = none := by
    cases refused : (c.readied key).refusal? key with
    | none => rfl
    | some error => exact absurd ((refusal?_iff sound plain error).mp refused) (admitted error)
  refine ⟨passed, ?_⟩
  rw [press_eq_enter c plain, enter_eq, passed]

theorem readied_overflows (steady : c.Steady) :
    (c.readied key).terms.Overflows key ↔ c.terms.Overflows key := by
  rcases c.readied_terms key with ⟨carry, log⟩ | ⟨operand, ⟨result, carried⟩, empty, dropped, log⟩
  · rw [terms, carry, log]
    rfl
  · unfold terms Expression.Overflows
    rw [Expression.openLength_append steady.results, dropped, log, empty]
    rfl

theorem press_of_overflow (sound : c.Sound) (shown : ∃ text, c.display? = .ok text)
    (plain : key.isControl = false) (notEquals : key ≠ .equals)
    (admitted : ∀ error, ¬ c.terms.Refuses key error) :
    (¬ c.terms.Overflows key → c.Accepts key) ∧
      (c.terms.Overflows key → (c.press key).2 = .error .integerTooLong) := by
  obtain ⟨text, readiedShown⟩ := readied_display shown key
  have ready := (sound.readied key).1
  have writes := Expression.typed_writes ready.order.results plain readiedShown
  change WritesIf (¬ (c.readied key).terms.Overflows key) ((c.readied key).typed key).display?
    at writes
  rw [readied_overflows sound.steady] at writes
  rw [Accepts, (press_of_admitted sound plain admitted).2, if_neg notEquals]
  cases display : ((c.readied key).typed key).display? with
  | error fault =>
      rw [display] at writes
      refine ⟨fun fits => absurd fits writes.2, fun _ => ?_⟩
      rw [← writes.1, Calculator.reply, display]
      rfl
  | ok text =>
      rw [display] at writes
      refine ⟨fun _ => ?_, fun long => absurd long writes⟩
      exact ⟨_, _, reply_eq_ok.mpr ⟨rfl, text, display, rfl⟩, rfl, rfl⟩

/-- An equals sign that the expression does not object to is accepted, or its calculation fails. -/
theorem press_equals_of_admitted (sound : c.Sound)
    (admitted : ∀ error, ¬ c.terms.Refuses .equals error) {next : Calculator} {reply : Reply}
    (done : c.press .equals = (next, .ok reply)) :
    c.Accepts .equals ∨ ∃ error, c.Rejects .equals error ∧ error.OfValues := by
  obtain ⟨ready, tracked, _⟩ := sound.readied .equals
  have passed := (press_of_admitted sound rfl admitted).1
  have settled := Expression.calculated_solve (ready.complete tracked passed)
  have pressed := done
  rw [press_eq_enter c rfl] at pressed
  cases entered pressed with
  | refused error refused =>
      rw [passed] at refused
      cases refused
  | failed error _ _ failed _ rejected shown =>
      rw [failed] at settled
      exact Or.inr ⟨error, ⟨next, reply, done, rejected, shown⟩, settled⟩
  | calculated _ _ _ _ _ _ _ accepted shown => exact Or.inl ⟨next, reply, done, accepted, shown⟩
  | taken notEquals => exact absurd rfl notEquals

theorem refuses_of_rejects (sound : c.Sound) (shown : ∃ text, c.display? = .ok text)
    (plain : key.isControl = false) {error : CalcError} (rejects : c.Rejects key error) :
    c.terms.Refuses key error ∨ key = .equals ∧ error.OfValues := by
  by_cases refused : ∃ other, c.terms.Refuses key other
  · obtain ⟨other, refuses⟩ := refused
    left
    rw [rejects.unique (rejects_of_refuses sound shown plain refuses)]
    exact refuses
  · have admitted := not_exists.mp refused
    by_cases equals : key = .equals
    · subst equals
      have again := rejects
      obtain ⟨next, reply, done, _⟩ := again
      right
      refine ⟨rfl, ?_⟩
      rcases press_equals_of_admitted sound admitted done with accepts | ⟨other, fails, ofValues⟩
      · exact absurd accepts rejects.not_accepts
      · rw [rejects.unique fails]
        exact ofValues
    · obtain ⟨accepts, breaks⟩ := press_of_overflow sound shown plain equals admitted
      by_cases long : c.terms.Overflows key
      · obtain ⟨next, reply, done, _⟩ := rejects
        have broken := breaks long
        rw [done] at broken
        cases broken
      · exact absurd (accepts long) rejects.not_accepts

/-- What a key press does is decided by the expression on the display. -/
theorem press_decided_by_terms (reached : c.Reached) (plain : key.isControl = false) :
    (key.isOperator →
      (c.Rejects key .emptyExpression ↔ c.terms = []) ∧
      (c.Rejects key .consecutiveOperator ↔ c.terms.EndsInOperator)) ∧
    (key.isOperand → ∀ error,
      c.Rejects key error ↔ error = .mixedType ∧ c.terms.EndsInOther key) ∧
    ((∀ error, ¬ c.terms.Refuses key error) → key ≠ .equals →
      (¬ c.terms.Overflows key → c.Accepts key) ∧
      (c.terms.Overflows key → (c.press key).2 = .error .integerTooLong)) ∧
    ((∀ error, ¬ c.terms.Refuses key error) → key = .equals → ∀ next reply,
      c.press key = (next, .ok reply) →
      c.Accepts key ∨ ∃ error, c.Rejects key error ∧ error.OfValues) ∧
    ∀ error, c.Rejects key error →
      error = .emptyExpression ∨ error = .consecutiveOperator ∨ error = .mixedType ∨
        error.OfValues := by
  obtain ⟨sound, shown⟩ := sound_of_reached reached
  have rejected {error : CalcError} (rejects : c.Rejects key error) :=
    refuses_of_rejects sound shown plain rejects
  have rejects {error : CalcError} (refuses : c.terms.Refuses key error) : c.Rejects key error :=
    rejects_of_refuses sound shown plain refuses
  refine ⟨?_, ?_, ?_, ?_, ?_⟩
  · intro operator
    refine ⟨⟨?_, fun empty => rejects (.emptyExpression operator empty)⟩,
      ⟨?_, fun ends => rejects (.consecutiveOperator operator ends)⟩⟩
    · intro refused
      rcases rejected refused with ⟨_, empty⟩ | ⟨_, ofValues⟩
      · exact empty
      · cases ofValues
    · intro refused
      rcases rejected refused with refuses | ⟨_, ofValues⟩
      · cases refuses with
        | consecutiveOperator _ ends => exact ends
      · cases ofValues
  · intro operand error
    rw [← Expression.refuses_operand operand]
    refine ⟨?_, rejects⟩
    intro refused
    rcases rejected refused with refuses | ⟨equals, _⟩
    · exact refuses
    · subst equals
      cases operand
  · intro admitted notEquals
    exact press_of_overflow sound shown plain notEquals admitted
  · intro admitted equals next reply done
    subst equals
    exact press_equals_of_admitted sound admitted done
  · intro error refused
    rcases rejected refused with refuses | ⟨_, ofValues⟩
    · cases refuses with
      | emptyExpression => exact Or.inl rfl
      | consecutiveOperator => exact Or.inr (Or.inl rfl)
      | mixedType => exact Or.inr (Or.inr (Or.inl rfl))
    · exact Or.inr (Or.inr (Or.inr ofValues))

/-- In the error mode, after a second operator, a third one is rejected for the same reason. -/
theorem operator_rejected_again :
    ∃ c : Calculator, c.Reached ∧ c.keypad.mode = .error ∧
      c.Rejects (.operator .times) .consecutiveOperator := by
  obtain ⟨events, c, run, _, seen⟩ := exists_run (fresh {})
    [.press (.digit .feet 5), .press (.operator .plus), .press (.operator .plus)]
    (fun c => c.keypad.mode = .error &&
      c.terms = [.typedLength { feet := 5 }, .operator "+"]) (by decide +kernel)
  simp only [Bool.and_eq_true, decide_eq_true_eq] at seen
  obtain ⟨mode, shape⟩ := seen
  have reached : c.Reached := ⟨{}, events, by decide +kernel, run⟩
  have plain : (Key.operator .times).isControl = false := rfl
  have decided := press_decided_by_terms reached plain
  exact ⟨c, reached, mode, ((decided.1 rfl).2).mpr ⟨[.typedLength { feet := 5 }], _, shape⟩⟩

/-! A count that is too long to be shown -/

def nine : Key := .digit .feet 9

def nines (n : Nat) : Nat := 10 ^ n - 1

theorem nines_succ (n : Nat) : (nines n : Int) * 10 + 9 = nines (n + 1) := by
  have power : 10 ^ (n + 1) = 10 ^ n * 10 := Nat.pow_succ ..
  have positive : 0 < 10 ^ n := Nat.pow_pos (by decide)
  unfold nines
  omega

theorem typeDigit_nines (n : Nat) :
    TypedLength.typeDigit { feet := nines n } .feet 9 = { feet := nines (n + 1) } := by
  rw [← nines_succ]
  rfl

theorem written_nines (n : Nat) : Written (nines n) ↔ n ≤ maxNumeralDigits := by
  have positive : 0 < 10 ^ n := Nat.pow_pos (by decide)
  have smaller : nines n < 10 ^ maxNumeralDigits ↔ 10 ^ n ≤ 10 ^ maxNumeralDigits := by
    unfold nines
    omega
  rw [written_iff, Int.natAbs_natCast, smaller]
  exact Nat.pow_le_pow_iff_right (by decide)

theorem ofKeys_nines (n : Nat) :
    Typing.ofKeys (List.replicate (n + 1) nine) =
      ⟨[], some (.length { feet := nines (n + 1) })⟩ := by
  induction n with
  | zero => rfl
  | succ n ih =>
      rw [List.replicate_succ', Typing.ofKeys_concat, ih, ← typeDigit_nines (n + 1)]
      rfl

theorem terms_nines (n : Nat) :
    (Expression.ofKeys (List.replicate n nine)).openLength = { feet := nines n } ∧
      ¬ (Expression.ofKeys (List.replicate n nine)).EndsInOther nine := by
  cases n with
  | zero =>
      refine ⟨rfl, ?_⟩
      rintro ⟨front, last, shape, _⟩
      simp at shape
  | succ n =>
      rw [Expression.ofKeys_eq_terms, ofKeys_nines]
      refine ⟨rfl, ?_⟩
      rintro ⟨front, last, shape, _, _, other⟩
      have same := (List.append_inj' (show [] ++ [_] = front ++ [last] from shape) rfl).2
      rw [← List.singleton_inj.mp same] at other
      exact other rfl

theorem overflows_nines (n : Nat) :
    (Expression.ofKeys (List.replicate n nine)).Overflows nine ↔ maxNumeralDigits ≤ n := by
  have typed : ∀ pad d, nine = .digit pad d →
      (((Expression.ofKeys (List.replicate n nine)).openLength.typeDigit pad d).count pad) =
        nines (n + 1) := by
    intro pad d same
    cases same
    rw [(terms_nines n).1, typeDigit_nines]
    rfl
  constructor
  · rintro ⟨pad, d, same, long⟩
    rw [typed pad d same, written_nines] at long
    omega
  · intro long
    refine ⟨.feet, 9, rfl, ?_⟩
    rw [typed .feet 9 rfl, written_nines]
    omega

theorem nine_admitted {n : Nat} (carry : c.carry = none) (log : c.log = List.replicate n nine) :
    (∀ error, ¬ c.terms.Refuses nine error) ∧
      (c.terms.Overflows nine ↔ maxNumeralDigits ≤ n) := by
  have shape : c.terms = Expression.ofKeys (List.replicate n nine) := by
    rw [terms, carry, log]
    exact List.nil_append _
  rw [shape]
  refine ⟨?_, overflows_nines n⟩
  intro error
  rw [Expression.refuses_operand rfl]
  exact fun refuses => (terms_nines n).2 refuses.2

theorem reached_nines (n : Nat) (short : n ≤ maxNumeralDigits) :
    ∃ c : Calculator, c.Reached ∧ c.carry = none ∧ c.log = List.replicate n nine := by
  induction n with
  | zero => exact ⟨fresh {}, ⟨{}, [], by decide +kernel, .start⟩, rfl, rfl⟩
  | succ n ih =>
      obtain ⟨c, reached, carry, log⟩ := ih (Nat.le_of_succ_le short)
      obtain ⟨sound, shown⟩ := sound_of_reached reached
      obtain ⟨admitted, overflows⟩ := nine_admitted carry log
      have notEquals : nine ≠ .equals := by simp [nine]
      obtain ⟨next, reply, done, _⟩ :=
        (press_of_overflow sound shown rfl notEquals admitted).1 (by rw [overflows]; omega)
      have admits : c.Admits (.press nine) := trivial
      have acted : c.act (.press nine) = (next, .ok (.reply reply)) :=
        Step.answering_eq_ok.mpr ⟨reply, done, rfl⟩
      rw [(press_of_admitted sound rfl admitted).2, if_neg notEquals] at done
      obtain ⟨rfl, _⟩ := reply_eq_ok.mp done
      refine ⟨_, reached.act admits acted, ?_⟩
      rcases c.readied_terms nine with ⟨sameCarry, sameLog⟩ | ⟨_, ⟨result, carried⟩, _⟩
      · refine ⟨sameCarry.trans carry, ?_⟩
        change (c.readied nine).log ++ [nine] = _
        rw [sameLog, log, List.replicate_succ']
      · rw [carry] at carried
        cases carried

/-- A digit more than can be shown is not accepted, though the expression does not object. -/
theorem oversized_count_not_accepted :
    ∃ c : Calculator, c.Reached ∧ c.log = List.replicate maxNumeralDigits nine ∧
      (∀ error, ¬ c.terms.Refuses nine error) ∧ ¬ c.Accepts nine ∧
      (c.press nine).2 = .error .integerTooLong := by
  obtain ⟨c, reached, carry, log⟩ := reached_nines maxNumeralDigits (Nat.le_refl _)
  obtain ⟨sound, shown⟩ := sound_of_reached reached
  obtain ⟨admitted, overflows⟩ := nine_admitted carry log
  have broken := (press_of_overflow sound shown rfl (by simp [nine]) admitted).2
    (overflows.mpr (Nat.le_refl _))
  refine ⟨c, reached, log, admitted, ?_, broken⟩
  rintro ⟨next, reply, done, _⟩
  rw [done] at broken
  cases broken

end Calculator

end FeetInches
