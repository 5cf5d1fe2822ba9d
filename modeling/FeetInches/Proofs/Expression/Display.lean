import FeetInches.Display
import FeetInches.Proofs.Expression.Transcript

namespace FeetInches

def Written (n : Int) : Prop := (Decimal.digits n.natAbs).length ≤ maxNumeralDigits

theorem digits_length_le {n k : Nat} (positive : 0 < k) :
    (Decimal.digits n).length ≤ k ↔ n < 10 ^ k := by
  rw [Decimal.digits, List.length_reverse]
  obtain ⟨k, rfl⟩ := Nat.exists_eq_succ_of_ne_zero (Nat.ne_of_gt positive)
  clear positive
  induction k generalizing n with
  | zero =>
      unfold Decimal.lowDigits
      split
      · simpa
      · have more : 0 < (Decimal.lowDigits (n / 10)).length := by
          unfold Decimal.lowDigits
          split <;> simp
        simp only [List.length_cons]
        omega
  | succ k ih =>
      have power : 10 ^ (k + 1).succ = 10 ^ k.succ * 10 := Nat.pow_succ 10 k.succ
      have large : 0 < 10 ^ k.succ := Nat.pow_pos (by decide)
      unfold Decimal.lowDigits
      split
      · simp only [List.length_singleton]
        omega
      · rw [List.length_cons, Nat.add_le_add_iff_right, ih]
        omega

theorem written_iff (n : Int) : Written n ↔ n.natAbs < 10 ^ maxNumeralDigits :=
  digits_length_le (by decide)

/-- The text can be written if the condition holds, and is too long otherwise. -/
def WritesIf {α : Type} (fits : Prop) (text : Except Fault α) : Prop :=
  Settles (fun fault => fault = .integerTooLong ∧ ¬ fits) (fun _ => fits) text

theorem WritesIf.congr {α : Type} {fits other : Prop} {text : Except Fault α}
    (writes : WritesIf fits text) (same : fits ↔ other) : WritesIf other text := by
  rwa [← propext same]

theorem WritesIf.map {α β : Type} {fits : Prop} {text : Except Fault α}
    (writes : WritesIf fits text) (f : α → β) : WritesIf fits (f <$> text) :=
  settles_map writes

theorem WritesIf.both {α β γ : Type} {fits other : Prop} {first : Except Fault α}
    {second : Except Fault β} (writes : WritesIf fits first) (writesOther : WritesIf other second)
    (join : α → β → γ) :
    WritesIf (fits ∧ other) (do return join (← first) (← second)) := by
  cases first with
  | error fault => exact ⟨writes.1, fun both => writes.2 both.1⟩
  | ok text =>
      cases second with
      | error fault => exact ⟨writesOther.1, fun both => writesOther.2 both.2⟩
      | ok more => exact ⟨writes, writesOther⟩

theorem writtenInt_writes (n : Int) : WritesIf (Written n) (writtenInt? n) := by
  unfold writtenInt?
  split
  · assumption
  · rename_i long
    exact ⟨rfl, long⟩

theorem written_small {n : Nat} (small : n < 100) : Written n := by
  have short : ∀ m < 100, (Decimal.digits m).length ≤ 2 := by decide +kernel
  exact Nat.le_trans (short n small) (by decide)

theorem countText_writes (n : Int) : WritesIf (Written n) (countText? n) := by
  unfold countText?
  split
  · rename_i zero
    subst zero
    exact written_small (by decide)
  · exact (writtenInt_writes n).map some

theorem fractionText_ok {l : TypedLength} (tidy : l.Tidy) :
    ∃ text, fractionText? l.numerator l.denominator = .ok text := by
  have shown : ∀ denominator ∈ keyDenominators, ∀ numerator ∈ List.range denominator.toNat,
      (fractionText? numerator denominator).isOk := by decide +kernel
  rcases tidy.fraction with ⟨zero, default⟩ | ⟨known, positive, below⟩
  · rw [zero]
    exact ⟨none, rfl⟩
  · simp only at known positive below
    have cast : (l.numerator.toNat : Int) = l.numerator := Int.toNat_of_nonneg (by omega)
    have fraction := shown l.denominator known l.numerator.toNat (List.mem_range.mpr (by omega))
    rw [cast] at fraction
    cases written : fractionText? l.numerator l.denominator with
    | error fault => rw [written] at fraction; cases fraction
    | ok text => exact ⟨text, rfl⟩

theorem TypedLength.text_writes {l : TypedLength} (tidy : l.Tidy) :
    WritesIf (∀ pad, Written (l.count pad)) l.text? := by
  obtain ⟨fraction, fractionText⟩ := fractionText_ok tidy
  have feet := countText_writes l.feet
  have inches := countText_writes l.inches
  unfold TypedLength.text? feetInchesText?
  cases feetText : countText? l.feet with
  | error fault =>
      rw [feetText] at feet
      exact ⟨feet.1, fun all => feet.2 (all .feet)⟩
  | ok feetShown =>
      rw [feetText] at feet
      cases inchesText : countText? l.inches with
      | error fault =>
          rw [inchesText] at inches
          exact ⟨inches.1, fun all => inches.2 (all .inches)⟩
      | ok inchesShown =>
          rw [inchesText] at inches
          rw [fractionText]
          intro pad
          cases pad
          · exact feet
          · exact inches

theorem TypedLength.text?_ok {l : TypedLength} (tidy : l.Tidy) :
    (∃ text, (Term.typedLength l).text? = .ok text) ↔ ∀ pad, Written (l.count pad) := by
  have writes := (l.text_writes tidy).map Text.ofString
  change WritesIf _ (Term.typedLength l).text? at writes
  cases shown : (Term.typedLength l).text? with
  | error fault =>
      rw [shown] at writes
      exact ⟨by simp, fun all => absurd all writes.2⟩
  | ok text =>
      rw [shown] at writes
      exact ⟨fun _ => writes, fun _ => ⟨text, rfl⟩⟩

namespace Expression

theorem text?_concat (front : Expression) (last : Term) :
    text? (front ++ [last]) = do
      let shown ← text? front
      let lastShown ← last.text?
      return shown ++ lastShown := by
  induction front with
  | nil =>
      change last.text? >>= (fun shown => pure (shown ++ [])) = last.text? >>= pure
      simp only [List.append_nil]
  | cons first rest ih =>
      rw [List.cons_append, text?, text?, ih]
      simp only [bind_assoc, pure_bind, List.append_assoc]

theorem text?_concat_ok {front : Expression} {last : Term} :
    (∃ text, text? (front ++ [last]) = .ok text) ↔
      (∃ text, text? front = .ok text) ∧ ∃ text, last.text? = .ok text := by
  rw [text?_concat]
  constructor
  · rintro ⟨text, shown⟩
    obtain ⟨frontText, frontShown, more⟩ := bind_eq_ok.mp shown
    obtain ⟨lastText, lastShown, _⟩ := bind_eq_ok.mp more
    exact ⟨⟨frontText, frontShown⟩, ⟨lastText, lastShown⟩⟩
  · rintro ⟨⟨frontText, frontShown⟩, ⟨lastText, lastShown⟩⟩
    exact ⟨frontText ++ lastText, by rw [frontShown, lastShown]; rfl⟩

def openLength (terms : Expression) : TypedLength :=
  match terms.getLast? with
  | some (.typedLength l) => l
  | _ => {}

def Overflows (terms : Expression) (key : Key) : Prop :=
  ∃ pad d, key = .digit pad d ∧ ¬ Written ((terms.openLength.typeDigit pad d).count pad)

theorem fits_of_other {terms : Expression} {key : Key} (other : ∀ pad d, key ≠ .digit pad d) :
    ¬ Overflows terms key :=
  fun ⟨pad, d, digit, _⟩ => other pad d digit

theorem openLength_concat (front : Expression) (l : TypedLength) :
    openLength (front ++ [.typedLength l]) = l := by
  simp [openLength]

theorem openLength_of_mode {terms : Expression} (other : terms.mode ≠ .imperial) :
    openLength terms = {} := by
  unfold openLength
  split
  · rename_i l last
    rw [mode, last] at other
    exact absurd rfl other
  · rfl

theorem written_openLength {terms : Expression}
    (tidy : ∀ last ∈ terms.getLast?, last.isResult ∨ last.Tidy) {shown : Text}
    (display : text? terms = .ok shown) (pad : LengthPad) :
    Written (terms.openLength.count pad) := by
  have empty : Written (TypedLength.count {} pad) := by
    cases pad <;> exact written_small (by decide)
  rcases List.eq_nil_or_concat' terms with rfl | ⟨front, last, rfl⟩
  · exact empty
  · cases last with
    | typedLength l =>
        rw [openLength_concat]
        have typed : (Term.typedLength l).Tidy :=
          (tidy (.typedLength l) (by simp)).resolve_left (by simp [Term.isResult])
        exact (l.text?_ok typed).mp (text?_concat_ok.mp ⟨shown, display⟩).2 pad
    | _ => simpa [openLength] using empty

/-- What stands before the length that a key of a length pad goes on with. -/
def beforeLength (terms : Expression) : Expression :=
  match terms.getLast? with
  | some (.typedLength _) => terms.dropLast
  | _ => terms

theorem beforeLength_concat (front : Expression) (l : TypedLength) :
    beforeLength (front ++ [.typedLength l]) = front := by
  simp [beforeLength]

theorem beforeLength_of_mode {terms : Expression} (other : terms.mode ≠ .imperial) :
    beforeLength terms = terms := by
  unfold beforeLength
  split
  · rename_i l last
    rw [mode, last] at other
    exact absurd rfl other
  · rfl

/-- A length is being typed, or nothing is left out before the next one. -/
theorem beforeLength_cases (terms : Expression) :
    (beforeLength terms = terms ∧ openLength terms = {}) ∨
      terms = beforeLength terms ++ [.typedLength (openLength terms)] := by
  rcases List.eq_nil_or_concat' terms with rfl | ⟨front, last, rfl⟩
  · exact Or.inl ⟨rfl, rfl⟩
  · cases last with
    | typedLength l =>
        right
        rw [beforeLength_concat, openLength_concat]
    | _ => exact Or.inl ⟨by simp [beforeLength], by simp [openLength]⟩

theorem mem_of_beforeLength {terms : Expression}
    (typed : terms = beforeLength terms ++ [.typedLength (openLength terms)]) :
    .typedLength (openLength terms) ∈ terms := by
  have last : Term.typedLength (openLength terms) ∈
      beforeLength terms ++ [.typedLength (openLength terms)] := List.mem_concat_self
  rwa [← typed] at last

theorem ofKeys_lengthKey (log : List Key) {key : Key} {type : TypedLength → TypedLength}
    (presses : ∀ t : Typing, t.press key = t.onLength type) :
    ofKeys (log ++ [key]) =
      beforeLength (ofKeys log) ++ [.typedLength (type (ofKeys log).openLength)] := by
  have idle := Typing.awaitsOperand_of_idle log
  rw [ofKeys_eq_terms, ofKeys_eq_terms, Typing.ofKeys_concat, presses]
  rcases typing : Typing.ofKeys log with ⟨complete, _ | ⟨l⟩ | ⟨text⟩⟩
  · rw [typing] at idle
    have other : mode complete ≠ .imperial := by
      rw [mode_eq_input_of_awaitsOperand (idle rfl)]
      decide
    simp [Typing.terms, Typing.onLength, Operand.term, openLength_of_mode other,
      beforeLength_of_mode other]
  · simp [Typing.terms, Typing.onLength, Operand.term, openLength_concat, beforeLength_concat]
  · have other : mode (complete ++ [.typedNumber text]) ≠ .imperial := by simp [Term.mode]
    simp [Typing.terms, Typing.onLength, Operand.term, openLength_of_mode other,
      beforeLength_of_mode other]

theorem openLength_append {front back : Expression} (results : ∀ term ∈ front, term.isResult) :
    openLength (front ++ back) = openLength back := by
  rcases List.eq_nil_or_concat' back with rfl | ⟨start, last, rfl⟩
  · rw [List.append_nil]
    unfold openLength
    split
    · rename_i l found
      have result := results _ (List.mem_of_mem_getLast? found)
      cases result
    · rfl
  · simp [openLength]

section Typed

variable {front : Expression} {log : List Key} {key : Key} {shown : Text}

theorem text?_before (display : text? (front ++ ofKeys log) = .ok shown) {before : Expression}
    (shorter : before = ofKeys log ∨ ∃ last, ofKeys log = before ++ [last]) :
    ∃ text, text? (front ++ before) = .ok text := by
  rcases shorter with rfl | ⟨last, was⟩
  · exact ⟨shown, display⟩
  · rw [was, ← List.append_assoc] at display
    exact (text?_concat_ok.mp ⟨shown, display⟩).1

theorem lengthKey_writes (results : ∀ term ∈ front, term.isResult)
    (display : text? (front ++ ofKeys log) = .ok shown) {type : TypedLength → TypedLength}
    (presses : ∀ t : Typing, t.press key = t.onLength type) :
    let l := type (openLength (front ++ ofKeys log))
    WritesIf (∀ pad, Written (l.count pad)) (text? (front ++ ofKeys (log ++ [key]))) := by
  intro l
  have pressed := ofKeys_lengthKey log presses
  obtain ⟨text, beforeShown⟩ :=
    text?_before display ((beforeLength_cases (ofKeys log)).imp And.left fun same => ⟨_, same⟩)
  rw [← openLength_append results] at pressed
  have tidy : l.Tidy := by
    have last : Term.typedLength l ∈ ofKeys (log ++ [key]) := by simp [pressed, l]
    exact Typing.tidy_ofKeys _ _ last
  rw [pressed, ← List.append_assoc, text?_concat, beforeShown]
  change WritesIf _ (Text.ofString <$> l.text? >>= fun lastShown => pure (text ++ lastShown))
  exact settles_bind ((l.text_writes tidy).map Text.ofString) fun _ written => written

/-- An expression stays on the display with one key more, unless a count overflows. -/
theorem typed_writes (results : ∀ term ∈ front, term.isResult) (plain : key.isControl = false)
    (display : text? (front ++ ofKeys log) = .ok shown) :
    WritesIf (¬ Overflows (front ++ ofKeys log) key)
      (text? (front ++ ofKeys (log ++ [key]))) := by
  have tidy : ∀ last ∈ (front ++ ofKeys log).getLast?, last.isResult ∨ last.Tidy := by
    intro last found
    rcases List.mem_append.mp (List.mem_of_mem_getLast? found) with member | member
    · exact Or.inl (results last member)
    · exact Or.inr (Typing.tidy_ofKeys log last member)
  have written := written_openLength tidy display
  have short (notDigit : ∀ pad d, key ≠ .digit pad d)
      (ok : ∃ text, text? (front ++ ofKeys (log ++ [key])) = .ok text) :
      WritesIf (¬ Overflows (front ++ ofKeys log) key)
        (text? (front ++ ofKeys (log ++ [key]))) := by
    obtain ⟨text, ok⟩ := ok
    rw [ok]
    exact fits_of_other notDigit
  have number (family : key.entryMode = .scalar) :
      ∃ text, text? (front ++ ofKeys (log ++ [key])) = .ok text := by
    have operand : key.isOperand := by cases key <;> first | rfl | cases family
    obtain ⟨new, mode, ⟨before, old, was, _, pressed⟩ | ⟨_, pressed⟩⟩ :=
      ofKeys_operand log operand
    all_goals
      obtain ⟨text, rfl⟩ : ∃ text, new = .number text := by
        cases new with
        | length l => simp [family, Operand.term, Term.mode] at mode
        | number text => exact ⟨text, rfl⟩
      rw [pressed, ← List.append_assoc, text?_concat_ok]
    · exact ⟨text?_before display (Or.inr ⟨old.term, was⟩), _, rfl⟩
    · exact ⟨⟨shown, display⟩, _, rfl⟩
  cases key with
  | digit pad d =>
      have digit := lengthKey_writes results display fun t =>
        (rfl : t.press (.digit pad d) = t.onLength (·.typeDigit pad d))
      refine digit.congr ⟨?_, ?_⟩
      · rintro all ⟨_, _, same, long⟩
        cases same
        exact long (all pad)
      · intro fits other
        by_cases typed : other = pad
        · subst typed
          by_contra long
          exact fits ⟨other, d, rfl, long⟩
        · have kept := written other
          cases pad <;> cases other <;> first | exact absurd rfl typed | exact kept
  | fraction pad literal =>
      have fraction := lengthKey_writes results display fun t =>
        (rfl : t.press (.fraction pad literal) = t.onLength (·.typeFraction literal.value))
      refine fraction.congr ⟨fun _ => fits_of_other (by simp), ?_⟩
      intro _ other
      have kept := written other
      cases other <;> exact kept
  | scalarDigit d => exact short (by simp) (number rfl)
  | point => exact short (by simp) (number rfl)
  | operator op =>
      refine short (by simp) ?_
      rw [ofKeys_operator log rfl, ← List.append_assoc, text?_concat_ok]
      exact ⟨⟨shown, display⟩, _, rfl⟩
  | equals =>
      refine short (by simp) ?_
      rw [ofKeys_operator log rfl, ← List.append_assoc, text?_concat_ok]
      exact ⟨⟨shown, display⟩, _, rfl⟩
  | control command => cases plain

end Typed

end Expression

end FeetInches
