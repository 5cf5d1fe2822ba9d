import FeetInches.Proofs.Expression.Typing
import FeetInches.Proofs.Failing
/-!
The keys that write an expression type it again: feet, inches and fraction of a length, the
characters of a number, and operators. Two operands of one family in a row would run together, so
neighbours must be apart.
-/

namespace FeetInches

open Decimal

theorem eq_digitChar_of_digit? {c : Char} {d : Digit} (shown : digit? c = some d) :
    c = digitChar d := by
  unfold digit? at shown
  split at shown
  · rename_i range
    cases shown
    have code : 48 + (c.toNat - 48) = c.toNat := by omega
    simp only [digitChar, code, Char.ofNat_toNat]
  · cases shown

namespace TypedLength

def count (l : TypedLength) : LengthPad → Int
  | .feet => l.feet
  | .inches => l.inches

def setCount (l : TypedLength) (pad : LengthPad) (n : Int) : TypedLength :=
  match pad with
  | .feet => { l with feet := n }
  | .inches => { l with inches := n }

theorem typeDigit_eq (l : TypedLength) (pad : LengthPad) (d : Digit) :
    l.typeDigit pad d = l.setCount pad (l.count pad * 10 + d.val) := by
  cases pad <;> rfl

@[simp] theorem count_setCount (l : TypedLength) (pad : LengthPad) (n : Int) :
    (l.setCount pad n).count pad = n := by
  cases pad <;> rfl

@[simp] theorem setCount_setCount (l : TypedLength) (pad : LengthPad) (m n : Int) :
    (l.setCount pad m).setCount pad n = l.setCount pad n := by
  cases pad <;> rfl

@[simp] theorem setCount_count (l : TypedLength) (pad : LengthPad) :
    l.setCount pad (l.count pad) = l := by
  cases pad <;> rfl

theorem foldl_typeDigit (l : TypedLength) (pad : LengthPad) (ds : List Digit) :
    ds.foldl (fun l d => l.typeDigit pad d) l =
      l.setCount pad (ds.foldl (fun value d => value * 10 + d.val) (l.count pad)) := by
  induction ds generalizing l with
  | nil => simp
  | cons d ds ih => rw [List.foldl_cons, ih, typeDigit_eq]; simp

end TypedLength

theorem foldl_value (ds : List Digit) (start : Nat) :
    ds.foldl (fun (value : Int) d => value * 10 + d.val) start =
      ((ds.foldl (fun value d => value * 10 + d.val) start : Nat) : Int) := by
  induction ds generalizing start with
  | nil => rfl
  | cons d ds ih => exact ih (start * 10 + d.val)

theorem foldl_press_digits (complete : Expression) (l : TypedLength) (pad : LengthPad)
    (ds : List Digit) :
    (ds.map (Key.digit pad)).foldl Typing.press ⟨complete, some (.length l)⟩ =
      ⟨complete, some (.length (ds.foldl (fun l d => l.typeDigit pad d) l))⟩ := by
  induction ds generalizing l with
  | nil => rfl
  | cons d ds ih => exact ih (l.typeDigit pad d)

theorem keysOfText_digits (pad : LengthPad) (ds : List Digit) :
    keysOfText pad.pad (ds.map fun d => .char (digitChar d)) = .ok (ds.map (Key.digit pad)) := by
  induction ds with
  | nil => rfl
  | cons d ds ih =>
      have first : Key.ofText pad.pad [.char (digitChar d)] = .ok (.digit pad d) := by
        cases pad <;>
          simp only [LengthPad.pad, Key.ofText, Key.lengthOfText, Key.digitOfText?,
            digit?_digitChar]
      simp only [List.map_cons, keysOfText, first, ih]
      rfl

theorem ofString_intText {n : Int} (nonneg : 0 ≤ n) :
    Text.ofString (intText n) = (digits n.natAbs).map fun d => .char (digitChar d) := by
  have sign : ¬ n < 0 := by omega
  simp [intText, sign, natText, digitText, Text.ofString, Text.ofChars]

theorem keysOfCount_eq {pad : LengthPad} {n : Int} {keys : List Key} (nonneg : 0 ≤ n)
    (written : keysOfCount pad.pad n = .ok keys) :
    keys = if n = 0 then [] else (digits n.natAbs).map (Key.digit pad) := by
  unfold keysOfCount at written
  split at written
  · rename_i zero
    cases written
    rw [if_pos zero]
  · rename_i nonzero
    rw [if_neg nonzero]
    unfold writtenInt? at written
    split at written
    · change keysOfText pad.pad (Text.ofString (intText n)) = .ok keys at written
      rw [ofString_intText nonneg, keysOfText_digits] at written
      exact (Except.ok.inj written).symm
    · cases written

theorem entryMode_of_count {pad : LengthPad} {n : Int} {keys : List Key} (nonneg : 0 ≤ n)
    (written : keysOfCount pad.pad n = .ok keys) : ∀ key ∈ keys, key.entryMode = .imperial := by
  rw [keysOfCount_eq nonneg written]
  intro key member
  split at member
  · cases member
  · obtain ⟨d, _, rfl⟩ := List.mem_map.mp member
    rfl

theorem foldl_press_count {pad : LengthPad} {n : Int} {keys : List Key} (nonneg : 0 ≤ n)
    (written : keysOfCount pad.pad n = .ok keys) (complete : Expression) {l : TypedLength}
    (blank : l.count pad = 0) :
    keys.foldl Typing.press ⟨complete, some (.length l)⟩ =
      ⟨complete, some (.length (l.setCount pad n))⟩ := by
  rw [keysOfCount_eq nonneg written]
  split
  · rename_i zero
    rw [zero, ← blank, l.setCount_count]
    rfl
  · have value : (digits n.natAbs).foldl (fun (value : Int) d => value * 10 + d.val) 0 = n := by
      have read := ofDigits_digits n.natAbs
      unfold ofDigits at read
      have cast := foldl_value (digits n.natAbs) 0
      rw [read] at cast
      exact cast.trans (Int.natAbs_of_nonneg nonneg)
    rw [foldl_press_digits, TypedLength.foldl_typeDigit, blank, value]

def Key.fraction? : Key → Option (LengthPad × Fraction)
  | .fraction pad literal => some (pad, literal.value)
  | _ => none

theorem fractionKeys_shown : ∀ denominator ∈ keyDenominators,
    ∀ numerator ∈ List.range denominator.toNat, 0 < numerator →
      (TypedLength.fractionKeys ⟨0, 0, numerator, denominator⟩).toOption.map
          (·.map Key.fraction?) =
        some [some (.inches, ⟨numerator, denominator⟩)] := by
  decide +kernel

theorem fractionKeys_eq {l : TypedLength} (tidy : l.Tidy) :
    l.numerator = 0 ∧ l.denominator = defaultDenominator ∧ l.fractionKeys = .ok [] ∨
      ∃ literal : FractionKey, literal.value = ⟨l.numerator, l.denominator⟩ ∧
        l.fractionKeys = .ok [.fraction .inches literal] := by
  rcases tidy.fraction with ⟨zero, default⟩ | ⟨known, positive, below⟩
  · have lacking : l.hasFraction = false := by simp [TypedLength.hasFraction, zero]
    left
    rw [TypedLength.fractionKeys, lacking]
    exact ⟨zero, default, rfl⟩
  · right
    simp only at known positive below
    have cast : (l.numerator.toNat : Int) = l.numerator := Int.toNat_of_nonneg (by omega)
    have shown := fractionKeys_shown l.denominator known l.numerator.toNat
      (List.mem_range.mpr (by omega)) (by omega)
    rw [cast] at shown
    change l.fractionKeys.toOption.map (·.map Key.fraction?) = _ at shown
    cases written : l.fractionKeys with
    | error fault =>
        rw [written] at shown
        cases shown
    | ok keys =>
        rw [written] at shown
        have single : keys.map Key.fraction? =
            [some (.inches, ⟨l.numerator, l.denominator⟩)] := Option.some.inj shown
        obtain ⟨key, rfl, value⟩ := List.map_eq_singleton_iff.mp single
        cases key with
        | fraction pad literal =>
            simp only [Key.fraction?, Option.some.injEq, Prod.mk.injEq] at value
            obtain ⟨rfl, value⟩ := value
            exact ⟨literal, value, rfl⟩
        | _ => cases value

theorem length_keys_eq {l : TypedLength} {keys : List Key} (written : l.keys = .ok keys) :
    ∃ feet inches fraction : List Key, keysOfCount LengthPad.feet.pad l.feet = .ok feet ∧
      keysOfCount LengthPad.inches.pad l.inches = .ok inches ∧ l.fractionKeys = .ok fraction ∧
      keys = if feet ++ inches ++ fraction = [] then [.digit .feet 0]
        else feet ++ inches ++ fraction := by
  obtain ⟨feet, feetWritten, more⟩ := bind_eq_ok.mp written
  obtain ⟨inches, inchesWritten, more⟩ := bind_eq_ok.mp more
  obtain ⟨fraction, fractionWritten, result⟩ := bind_eq_ok.mp more
  exact ⟨feet, inches, fraction, feetWritten, inchesWritten, fractionWritten,
    (Except.ok.inj result).symm⟩

theorem entryMode_of_length {l : TypedLength} {keys : List Key} (tidy : l.Tidy)
    (written : l.keys = .ok keys) : ∀ key ∈ keys, key.entryMode = .imperial := by
  obtain ⟨feet, inches, fraction, feetWritten, inchesWritten, fractionWritten, rfl⟩ :=
    length_keys_eq written
  intro key member
  split at member
  · rw [List.mem_singleton.mp member]
    rfl
  · rcases List.mem_append.mp member with member | member
    · rcases List.mem_append.mp member with member | member
      · exact entryMode_of_count tidy.feet feetWritten key member
      · exact entryMode_of_count tidy.inches inchesWritten key member
    · rcases fractionKeys_eq tidy with ⟨_, _, same⟩ | ⟨literal, _, same⟩
      · cases same.symm.trans fractionWritten
        cases member
      · cases same.symm.trans fractionWritten
        rw [List.mem_singleton.mp member]
        rfl

/-- The keys of a length type it where an empty one is being typed. -/
theorem foldl_press_length {l : TypedLength} {keys : List Key} (tidy : l.Tidy)
    (written : l.keys = .ok keys) (complete : Expression) :
    keys.foldl Typing.press ⟨complete, some (.length {})⟩ = ⟨complete, some (.length l)⟩ := by
  obtain ⟨feet, inches, fraction, feetWritten, inchesWritten, fractionWritten, rfl⟩ :=
    length_keys_eq written
  have typed : (feet ++ inches ++ fraction).foldl Typing.press ⟨complete, some (.length {})⟩ =
      ⟨complete, some (.length l)⟩ := by
    rw [List.foldl_append, List.foldl_append, foldl_press_count tidy.feet feetWritten complete rfl,
      foldl_press_count tidy.inches inchesWritten complete rfl]
    rcases l with ⟨_, _, numerator, denominator⟩
    rcases fractionKeys_eq tidy with ⟨absent, default, same⟩ | ⟨literal, value, same⟩
    · cases same.symm.trans fractionWritten
      subst absent default
      rfl
    · cases same.symm.trans fractionWritten
      simp only [List.foldl_cons, List.foldl_nil, Typing.press, Typing.onLength,
        TypedLength.typeFraction, value, TypedLength.setCount]
  split
  · rename_i empty
    rw [empty] at typed
    exact typed
  · exact typed

theorem scalarKey_eq {c : CodePoint} {key : Key} (written : Key.ofText .scalar [c] = .ok key) :
    (∃ d, key = .scalarDigit d ∧ c = .char (digitChar d)) ∨ key = .point ∧ c = .char '.' := by
  unfold Key.ofText at written
  cases shown : Key.digitOfText? [c] with
  | some d =>
      rw [shown] at written
      cases c with
      | char c =>
          exact Or.inl ⟨d, (Except.ok.inj written).symm, by rw [eq_digitChar_of_digit? shown]⟩
      | surrogate offset => cases shown
  | none =>
      rw [shown] at written
      change (if ([c] : Text) = "." then _ else _) = _ at written
      split at written
      · rename_i point
        exact Or.inr ⟨(Except.ok.inj written).symm, List.singleton_inj.mp point⟩
      · cases written

theorem foldl_press_characters {rest : Text} {keys : List Key}
    (written : keysOfText .scalar rest = .ok keys) (complete : Expression) (typed : Text)
    (points : (typed ++ rest).count (.char '.') ≤ 1) :
    keys.foldl Typing.press ⟨complete, some (.number typed)⟩ =
      ⟨complete, some (.number (typed ++ rest))⟩ := by
  induction rest generalizing keys typed with
  | nil =>
      cases written
      simp
  | cons c rest ih =>
      obtain ⟨key, first, more⟩ := bind_eq_ok.mp written
      obtain ⟨others, following, result⟩ := bind_eq_ok.mp more
      cases result
      have pressed : Typing.press ⟨complete, some (.number typed)⟩ key =
          ⟨complete, some (.number (typed ++ [c]))⟩ := by
        rcases scalarKey_eq first with ⟨d, rfl, rfl⟩ | ⟨rfl, rfl⟩
        · rfl
        · have absent : CodePoint.char '.' ∉ typed := by
            rw [List.count_append, List.count_cons_self] at points
            exact List.count_eq_zero.mp (by omega)
          simp [Typing.press, Typing.onNumber, typePoint, absent]
      rw [List.foldl_cons, pressed, ih following, List.append_assoc, List.singleton_append]
      simpa using points

theorem entryMode_of_characters {text : Text} {keys : List Key}
    (written : keysOfText .scalar text = .ok keys) : ∀ key ∈ keys, key.entryMode = .scalar := by
  induction text generalizing keys with
  | nil =>
      cases written
      simp
  | cons c text ih =>
      obtain ⟨key, first, more⟩ := bind_eq_ok.mp written
      obtain ⟨others, following, result⟩ := bind_eq_ok.mp more
      cases result
      intro pressed member
      rcases List.mem_cons.mp member with rfl | member
      · rcases scalarKey_eq first with ⟨d, rfl, _⟩ | ⟨rfl, _⟩ <;> rfl
      · exact ih following pressed member

theorem eq_symbol_of_ofSymbol? {symbol : Text} {op : Arith}
    (found : Arith.ofSymbol? symbol = some op) : symbol = op.symbol := by
  unfold Arith.ofSymbol? at found
  repeat' split at found
  all_goals first | cases found; assumption | cases found

theorem operatorKey_eq {symbol : Text} {key : Key}
    (written : Key.ofText .operator symbol = .ok key) : key.isOperator ∧ key.text = symbol := by
  unfold Key.ofText at written
  cases found : Arith.ofSymbol? symbol with
  | some op =>
      rw [found] at written
      cases written
      exact ⟨rfl, (eq_symbol_of_ofSymbol? found).symm⟩
  | none =>
      rw [found] at written
      change (if symbol = equalsSymbol then _ else _) = _ at written
      split at written
      · rename_i equals
        cases written
        exact ⟨rfl, equals.symm⟩
      · cases written

def Operand.blank : Mode → Operand
  | .scalar => .number []
  | _ => .length {}

namespace Typing

theorem press_apart {t : Typing} {key : Key} (operand : key.isOperand)
    (apart : ∀ old ∈ t.operand, old.term.mode ≠ key.entryMode) :
    t.press key = Typing.press ⟨t.terms, some (.blank key.entryMode)⟩ key := by
  rcases t with ⟨complete, _ | ⟨l⟩ | ⟨text⟩⟩ <;> cases key <;>
    first
    | rfl
    | exact absurd rfl (apart _ rfl)
    | simp [Key.isOperand] at operand

theorem foldl_press_apart {t : Typing} {keys : List Key} {family : Mode} (nonempty : keys ≠ [])
    (same : ∀ key ∈ keys, key.entryMode = family) (notInput : family ≠ .input)
    (apart : ∀ old ∈ t.operand, old.term.mode ≠ family) :
    keys.foldl press t = keys.foldl press ⟨t.terms, some (.blank family)⟩ := by
  cases keys with
  | nil => exact absurd rfl nonempty
  | cons key keys =>
      have mode : key.entryMode = family := same key (by simp)
      have operand : key.isOperand := by
        cases key <;> simp_all [Key.entryMode, Key.isOperand]
      rw [List.foldl_cons, List.foldl_cons, press_apart operand (by rwa [mode]), mode]

def followedBy (t : Typing) : Term → Typing
  | .typedLength l => ⟨t.terms, some (.length l)⟩
  | .typedNumber text => ⟨t.terms, some (.number text)⟩
  | term => ⟨t.terms ++ [term], none⟩

theorem terms_followedBy (t : Typing) (term : Term) :
    (t.followedBy term).terms = t.terms ++ [term] := by
  cases term <;> simp [followedBy, terms, Operand.term]

end Typing

namespace Term

/-- Two operands of one family in a row would run together. -/
def Apart (first second : Term) : Prop := second.isOperand → first.mode ≠ second.mode

theorem apart_of_takesTurn {first second : Term} (turn : TakesTurn first second) :
    Apart first second := by
  intro operand same
  rcases turn with ⟨_, operator⟩ | ⟨operator, _⟩
  · simp [not_isOperator_of_isOperand operand] at operator
  · have input : first.mode = .input := by
      cases first <;> first | rfl | cases operator
    rw [input, eq_comm, mode_eq_input] at same
    simp [operand] at same

theorem entryMode_of_keys {term : Term} {keys : List Key} (tidy : term.Tidy)
    (written : term.keys = .ok keys) :
    ∀ key ∈ keys, key.entryMode = term.mode ∧ key.isControl = false := by
  have plain {key : Key} {family : Mode} (same : key.entryMode = family)
      (notInput : family ≠ .input) : key.entryMode = family ∧ key.isControl = false := by
    refine ⟨same, ?_⟩
    cases key <;> first | rfl | exact absurd same.symm notInput
  cases term with
  | typedLength l =>
      intro key member
      exact plain (entryMode_of_length tidy written key member) (by simp [mode])
  | typedNumber text =>
      intro key member
      exact plain (entryMode_of_characters written key member) (by simp [mode])
  | operator symbol =>
      obtain ⟨key, single, result⟩ := bind_eq_ok.mp written
      cases result
      intro pressed member
      obtain ⟨operator, _⟩ := operatorKey_eq single
      rw [List.mem_singleton.mp member]
      cases key <;> simp_all [Key.isOperator, Key.entryMode, Key.isControl, mode]
  | _ => exact False.elim tidy

theorem foldl_press_keys {term : Term} {keys : List Key} (tidy : term.Tidy)
    (written : term.keys = .ok keys) {t : Typing}
    (apart : ∀ old ∈ t.operand, Apart old.term term) :
    keys.foldl Typing.press t = t.followedBy term := by
  have family := entryMode_of_keys tidy written
  cases term with
  | typedLength l =>
      have nonempty : keys ≠ [] := by
        obtain ⟨feet, inches, fraction, _, _, _, rfl⟩ := length_keys_eq written
        split
        · simp
        · assumption
      rw [Typing.foldl_press_apart nonempty (fun key member => (family key member).1)
        (by simp [mode]) fun old typed => apart old typed rfl]
      exact foldl_press_length tidy written t.terms
  | typedNumber text =>
      have number : TidyNumber text := tidy
      have characters : keysOfText .scalar text = .ok keys := by
        simpa only [Term.keys, number.nonempty, if_false] using written
      have nonempty : keys ≠ [] := by
        rintro rfl
        obtain ⟨c, rest, shape⟩ := List.exists_cons_of_ne_nil number.nonempty
        rw [shape] at characters
        obtain ⟨key, _, more⟩ := bind_eq_ok.mp characters
        obtain ⟨others, _, result⟩ := bind_eq_ok.mp more
        cases result
      rw [Typing.foldl_press_apart nonempty (fun key member => (family key member).1)
        (by simp [mode]) fun old typed => apart old typed rfl]
      exact foldl_press_characters characters t.terms [] number.points
  | operator symbol =>
      obtain ⟨key, single, result⟩ := bind_eq_ok.mp written
      cases result
      obtain ⟨operator, shown⟩ := operatorKey_eq single
      rw [List.foldl_cons, List.foldl_nil, Typing.press_operator t operator, shown]
      rfl
  | _ => exact False.elim tidy

end Term

namespace Expression

theorem foldl_press_keys {terms : Expression} {log : List Key}
    (tidy : ∀ term ∈ terms, term.Tidy) (written : keys terms = .ok log) {t : Typing}
    (apart : ((t.operand.map Operand.term).toList ++ terms).IsChain Term.Apart) :
    (log.foldl Typing.press t).terms = t.terms ++ terms := by
  induction terms generalizing log t with
  | nil =>
      cases written
      simp
  | cons term rest ih =>
      obtain ⟨first, firstWritten, more⟩ := bind_eq_ok.mp written
      obtain ⟨others, othersWritten, result⟩ := bind_eq_ok.mp more
      cases result
      have separate : ∀ old ∈ t.operand, Term.Apart old.term term := by
        intro old typed
        rw [Option.mem_def.mp typed] at apart
        exact (List.isChain_cons_cons.mp apart).1
      have following : (term :: rest).IsChain Term.Apart := apart.right_of_append
      rw [List.foldl_append, Term.foldl_press_keys (tidy term (by simp)) firstWritten separate,
        ih (fun other member => tidy other (by simp [member])) othersWritten,
        Typing.terms_followedBy, List.append_assoc, List.singleton_append]
      cases term with
      | typedLength l => exact following
      | typedNumber text => exact following
      | _ => exact following.tail

/-- Replaying the keys of an expression gives the expression back. -/
theorem ofKeys_keys {terms : Expression} {log : List Key} (tidy : ∀ term ∈ terms, term.Tidy)
    (apart : terms.IsChain Term.Apart) (written : keys terms = .ok log) :
    ofKeys log = terms :=
  foldl_press_keys tidy written apart

theorem plain_keys {terms : Expression} {log : List Key} (tidy : ∀ term ∈ terms, term.Tidy)
    (written : keys terms = .ok log) : ∀ key ∈ log, key.isControl = false := by
  induction terms generalizing log with
  | nil =>
      cases written
      simp
  | cons term rest ih =>
      obtain ⟨first, firstWritten, more⟩ := bind_eq_ok.mp written
      obtain ⟨others, othersWritten, result⟩ := bind_eq_ok.mp more
      cases result
      intro key member
      rcases List.mem_append.mp member with member | member
      · exact (Term.entryMode_of_keys (tidy term (by simp)) firstWritten key member).2
      · exact ih (fun other member => tidy other (by simp [member])) othersWritten key member

end Expression

end FeetInches
