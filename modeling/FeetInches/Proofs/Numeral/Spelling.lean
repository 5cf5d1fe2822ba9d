import FeetInches.Numeral.Real
import FeetInches.Proofs.Expression.Tidy
import FeetInches.Display

namespace FeetInches.Numeral

open Decimal Text

/-- The parts of a number's text; `power` is a sign, `true` for a minus, and digits. -/
structure Spelling where
  negative : Bool := false
  whole : List Digit
  fraction : Option (List Digit) := none
  power : Option (Bool × List Digit) := none

namespace Spelling

def fractionChars (s : Spelling) : List Char :=
  match s.fraction with
  | some ds => '.' :: ds.map digitChar
  | none => []

def powerChars (s : Spelling) : List Char :=
  match s.power with
  | some (negative, ds) => 'e' :: (if negative then '-' else '+') :: ds.map digitChar
  | none => []

def body (s : Spelling) : List Char := s.whole.map digitChar ++ (s.fractionChars ++ s.powerChars)

def chars (s : Spelling) : List Char := (if s.negative then ['-'] else []) ++ s.body

def places (s : Spelling) : List Digit := s.fraction.getD []

def exponent (s : Spelling) : Int :=
  match s.power with
  | some (negative, ds) => signed negative (ofDigits ds)
  | none => 0

/-- There are digits, also behind the sign of a power of ten. -/
structure Proper (s : Spelling) : Prop where
  digits : s.whole ++ s.places ≠ []
  power : ∀ p ∈ s.power, p.2 ≠ []

def value (s : Spelling) : Binary64 :=
  ofDecimal s.negative (ofDigits (s.whole ++ s.places)) (s.exponent - s.places.length)

def order (s : Spelling) : Int := s.whole.length + s.exponent

end Spelling

/-! The value of digits -/

theorem ofDigits_append (ds es : List Digit) :
    ofDigits (ds ++ es) = ofDigits ds * 10 ^ es.length + ofDigits es := by
  have from_ (start : Nat) : es.foldl (fun value d => value * 10 + d.val) start =
      start * 10 ^ es.length + ofDigits es := by
    unfold ofDigits
    induction es generalizing start with
    | nil => simp
    | cons e es ih =>
        rw [List.foldl_cons, ih, List.foldl_cons, ih (0 * 10 + e.val), List.length_cons,
          Nat.pow_succ, Nat.add_mul, Nat.add_mul, Nat.mul_assoc, Nat.mul_comm 10]
        omega
  have whole : ofDigits (ds ++ es) = es.foldl (fun value d => value * 10 + d.val) (ofDigits ds) :=
    List.foldl_append
  rw [whole, from_]

theorem ofDigits_zeros (count : Nat) (ds : List Digit) :
    ofDigits (List.replicate count 0 ++ ds) = ofDigits ds := by
  induction count with
  | zero => rfl
  | succ count ih =>
      rw [List.replicate_succ, List.cons_append, ← ih]
      rfl

theorem ofDigits_append_zeros (ds : List Digit) (count : Nat) :
    ofDigits (ds ++ List.replicate count 0) = ofDigits ds * 10 ^ count := by
  have zeros := ofDigits_zeros count []
  rw [List.append_nil] at zeros
  rw [ofDigits_append, zeros, List.length_replicate]
  rfl

theorem ofDigits_lt (ds : List Digit) : ofDigits ds < 10 ^ ds.length := by
  induction ds with
  | nil => decide
  | cons d ds ih =>
      have split : ofDigits (d :: ds) = d.val * 10 ^ ds.length + ofDigits ds :=
        (ofDigits_append [d] ds).trans (by simp [ofDigits])
      have digit : d.val * 10 ^ ds.length ≤ 9 * 10 ^ ds.length :=
        Nat.mul_le_mul_right _ (by omega)
      rw [split, List.length_cons, Nat.pow_succ]
      omega

/-! Digits at the start -/

theorem leadingDigits_append (ds : List Digit) (rest : List Char) :
    leadingDigits (ds.map digitChar ++ rest) = ds ++ leadingDigits rest := by
  induction ds with
  | nil => rfl
  | cons d ds ih =>
      unfold leadingDigits at *
      rw [List.map_cons, List.cons_append, List.takeWhile_cons, digit?_digitChar]
      simp only [Option.isSome_some, if_true, List.filterMap_cons, digit?_digitChar, ih,
        List.cons_append]

theorem afterDigits_append (ds : List Digit) (rest : List Char) :
    afterDigits (ds.map digitChar ++ rest) = afterDigits rest := by
  induction ds with
  | nil => rfl
  | cons d ds ih =>
      unfold afterDigits at *
      rw [List.map_cons, List.cons_append, List.dropWhile_cons, digit?_digitChar]
      exact ih

theorem leadingDigits_other {c : Char} (other : digit? c = none) (rest : List Char) :
    leadingDigits (c :: rest) = [] := by
  simp [leadingDigits, other]

theorem afterDigits_other {c : Char} (other : digit? c = none) (rest : List Char) :
    afterDigits (c :: rest) = c :: rest := by
  simp [afterDigits, other]

theorem leadingDigits_digits (ds : List Digit) : leadingDigits (ds.map digitChar) = ds := by
  have split := leadingDigits_append ds []
  rwa [List.append_nil, show leadingDigits [] = [] from rfl, List.append_nil] at split

theorem afterDigits_digits (ds : List Digit) : afterDigits (ds.map digitChar) = [] := by
  have split := afterDigits_append ds []
  rwa [List.append_nil] at split

/-! The parts of a spelling -/

namespace Spelling

variable {s : Spelling}

theorem leadingDigits_powerChars (s : Spelling) : leadingDigits s.powerChars = [] := by
  unfold powerChars
  split
  · exact leadingDigits_other rfl _
  · rfl

theorem afterDigits_powerChars (s : Spelling) : afterDigits s.powerChars = s.powerChars := by
  unfold powerChars
  split
  · exact afterDigits_other rfl _
  · rfl

theorem exponentPart?_powerChars (proper : s.Proper) :
    exponentPart? s.powerChars = some s.exponent := by
  unfold powerChars exponent
  split
  · rename_i negative ds known
    have nonempty : ds ≠ [] := proper.power (negative, ds) known
    have sign : takeSign ((if negative then '-' else '+') :: ds.map digitChar) =
        (negative, ds.map digitChar) := by
      cases negative <;> rfl
    simp [exponentPart?, sign, leadingDigits_digits, afterDigits_digits, nonempty]
  · rfl

theorem powerChars_cases (s : Spelling) :
    s.powerChars = [] ∨ ∃ more, s.powerChars = 'e' :: more := by
  unfold powerChars
  split
  · exact Or.inr ⟨_, rfl⟩
  · exact Or.inl rfl

theorem decimalBody?_body (proper : s.Proper) (negative : Bool) :
    decimalBody? negative s.body =
      some
        (ofDecimal negative (ofDigits (s.whole ++ s.places)) (s.exponent - s.places.length)) := by
  have digits := proper.digits
  have power := exponentPart?_powerChars proper
  have undigit := leadingDigits_powerChars s
  have rest := afterDigits_powerChars s
  have shape := powerChars_cases s
  unfold decimalBody? body
  rw [leadingDigits_append, afterDigits_append]
  unfold places fractionChars at *
  generalize s.powerChars = tail at *
  cases known : s.fraction with
  | none =>
      rw [known] at digits
      simp only [List.nil_append, Option.getD_none, List.append_nil] at digits ⊢
      rw [undigit, rest, List.append_nil]
      rcases shape with rfl | ⟨more, rfl⟩
      · simp [digits, power]
      · simp [digits, power]
  | some ds =>
      rw [known] at digits
      simp only [List.cons_append, Option.getD_some] at digits ⊢
      rw [leadingDigits_other rfl, afterDigits_other rfl, List.append_nil]
      simp only [leadingDigits_append, afterDigits_append, undigit, rest, List.append_nil]
      simp [digits, power]

/-! The characters of a spelling -/

def IsSpelt (c : Char) : Prop := (∃ d, c = digitChar d) ∨ c ∈ ['.', 'e', '+', '-']

theorem IsSpelt.plain {c : Char} (spelt : IsSpelt c) :
    c.toNat < 128 ∧ isPlainBlank c = false ∧ c ≠ '_' := by
  rcases spelt with ⟨d, rfl⟩ | member
  · revert d
    decide
  · simp only [List.mem_cons, List.not_mem_nil, or_false] at member
    rcases member with rfl | rfl | rfl | rfl <;> decide

theorem spelt_digits {ds : List Digit} {c : Char} (member : c ∈ ds.map digitChar) : IsSpelt c := by
  obtain ⟨d, _, rfl⟩ := List.mem_map.mp member
  exact Or.inl ⟨d, rfl⟩

theorem spelt_chars {c : Char} (member : c ∈ s.chars) : IsSpelt c := by
  unfold chars body at member
  simp only [List.mem_append] at member
  rcases member with sign | whole | fraction | power
  · split at sign
    · rw [List.mem_singleton.mp sign]
      exact Or.inr (by decide)
    · cases sign
  · exact spelt_digits whole
  · unfold fractionChars at fraction
    split at fraction
    · rcases List.mem_cons.mp fraction with rfl | more
      · exact Or.inr (by decide)
      · exact spelt_digits more
    · cases fraction
  · unfold powerChars at power
    split at power
    · rename_i negative ds _
      rcases List.mem_cons.mp power with rfl | power
      · exact Or.inr (by decide)
      · rcases List.mem_cons.mp power with rfl | more
        · cases negative <;> exact Or.inr (by decide)
        · exact spelt_digits more
    · cases power

theorem plainForm_spelt {cs : List Char} (spelt : ∀ c ∈ cs, IsSpelt c) : plainForm cs = cs := by
  unfold plainForm
  rw [if_pos]
  rw [List.all_eq_true]
  intro c member
  exact decide_eq_true (spelt c member).plain.1

theorem trim_spelt {cs : List Char} (spelt : ∀ c ∈ cs, IsSpelt c) : trim isPlainBlank cs = cs := by
  have kept {cs : List Char} (spelt : ∀ c ∈ cs, IsSpelt c) : cs.dropWhile isPlainBlank = cs := by
    cases cs with
    | nil => rfl
    | cons c rest =>
        rw [List.dropWhile_cons, (spelt c (by simp)).plain.2.1]
        rfl
  unfold trim
  rw [kept spelt, kept (by simpa using spelt), List.reverse_reverse]

theorem dropUnderscores_of_not_mem {cs : List Char} (absent : '_' ∉ cs) (afterDigit : Bool) :
    dropUnderscores afterDigit cs = some cs := by
  induction cs generalizing afterDigit with
  | nil => rfl
  | cons c rest ih =>
      rw [List.mem_cons, not_or] at absent
      rw [dropUnderscores, if_neg (Ne.symm absent.1), ih absent.2]
      rfl

theorem body_cases (proper : s.Proper) :
    ∃ c more, s.body = c :: more ∧ ((∃ d, c = digitChar d) ∨ c = '.') := by
  have digits := proper.digits
  unfold body
  cases whole : s.whole with
  | cons d ds => exact ⟨digitChar d, _, rfl, Or.inl ⟨d, rfl⟩⟩
  | nil =>
      unfold places at digits
      unfold fractionChars
      cases fraction : s.fraction with
      | none =>
          rw [whole, fraction] at digits
          exact absurd rfl digits
      | some ds => exact ⟨'.', _, rfl, Or.inr rfl⟩

theorem digitChar_ne_sign (d : Digit) : digitChar d ≠ '-' ∧ digitChar d ≠ '+' := by
  revert d
  decide

theorem toLower_digitChar (d : Digit) :
    (digitChar d).toLower ≠ 'i' ∧ (digitChar d).toLower ≠ 'n' := by
  revert d
  decide

theorem takeSign_chars (proper : s.Proper) : takeSign s.chars = (s.negative, s.body) := by
  obtain ⟨c, more, shape, first⟩ := body_cases proper
  unfold chars
  rw [shape]
  cases s.negative with
  | true => rfl
  | false =>
      rcases first with ⟨d, rfl⟩ | rfl
      · simp [takeSign, digitChar_ne_sign]
      · rfl

theorem realBody?_body (proper : s.Proper) : realBody? s.negative s.body = some s.value := by
  obtain ⟨c, more, shape, first⟩ := body_cases proper
  have lower : c.toLower ≠ 'i' ∧ c.toLower ≠ 'n' := by
    rcases first with ⟨d, rfl⟩ | rfl
    · exact toLower_digitChar d
    · decide
  have word (text : String) (begins : text.toList.head? = some 'i' ∨ text.toList.head? = some 'n') :
      String.ofList (s.body.map Char.toLower) ≠ text := by
    rintro rfl
    rw [shape] at begins
    simp [lower] at begins
  unfold realBody?
  rw [if_neg, if_neg, decimalBody?_body proper]
  · rfl
  · exact word "nan" (Or.inr rfl)
  · rintro (inf | infinity)
    · exact word "inf" (Or.inl rfl) inf
    · exact word "infinity" (Or.inl rfl) infinity

/-- A spelling is read as the number that it spells. -/
theorem readReal_chars (proper : s.Proper) : readReal (ofChars s.chars) = .ok s.value := by
  have spelt : ∀ c ∈ s.chars, IsSpelt c := fun c member => spelt_chars member
  have noUnderscore : '_' ∉ s.chars := fun member => (spelt _ member).plain.2.2 rfl
  unfold readReal
  rw [chars_ofChars, plainForm_spelt spelt, trim_spelt spelt,
    dropUnderscores_of_not_mem noUnderscore]
  simp only [Option.bind_eq_bind, Option.bind_some, takeSign_chars proper, realBody?_body proper]

end Spelling

end FeetInches.Numeral
