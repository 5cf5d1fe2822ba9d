import FeetInches.Proofs.Binary64.Arithmetic
import FeetInches.Proofs.Numeral.Spelling

namespace FeetInches

open Decimal Text Numeral

def Readable (text : Text) : Prop := ∃ s : Spelling, s.Proper ∧ text = ofChars s.chars

theorem Readable.readReal {text : Text} (readable : Readable text) :
    ∃ x, readReal text = .ok x := by
  obtain ⟨s, proper, rfl⟩ := readable
  exact ⟨s.value, Spelling.readReal_chars proper⟩

/-! What is typed -/

theorem exists_digits {text : Text}
    (characters : ∀ c ∈ text, c = .char '.' ∨ ∃ d : Digit, c = .char (digitChar d))
    (noPoint : text.count (.char '.') = 0) :
    ∃ ds : List Digit, text = ofChars (ds.map digitChar) := by
  induction text with
  | nil => exact ⟨[], rfl⟩
  | cons c rest ih =>
      rcases characters c (by simp) with rfl | ⟨d, rfl⟩
      · simp at noPoint
      · rw [List.count_cons_of_ne (by simp [digitChar_ne_point])] at noPoint
        obtain ⟨ds, rfl⟩ := ih (fun other member => characters other (by simp [member])) noPoint
        exact ⟨d :: ds, rfl⟩

theorem exists_typed {text : Text}
    (characters : ∀ c ∈ text, c = .char '.' ∨ ∃ d : Digit, c = .char (digitChar d))
    (points : text.count (.char '.') ≤ 1) :
    ∃ whole fraction,
      text = ofChars ({ whole := whole, fraction := fraction } : Spelling).chars := by
  induction text with
  | nil => exact ⟨[], none, rfl⟩
  | cons c rest ih =>
      have others := fun other member => characters other (List.mem_cons_of_mem c member)
      rcases characters c (by simp) with rfl | ⟨d, rfl⟩
      · rw [List.count_cons_self] at points
        obtain ⟨ds, rfl⟩ := exists_digits others (by omega)
        refine ⟨[], some ds, ?_⟩
        simp [Spelling.chars, Spelling.body, Spelling.fractionChars, Spelling.powerChars, ofChars]
      · rw [List.count_cons_of_ne (by simp [digitChar_ne_point])] at points
        obtain ⟨whole, fraction, rfl⟩ := ih others points
        exact ⟨d :: whole, fraction, rfl⟩

theorem TidyNumber.readable {text : Text} (tidy : TidyNumber text) :
    text = "." ∨ Readable text := by
  obtain ⟨whole, fraction, rfl⟩ := exists_typed tidy.characters tidy.points
  by_cases digits : whole ++ fraction.getD [] = []
  · left
    obtain ⟨wholeless, empty⟩ := List.append_eq_nil_iff.mp digits
    subst wholeless
    cases fraction with
    | none => exact absurd rfl tidy.nonempty
    | some ds =>
        obtain rfl : ds = [] := empty
        rfl
  · exact Or.inr ⟨_, ⟨digits, by simp⟩, rfl⟩

/-! What is written -/

theorem lowDigits_ne_nil (n : Nat) : lowDigits n ≠ [] := by
  unfold lowDigits
  split <;> simp

theorem digits_ne_nil (n : Nat) : digits n ≠ [] := by
  unfold digits
  simpa using lowDigits_ne_nil n

theorem toList_digitText (ds : List Digit) : (digitText ds).toList = ds.map digitChar := by
  simp [digitText]

theorem toList_natText (n : Nat) : (natText n).toList = (digits n).map digitChar :=
  toList_digitText _

theorem not_mem_digits {c : Char} (other : ∀ d, digitChar d ≠ c) (ds : List Digit) :
    c ∉ ds.map digitChar := by
  intro member
  obtain ⟨d, _, same⟩ := List.mem_map.mp member
  exact other d same

theorem not_mem_natText {c : Char} (other : ∀ d, digitChar d ≠ c) (n : Nat) :
    c ∉ (natText n).toList := by
  rw [toList_natText]
  exact not_mem_digits other _

def Numeral.Spelling.ofInt (n : Int) : Spelling := { negative := n < 0, whole := digits n.natAbs }

theorem Numeral.Spelling.proper_ofInt (n : Int) : (ofInt n).Proper :=
  ⟨by simpa [ofInt, places] using digits_ne_nil n.natAbs, by simp [ofInt]⟩

theorem toList_intText (n : Int) : (intText n).toList = (Spelling.ofInt n).chars := by
  unfold intText natText
  split
  · rename_i negative
    simp [toList_digitText, Spelling.ofInt, Spelling.chars, Spelling.body, Spelling.fractionChars,
      Spelling.powerChars, negative]
  · rename_i positive
    simp [toList_digitText, Spelling.ofInt, Spelling.chars, Spelling.body, Spelling.fractionChars,
      Spelling.powerChars, positive]

theorem readable_intText (n : Int) : Readable (intText n) :=
  ⟨_, Spelling.proper_ofInt n, congrArg ofChars (toList_intText n)⟩

def pointed? (fraction : List Digit) : Option (List Digit) :=
  if fraction = [] then none else some fraction

theorem toList_withFraction (whole fraction : List Digit) :
    (withFraction (digitText whole) fraction).toList =
      ({ whole := whole, fraction := pointed? fraction } : Spelling).body := by
  unfold withFraction pointed?
  split
  · simp [toList_digitText, Spelling.body, Spelling.fractionChars, Spelling.powerChars]
  · simp [toList_digitText, Spelling.body, Spelling.fractionChars, Spelling.powerChars]

def powerDigits (exponent : Int) : Bool × List Digit :=
  (exponent < 0,
    List.replicate (2 - (digits exponent.natAbs).length) 0 ++ digits exponent.natAbs)

theorem signed_powerDigits (exponent : Int) :
    signed (powerDigits exponent).1 (ofDigits (powerDigits exponent).2) = exponent := by
  simp only [powerDigits, ofDigits_zeros, ofDigits_digits, signed, decide_eq_true_eq]
  split <;> omega

theorem toList_powerText (exponent : Int) :
    (powerText exponent).toList =
      'e' :: (if (powerDigits exponent).1 then '-' else '+') ::
        (powerDigits exponent).2.map digitChar := by
  unfold powerText powerDigits
  by_cases negative : exponent < 0
  · simp [negative, toList_digitText]
  · simp [negative, toList_digitText]

def Decimal.Scientific.spelling (layout : Layout) (s : Scientific) : Spelling :=
  if s.exponent < layout.low ∨ layout.high ≤ s.exponent then
    { whole := s.digits.take 1
      fraction := pointed? (dropTrailingZeros (s.digits.drop 1))
      power := powerDigits s.exponent }
  else
    let count := (s.exponent + 1).toNat
    let fraction :=
      dropTrailingZeros (List.replicate (-s.exponent - 1).toNat 0 ++ s.digits.drop count)
    { whole :=
        if count = 0 then [0]
        else s.digits.take count ++ List.replicate (count - s.digits.length) 0
      fraction := pointed? (if fraction = [] ∧ layout.alwaysPoint then [0] else fraction) }

section Scientific

variable (layout : Layout) {s : Scientific}

theorem toList_text (s : Scientific) : (s.text layout).toList = (s.spelling layout).body := by
  unfold Scientific.text Scientific.spelling
  split
  · rw [String.toList_append, toList_withFraction, toList_powerText]
    simp [Spelling.body, Spelling.fractionChars, Spelling.powerChars]
  · exact toList_withFraction _ _

theorem proper_spelling (nonempty : s.digits ≠ []) : (s.spelling layout).Proper := by
  unfold Scientific.spelling
  split
  · exact ⟨by simp [nonempty], by simp [powerDigits, digits_ne_nil]⟩
  · refine ⟨?_, by simp⟩
    dsimp only
    split
    · simp
    · rename_i counted
      simp [nonempty, counted]

theorem order_spelling (s : Scientific) :
    (s.spelling layout).order ≤ max 1 (s.exponent + 1) := by
  unfold Scientific.spelling
  split
  · have short := s.digits.length_take_le 1
    simp only [Spelling.order, Spelling.exponent, signed_powerDigits]
    omega
  · simp only [Spelling.order, Spelling.exponent]
    split
    · simp only [List.length_singleton]
      omega
    · simp only [List.length_append, List.length_take, List.length_replicate]
      omega

end Scientific

theorem significant_ne_nil (count numerator denominator : Nat) :
    (significant count numerator denominator).digits ≠ [] := by
  unfold significant
  dsimp only
  split
  · exact digits_ne_nil _
  · exact digits_ne_nil _

def Binary64.scientific (choose : Nat → Scientific) (x : Binary64) : Scientific :=
  if x.magnitude = 0 then ⟨[0], 0⟩ else choose x.magnitude

def Binary64.spelling (layout : Layout) (choose : Nat → Scientific) (x : Binary64) : Spelling :=
  { (x.scientific choose).spelling layout with negative := x.isNegative }

section LaidOut

variable (layout : Layout) {choose : Nat → Scientific} {x : Binary64}

theorem laidOut_eq (known : x.isFinite) :
    laidOut layout choose x =
      (if x.isNegative then "-" else "") ++ (x.scientific choose).text layout := by
  have finite : nonFiniteText? x = none := by
    cases x with
    | finite => rfl
    | _ => cases known
  unfold laidOut
  rw [finite]
  rfl

theorem toList_laidOut (known : x.isFinite) :
    (laidOut layout choose x).toList = (x.spelling layout choose).chars := by
  rw [laidOut_eq layout known, String.toList_append, toList_text, Spelling.chars, Binary64.spelling]
  split <;> rfl

theorem proper_laidOut (nonempty : ∀ n, (choose n).digits ≠ []) (x : Binary64) :
    (x.spelling layout choose).Proper := by
  have digits : (x.scientific choose).digits ≠ [] := by
    unfold Binary64.scientific
    split
    · exact List.cons_ne_nil _ _
    · exact nonempty x.magnitude
  have proper := proper_spelling layout digits
  exact ⟨proper.digits, proper.power⟩

theorem order_laidOut (choose : Nat → Scientific) (x : Binary64) :
    (x.spelling layout choose).order ≤ max 1 ((choose x.magnitude).exponent + 1) := by
  have order := order_spelling layout (x.scientific choose)
  change (x.spelling layout choose).order ≤ _ at order
  unfold Binary64.scientific at order
  split at order
  · dsimp only at order
    omega
  · exact order

end LaidOut

/-- What a finite number is written as can be read. -/
theorem readable_text {x : Binary64} (known : x.isFinite) : Readable x.text := by
  unfold Binary64.text
  split
  · exact readable_intText _
  · exact ⟨_, proper_laidOut _ (fun n => significant_ne_nil 10 n oneUnits) x,
      congrArg ofChars (toList_laidOut _ known)⟩

end FeetInches
