import Mathlib.Data.List.Forall2
import FeetInches.Proofs.Numeral.Spelling

namespace FeetInches

open Decimal Text

theorem exists_of_forall₂ {α β : Type} {R : α → β → Prop} {xs : List α} {ys : List β}
    (all : List.Forall₂ R xs ys) {x : α} (member : x ∈ xs) : ∃ y ∈ ys, R x y := by
  induction all with
  | nil => cases member
  | cons related _ ih =>
      rcases List.mem_cons.mp member with rfl | member
      · exact ⟨_, by simp, related⟩
      · obtain ⟨y, inside, found⟩ := ih member
        exact ⟨y, by simp [inside], found⟩

namespace Text

/-! Characters -/

theorem forall_ascii {P : Char → Prop} (codes : ∀ n < 128, P (Char.ofNat n)) {c : Char}
    (plain : c.toNat < 128) : P c := by
  have known := codes c.toNat plain
  rwa [Char.ofNat_toNat] at known

theorem exists_zero_of_decimalDigit? {c : Char} {d : Digit} (shown : decimalDigit? c = some d) :
    ∃ first ∈ decimalZeros, c = Char.ofNat (first + d.val) := by
  obtain ⟨first, member, found⟩ := List.exists_of_findSome?_eq_some shown
  split at found
  · rename_i range
    cases found
    have code : first + (c.toNat - first) = c.toNat := by omega
    exact ⟨first, member, by simp only [code, Char.ofNat_toNat]⟩
  · cases found

theorem eq_digitChar_of_decimalDigit? {c : Char} {d : Digit} (shown : decimalDigit? c = some d)
    (plain : c.toNat < 128) : c = digitChar d := by
  obtain ⟨first, member, rfl⟩ := exists_zero_of_decimalDigit? shown
  have others : ∀ first ∈ decimalZeros, ∀ d : Digit,
      (Char.ofNat (first + d.val)).toNat < 128 → first = 0x30 := by decide +kernel
  obtain rfl := others first member d plain
  rfl

theorem isBlank_of_decimalDigit? {c : Char} {d : Digit} (shown : decimalDigit? c = some d) :
    isBlank c = false := by
  obtain ⟨first, member, rfl⟩ := exists_zero_of_decimalDigit? shown
  have all : ∀ first ∈ decimalZeros, ∀ d : Digit,
      isBlank (Char.ofNat (first + d.val)) = false := by decide +kernel
  exact all first member d

def blankCodes : List Nat :=
  List.range' 9 5 ++ 32 :: List.range' 0x1c 4 ++
    [0x85, 0xa0, 0x1680, 0x2028, 0x2029, 0x202f, 0x205f, 0x3000] ++ List.range' 0x2000 11

theorem mem_blankCodes {c : Char} (blank : isBlank c) : c.toNat ∈ blankCodes := by
  have space : c = ' ' ↔ c.toNat = 32 := Char.toNat_inj.symm
  simp only [isBlank, isPlainBlank, Bool.or_eq_true, Bool.and_eq_true, decide_eq_true_eq,
    List.contains_iff_mem, space] at blank
  simp only [blankCodes, List.mem_append, List.mem_cons, List.mem_range'_1]
  simp only [List.mem_cons, List.not_mem_nil, or_false] at blank ⊢
  omega

theorem isBlank_of_isDigitLike {c : Char} (like : isDigitLike c) : isBlank c = false := by
  by_contra blank
  have unlike : ∀ code ∈ blankCodes, isDigitLike (Char.ofNat code) = false := by decide +kernel
  have unlike := unlike c.toNat (mem_blankCodes (Bool.of_not_eq_false blank))
  rw [Char.ofNat_toNat, like] at unlike
  cases unlike

theorem large_of_isDigitLike {c : Char} (like : isDigitLike c) (other : decimalDigit? c = none) :
    128 ≤ c.toNat := by
  by_contra large
  have plain : c.toNat < 128 := by omega
  have unlike := forall_ascii (P := fun c => decimalDigit? c = none → isDigitLike c = false)
    (by decide +kernel) plain
  rw [like] at unlike
  cases unlike other

theorem isPlainBlank_digitChar (d : Digit) : isPlainBlank (digitChar d) = false := by
  revert d
  decide

end Text

abbrev AreDecimals (cs : List Char) (ds : List Digit) : Prop :=
  List.Forall₂ (fun c d => decimalDigit? c = some d) cs ds

namespace Numeral

variable {cs : List Char} {ds : List Digit}

/-! The ASCII form of a text -/

theorem go_cons {c : Char} {d : Digit} (read : decimalDigit? c = some d) (rest : List Char) :
    plainForm.go (c :: rest) = digitChar d :: plainForm.go rest := by
  rw [plainForm.go, isBlank_of_decimalDigit? read, read]
  split
  · rename_i plain
    rw [eq_digitChar_of_decimalDigit? read (by omega)]
  · rfl

theorem go_decimals (shown : AreDecimals cs ds) : plainForm.go cs = ds.map digitChar := by
  induction shown with
  | nil => rfl
  | cons read _ ih => rw [go_cons read, ih, List.map_cons]

theorem eq_digits_of_plain (shown : AreDecimals cs ds) (plain : ∀ c ∈ cs, c.toNat < 128) :
    cs = ds.map digitChar := by
  induction shown with
  | nil => rfl
  | cons read _ ih =>
      rw [List.forall_mem_cons] at plain
      rw [eq_digitChar_of_decimalDigit? read plain.1, ih plain.2]
      rfl

theorem plainForm_decimals (shown : AreDecimals cs ds) : plainForm cs = ds.map digitChar := by
  unfold plainForm
  split
  · rename_i plain
    rw [List.all_eq_true] at plain
    exact eq_digits_of_plain shown fun c member => of_decide_eq_true (plain c member)
  · exact go_decimals shown

theorem exists_go (like : ∀ c ∈ cs, isDigitLike c) :
    (∃ ds, AreDecimals cs ds) ∨
      (∃ ds : List Digit, plainForm.go cs = ds.map digitChar ++ ['?']) ∧
        ∃ c ∈ cs, 128 ≤ c.toNat := by
  -- A character that only looks like a digit is not ASCII, so the text is not taken as it stands.
  induction cs with
  | nil => exact Or.inl ⟨[], .nil⟩
  | cons c rest ih =>
      cases read : decimalDigit? c with
      | none =>
          have large := large_of_isDigitLike (like c (by simp)) read
          refine Or.inr ⟨⟨[], ?_⟩, c, by simp, large⟩
          rw [plainForm.go, if_neg (by omega), isBlank_of_isDigitLike (like c (by simp)), read]
          rfl
      | some d =>
          rcases ih fun other member => like other (by simp [member]) with
            ⟨ds, shown⟩ | ⟨⟨ds, form⟩, other, member, large⟩
          · exact Or.inl ⟨d :: ds, .cons read shown⟩
          · refine Or.inr ⟨⟨d :: ds, ?_⟩, other, by simp [member], large⟩
            rw [go_cons read, form]
            rfl

theorem exists_plainForm (like : ∀ c ∈ cs, isDigitLike c) :
    (∃ ds, AreDecimals cs ds) ∨
      ∃ ds : List Digit, plainForm cs = ds.map digitChar ++ ['?'] := by
  refine (exists_go like).imp_right ?_
  rintro ⟨⟨ds, form⟩, c, member, large⟩
  have other : ¬ cs.all (·.toNat < 128) := by
    intro plain
    have small := of_decide_eq_true (List.all_eq_true.mp plain c member)
    omega
  exact ⟨ds, by rw [plainForm, if_neg other, form]⟩

/-! Reading -/

theorem takeDigits_digits (afterDigit : Bool) (ds : List Digit) {rest : List Char}
    (ends : ∀ c ∈ rest.head?, digit? c = none ∧ c ≠ '_') :
    takeDigits afterDigit (ds.map digitChar ++ rest) = some (ds, rest) := by
  induction ds generalizing afterDigit with
  | nil =>
      cases rest with
      | nil => rfl
      | cons c more =>
          obtain ⟨other, bar⟩ := ends c rfl
          rw [List.map_nil, List.nil_append, takeDigits, other]
          exact if_pos bar
  | cons d ds ih =>
      rw [List.map_cons, List.cons_append, takeDigits, digit?_digitChar, ih]
      rfl

/-- What is read of digits, and of digits that a question mark follows. -/
theorem readInteger_of_plainForm {text : Text} {rest : List Char} (ends : rest = [] ∨ rest = ['?'])
    (form : plainForm text.chars = ds.map digitChar ++ rest) :
    readInteger text =
      if maxNumeralDigits < ds.length then .error (.numeralTooLong ds.length)
      else if ds = [] ∨ rest ≠ [] then .error (.notInteger text)
      else .ok (ofDigits ds) := by
  have body : takeSign ((ds.map digitChar ++ rest).dropWhile isPlainBlank) =
      (false, ds.map digitChar ++ rest) := by
    cases ds with
    | nil => rcases ends with rfl | rfl <;> rfl
    | cons d ds => simp [isPlainBlank_digitChar, takeSign, Spelling.digitChar_ne_sign]
  have taken : takeDigits false (ds.map digitChar ++ rest) = some (ds, rest) := by
    apply takeDigits_digits
    rcases ends with rfl | rfl
    · simp
    · rintro _ ⟨⟩
      decide
  have closing : (¬ rest.all isPlainBlank) ↔ rest ≠ [] := by
    rcases ends with rfl | rfl <;> decide
  unfold readInteger
  rw [form, body]
  simp only [taken, closing]
  rfl

theorem readInteger_decimals {text : Text} (shown : AreDecimals text.chars ds) (digits : ds ≠ []) :
    readInteger text =
      if maxNumeralDigits < ds.length then .error (.numeralTooLong ds.length)
      else .ok (ofDigits ds) := by
  have form : plainForm text.chars = ds.map digitChar ++ [] := by
    rw [plainForm_decimals shown, List.append_nil]
  rw [readInteger_of_plainForm (Or.inl rfl) form]
  simp [digits]

/-- How a numeral is written: its digits, and how many of them there may be at most. -/
structure Style where
  digit? : Char → Option Digit
  most? : Option Nat

def Style.Shows (s : Style) (text : Text) (n : Nat) : Prop :=
  ∃ ds, List.Forall₂ (fun c d => s.digit? c = some d) text.chars ds ∧ ds ≠ [] ∧
    (∀ most ∈ s.most?, ds.length ≤ most) ∧ n = ofDigits ds

def Style.anyScript : Style := ⟨decimalDigit?, some maxNumeralDigits⟩

def Style.ascii : Style := ⟨Decimal.digit?, none⟩

theorem Style.Shows.not_mem {s : Style} {text : Text} {n : Nat} (shown : s.Shows text n)
    {c : Char} (other : s.digit? c = none) : .char c ∉ text := by
  obtain ⟨ds, digits, _⟩ := shown
  intro member
  have among : c ∈ text.chars := List.mem_map.mpr ⟨_, member, rfl⟩
  obtain ⟨d, _, read⟩ := exists_of_forall₂ digits among
  rw [other] at read
  cases read

/-- A text of characters that look like digits is read if it shows a number. -/
theorem readInteger_eq_ok_iff {text : Text} {n : Int} :
    isNumeral text ∧ readInteger text = .ok n ↔
      ∃ m : Nat, Style.anyScript.Shows text m ∧ n = m := by
  constructor
  · rintro ⟨numeral, read⟩
    obtain ⟨nonempty, like⟩ : text ≠ [] ∧ ∀ c ∈ text.chars, isDigitLike c := by
      simpa [isNumeral] using numeral
    rcases exists_plainForm like with ⟨ds, shown⟩ | ⟨ds, form⟩
    · have digits : ds ≠ [] := by
        rintro rfl
        cases text with
        | nil => exact nonempty rfl
        | cons => cases shown
      rw [readInteger_decimals shown digits] at read
      split at read
      · cases read
      · cases read
        refine ⟨_, ⟨ds, shown, digits, ?_, rfl⟩, rfl⟩
        rintro _ ⟨⟩
        omega
    · rw [readInteger_of_plainForm (Or.inr rfl) form] at read
      simp at read
      split at read <;> cases read
  · rintro ⟨m, ⟨ds, shown, digits, short, rfl⟩, rfl⟩
    refine ⟨?_, ?_⟩
    · have nonempty : text ≠ [] := by
        rintro rfl
        cases shown
        exact digits rfl
      have like : ∀ c ∈ text.chars, isDigitLike c := by
        intro c member
        obtain ⟨d, _, read⟩ := exists_of_forall₂ shown member
        change decimalDigit? c = some d at read
        simp [isDigitLike, read]
      simpa [isNumeral, nonempty] using like
    · have fits := short _ rfl
      rw [readInteger_decimals shown digits, if_neg (by omega)]

end Numeral

end FeetInches
