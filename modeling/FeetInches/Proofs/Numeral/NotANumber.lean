import FeetInches.Proofs.Numeral.Spelling
import FeetInches.Proofs.Text.LetterCase

namespace FeetInches

open Decimal Text

theorem Binary64.nearest_ne_nan (negative : Bool) (numerator denominator : Nat) :
    nearest negative numerator denominator ≠ .nan := by
  unfold nearest
  simp only
  split
  · simp
  · split <;> simp

namespace Numeral

theorem ofDecimal_ne_nan (negative : Bool) (digits : Nat) (exponent : Int) :
    ofDecimal negative digits exponent ≠ .nan := by
  unfold ofDecimal
  simp only
  split
  · simp [Binary64.zero]
  · split
    · simp
    · exact Binary64.nearest_ne_nan _ _ _

theorem decimalBody?_ne_nan (negative : Bool) (cs : List Char) :
    decimalBody? negative cs ≠ some .nan := by
  have parts (fraction : List Digit) (rest : List Char) :
      (if leadingDigits cs ++ fraction = [] then none
        else (exponentPart? rest).map fun exponent =>
          ofDecimal negative (ofDigits (leadingDigits cs ++ fraction))
            (exponent - fraction.length)) ≠ some .nan := by
    split
    · simp
    · intro read
      obtain ⟨exponent, _, same⟩ := Option.map_eq_some_iff.mp read
      exact ofDecimal_ne_nan _ _ _ same
  unfold decimalBody?
  dsimp only
  split
  · exact parts _ _
  · exact parts _ _

theorem realBody?_eq_nan_iff (negative : Bool) (cs : List Char) :
    realBody? negative cs = some .nan ↔ cs.map Char.toLower = ['n', 'a', 'n'] := by
  have word (text : String) : String.ofList (cs.map Char.toLower) = text ↔
      cs.map Char.toLower = text.toList := by
    rw [← String.toList_inj, String.toList_ofList]
  unfold realBody?
  simp only [word]
  split
  · rename_i infinite
    rcases infinite with same | same <;> simp [same]
  · split
    · rename_i same
      simp [same]
    · rename_i other
      exact iff_of_false (decimalBody?_ne_nan negative cs) other

/-! Signs and underscores -/

def signs : List (List Char) := [[], ['+'], ['-']]

theorem plain_of_mem_signs :
    ∀ sign ∈ signs, ∀ c ∈ sign, digit? c = none ∧ c ≠ '_' := by
  intro sign member c inSign
  have mark : c = '+' ∨ c = '-' := by
    simp only [signs, List.mem_cons, List.not_mem_nil, or_false] at member
    rcases member with rfl | rfl | rfl <;> simp_all
  rcases mark with rfl | rfl <;> decide

theorem takeSign_cases (cs : List Char) : ∃ sign ∈ signs, cs = sign ++ (takeSign cs).2 := by
  unfold takeSign
  split
  · exact ⟨['-'], by decide, rfl⟩
  · exact ⟨['+'], by decide, rfl⟩
  · exact ⟨[], by decide, rfl⟩

theorem takeSign_append {sign word : List Char} (member : sign ∈ signs)
    (letters : ∀ c ∈ word, c ≠ '+' ∧ c ≠ '-') : (takeSign (sign ++ word)).2 = word := by
  simp only [signs, List.mem_cons, List.not_mem_nil, or_false] at member
  rcases member with rfl | rfl | rfl
  · cases word with
    | nil => rfl
    | cons c rest => simp [takeSign, letters c (by simp)]
  · rfl
  · rfl

/-- An underscore stands between two digits, so where no digit is left none was dropped. -/
theorem eq_of_dropUnderscores {cs left : List Char} {afterDigit : Bool}
    (dropped : dropUnderscores afterDigit cs = some left)
    (noDigit : ∀ c ∈ left, digit? c = none) : left = cs := by
  induction cs generalizing afterDigit left with
  | nil =>
      cases dropped
      rfl
  | cons c rest ih =>
      rw [dropUnderscores] at dropped
      split at dropped
      · split at dropped
        · rename_i between
          have same := ih dropped noDigit
          subst same
          cases left with
          | nil => simp at between
          | cons next more => simp [noDigit next (by simp)] at between
        · cases dropped
      · obtain ⟨others, found, same⟩ := Option.map_eq_some_iff.mp dropped
        subst same
        rw [ih found fun other member => noDigit other (by simp [member])]

/-! The word -/

theorem digit?_of_toLower {c : Char} (letter : c.toLower = 'n' ∨ c.toLower = 'a') :
    digit? c = none ∧ c ≠ '_' ∧ c ≠ '+' ∧ c ≠ '-' := by
  rw [toLower_eq_iff (by decide), toLower_eq_iff (by decide)] at letter
  rcases letter with (rfl | rfl) | (rfl | rfl) <;> decide

theorem letters_of_word {word : List Char} (spelt : word.map Char.toLower = ['n', 'a', 'n']) :
    ∀ c ∈ word, c.toLower = 'n' ∨ c.toLower = 'a' := by
  intro c member
  have shown := List.mem_map_of_mem (f := Char.toLower) member
  rw [spelt] at shown
  simp only [List.mem_cons, List.not_mem_nil, or_false] at shown
  rcases shown with n | a | n
  · exact Or.inl n
  · exact Or.inr a
  · exact Or.inl n

end Numeral

/-- But for blanks around it and a sign, the text is the word `nan` in any letter case. -/
def Text.SaysNotANumber (text : Text) : Prop :=
  ∃ sign ∈ Numeral.signs, ∃ word, word.map Char.toLower = ['n', 'a', 'n'] ∧
    trim isPlainBlank (Numeral.plainForm text.chars) = sign ++ word

namespace Numeral

theorem readReal_eq_nan_iff (text : Text) : readReal text = .ok .nan ↔ text.SaysNotANumber := by
  unfold Text.SaysNotANumber
  generalize trimmed : trim isPlainBlank (plainForm text.chars) = cs
  have read : readReal text = .ok .nan ↔
      ∃ left, dropUnderscores false cs = some left ∧
        (takeSign left).2.map Char.toLower = ['n', 'a', 'n'] := by
    unfold readReal
    rw [trimmed]
    cases dropUnderscores false cs with
    | none => simp
    | some left =>
        simp only [Option.bind_eq_bind, Option.bind_some, Option.some.injEq, exists_eq_left',
          ← realBody?_eq_nan_iff (takeSign left).1]
        cases realBody? (takeSign left).1 (takeSign left).2 <;> simp
  rw [read]
  constructor
  · rintro ⟨left, dropped, spelt⟩
    obtain ⟨sign, member, split⟩ := takeSign_cases left
    have noDigit : ∀ c ∈ left, digit? c = none := by
      intro c inLeft
      rw [split] at inLeft
      rcases List.mem_append.mp inLeft with front | back
      · exact (plain_of_mem_signs sign member c front).1
      · exact (digit?_of_toLower (letters_of_word spelt c back)).1
    have same := eq_of_dropUnderscores dropped noDigit
    subst same
    exact ⟨sign, member, _, spelt, split⟩
  · rintro ⟨sign, member, word, spelt, rfl⟩
    have letters := fun c inWord => digit?_of_toLower (letters_of_word spelt c inWord)
    have back := takeSign_append member fun c inWord => (letters c inWord).2.2
    refine ⟨sign ++ word, Spelling.dropUnderscores_of_not_mem ?_ false, ?_⟩
    · intro underscore
      rcases List.mem_append.mp underscore with front | inWord
      · exact (plain_of_mem_signs sign member _ front).2 rfl
      · exact (letters _ inWord).2.1 rfl
    · rw [back]
      exact spelt

end Numeral

end FeetInches
