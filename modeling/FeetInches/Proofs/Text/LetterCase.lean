import Mathlib
import FeetInches.Text.LetterCase

namespace FeetInches.Text

theorem toLower_eq_iff {c l : Char} (small : l.isLower) :
    c.toLower = l ↔ c = l ∨ c = l.toUpper := by
  have own : l.toLower = l := Char.toLower_eq_of_not_isUpper (Char.not_isUpper_of_isLower small)
  constructor
  · rintro rfl
    by_cases capital : c.isUpper
    · right
      rw [Char.toUpper_toLower_eq_toUpper]
      exact (Char.toUpper_eq_of_not_isLower (Char.not_isLower_of_isUpper capital)).symm
    · exact Or.inl (Char.toLower_eq_of_not_isUpper capital).symm
  · rintro (rfl | rfl)
    · exact own
    · rw [Char.toLower_toUpper_eq_toLower, own]

/-- The characters outside ASCII with a small letter at the start of their small form. -/
def otherCapitals : Char → List Char
  | 'i' => [Char.ofNat 0x130]
  | 'k' => [Char.ofNat 0x212a]
  | _ => []

theorem mem_otherCapitals_iff {c l : Char} :
    c ∈ otherCapitals l ↔
      (c = Char.ofNat 0x130 ∧ l = 'i') ∨ (c = Char.ofNat 0x212a ∧ l = 'k') := by
  constructor
  · intro member
    unfold otherCapitals at member
    split at member
    · exact Or.inl ⟨List.mem_singleton.mp member, rfl⟩
    · exact Or.inr ⟨List.mem_singleton.mp member, rfl⟩
    · cases member
  · rintro (⟨rfl, rfl⟩ | ⟨rfl, rfl⟩) <;> decide

section SmallForm

variable {c l : Char} (small : l.isLower)

include small in
theorem ne_of_toLower_eq (same : c.toLower = c) (other : c.isLower = false) :
    c ≠ l ∧ c ≠ l.toUpper := by
  have distinct : c ≠ l := by
    rintro rfl
    rw [other] at small
    cases small
  refine ⟨distinct, fun capital => distinct ?_⟩
  rw [← same]
  exact (toLower_eq_iff small).mpr (Or.inr capital)

include small in
theorem head?_smallLetters_eq_some :
    (smallLetters c).head? = some l ↔ c = l ∨ c = l.toUpper ∨ c ∈ otherCapitals l := by
  rw [mem_otherCapitals_iff]
  unfold smallLetters
  split
  · rename_i dotted
    subst dotted
    have other := ne_of_toLower_eq (c := Char.ofNat 0x130) small (by decide) (by decide)
    have kelvin : Char.ofNat 0x130 ≠ Char.ofNat 0x212a := by decide
    simp [other, kelvin, eq_comm]
  · rename_i notDotted
    split
    · rename_i kelvin
      subst kelvin
      have other := ne_of_toLower_eq (c := Char.ofNat 0x212a) small (by decide) (by decide)
      simp [other, notDotted, eq_comm]
    · rename_i notKelvin
      simp [toLower_eq_iff small, notDotted, notKelvin]

end SmallForm

theorem smallLetters_ne_nil (c : Char) : smallLetters c ≠ [] := by
  unfold smallLetters
  split
  · simp
  · split <;> simp

/-- Only the dotted i has a small form of more than one character. -/
theorem smallLetters_eq_singleton_iff {c l : Char} (other : l ≠ 'i') :
    smallLetters c = [l] ↔ (smallLetters c).head? = some l := by
  unfold smallLetters
  split
  · simp [Ne.symm other]
  · split <;> simp

theorem lowered_cons (c : Char) (rest : List Char) :
    lowered (c :: rest) = smallLetters c ++ lowered rest := rfl

theorem head?_lowered (c : Char) (rest : List Char) :
    (lowered (c :: rest)).head? = (smallLetters c).head? := by
  rw [lowered_cons, List.head?_append_of_ne_nil _ (smallLetters_ne_nil c)]

/-- A word without an `i` is the small form of the texts that have its letters in turn, in either
case. -/
theorem lowered_eq_iff {word cs : List Char} (other : 'i' ∉ word) :
    lowered cs = word ↔ List.Forall₂ (fun l c => (smallLetters c).head? = some l) word cs := by
  induction cs generalizing word with
  | nil => simp [lowered, eq_comm]
  | cons c rest ih =>
      rw [lowered_cons, List.forall₂_cons_right_iff]
      constructor
      · rintro rfl
        -- A small form of two characters would begin with an `i`.
        obtain ⟨l, more, form⟩ := List.exists_cons_of_ne_nil (smallLetters_ne_nil c)
        rw [form, List.cons_append, List.mem_cons, not_or] at other
        have head : (smallLetters c).head? = some l := by rw [form, List.head?_cons]
        have single := (smallLetters_eq_singleton_iff (Ne.symm other.1)).mpr head
        obtain rfl : more = [] := (List.cons.inj (form.symm.trans single)).2
        exact ⟨l, lowered rest, head, (ih other.2).mp rfl, by rw [single]; rfl⟩
      · rintro ⟨l, letters, head, following, rfl⟩
        rw [List.mem_cons, not_or] at other
        rw [(smallLetters_eq_singleton_iff (Ne.symm other.1)).mpr head,
          (ih other.2).mpr following, List.singleton_append]

end FeetInches.Text
