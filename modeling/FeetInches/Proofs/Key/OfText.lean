import Mathlib.Data.List.TakeWhile
import FeetInches.Proofs.Expression.Transcript
import FeetInches.Proofs.Numeral.Integer

namespace FeetInches

open Decimal Numeral

/-! What is refused -/

def BlamesValue {α : Type} (computation : Except Fault α) : Prop :=
  Settles (fun fault => fault.nature = .badValue) (fun _ => True) computation

theorem blamesValue_readInteger (text : Text) : BlamesValue (Numeral.readInteger text) := by
  unfold Numeral.readInteger
  simp only
  split
  · rfl
  · split
    · rfl
    · split
      · rfl
      · trivial

theorem blamesValue_readFraction (text : Text) : BlamesValue (Fraction.read text) := by
  unfold Fraction.read
  split
  · rfl
  · split
    · refine settles_bind (blamesValue_readInteger _) fun numerator _ => ?_
      refine settles_bind (blamesValue_readInteger _) fun denominator _ => ?_
      split
      · rfl
      · split
        · trivial
        · rfl
    · rfl

theorem blamesValue_lengthKey (pad : LengthPad) (text : Text) :
    BlamesValue (Key.lengthOfText pad text) := by
  unfold Key.lengthOfText
  split
  · trivial
  · have read := blamesValue_readFraction text
    unfold Key.fractionOfText
    split
    · trivial
    · rename_i fault failed
      rwa [failed] at read

theorem blamesValue_key (pad : Pad) (text : Text) : BlamesValue (Key.ofText pad text) := by
  cases pad with
  | feet => exact blamesValue_lengthKey .feet text
  | inches => exact blamesValue_lengthKey .inches text
  | scalar =>
      simp only [Key.ofText]
      split
      · trivial
      · split
        · trivial
        · rfl
  | operator =>
      simp only [Key.ofText]
      split
      · trivial
      · split
        · trivial
        · rfl
  | control =>
      simp only [Key.ofText]
      split
      · trivial
      · rfl

/-! Texts of fractions -/

theorem slashHalves?_of_not_mem {text : Text} (absent : .char '/' ∉ text) :
    slashHalves? text = none := by
  have rest : text.dropWhile (· ≠ .char '/') = [] := by
    rw [List.dropWhile_eq_nil_iff]
    intro p member
    exact decide_eq_true (ne_of_mem_of_not_mem member absent)
  rw [slashHalves?, rest]

theorem slashHalves?_append {above : Text} (first : .char '/' ∉ above) (below : Text) :
    slashHalves? (above ++ .char '/' :: below) =
      if below.contains (.char '/') then none else some (above, below) := by
  have others : ∀ p ∈ above, decide (p ≠ .char '/') = true :=
    fun p member => decide_eq_true (ne_of_mem_of_not_mem member first)
  have front : (above ++ .char '/' :: below).takeWhile (· ≠ .char '/') = above := by
    rw [List.takeWhile_append_of_pos others]
    simp
  have rest : (above ++ .char '/' :: below).dropWhile (· ≠ .char '/') = .char '/' :: below := by
    rw [List.dropWhile_append_of_pos others]
    simp
  rw [slashHalves?, front, rest]

theorem slashHalves?_eq_some_iff {text above below : Text} :
    slashHalves? text = some (above, below) ↔
      text = above ++ .char '/' :: below ∧ .char '/' ∉ above ∧ .char '/' ∉ below := by
  constructor
  · intro found
    by_cases slash : .char '/' ∈ text
    · obtain ⟨front, rest, rfl, first⟩ := List.eq_append_cons_of_mem slash
      rw [slashHalves?_append first] at found
      split at found
      · cases found
      · rename_i once
        cases found
        exact ⟨rfl, first, by simpa using once⟩
    · rw [slashHalves?_of_not_mem slash] at found
      cases found
  · rintro ⟨rfl, first, once⟩
    rw [slashHalves?_append first, if_neg (by simpa using once)]

def Fraction.ShownBy (s : Style) (f : Fraction) (text : Text) : Prop :=
  ∃ above below : Text, ∃ n d : Nat, text = above ++ .char '/' :: below ∧ s.Shows above n ∧
    s.Shows below d ∧ f = ⟨n, d⟩

theorem Fraction.read_eq_ok_iff {text : Text} {f : Fraction} :
    Fraction.read text = .ok f ↔ f.Proper ∧ f.ShownBy Style.anyScript text := by
  constructor
  · intro reads
    refine ⟨proper_of_read reads, ?_⟩
    unfold Fraction.read at reads
    split at reads
    · cases reads
    · rename_i above below halves
      obtain ⟨rfl, _⟩ := slashHalves?_eq_some_iff.mp halves
      split at reads
      · rename_i numerals
        rw [Bool.and_eq_true] at numerals
        obtain ⟨numerator, upper, more⟩ := bind_eq_ok.mp reads
        obtain ⟨denominator, lower, last⟩ := bind_eq_ok.mp more
        obtain ⟨n, aboveShows, rfl⟩ := readInteger_eq_ok_iff.mp ⟨numerals.1, upper⟩
        obtain ⟨d, belowShows, rfl⟩ := readInteger_eq_ok_iff.mp ⟨numerals.2, lower⟩
        refine ⟨above, below, n, d, rfl, aboveShows, belowShows, ?_⟩
        split at last
        · cases last
        · split at last
          · exact (Except.ok.inj last).symm
          · cases last
      · cases reads
  · rintro ⟨⟨known, range⟩, above, below, n, d, rfl, aboveShows, belowShows, rfl⟩
    have halves : slashHalves? (above ++ .char '/' :: below) = some (above, below) :=
      slashHalves?_eq_some_iff.mpr ⟨rfl, aboveShows.not_mem rfl, belowShows.not_mem rfl⟩
    obtain ⟨aboveNumeral, upper⟩ := readInteger_eq_ok_iff.mpr ⟨n, aboveShows, rfl⟩
    obtain ⟨belowNumeral, lower⟩ := readInteger_eq_ok_iff.mpr ⟨d, belowShows, rfl⟩
    unfold Fraction.read
    rw [halves]
    dsimp only
    rw [aboveNumeral, belowNumeral, upper, lower]
    change (if (d : Int) ∉ keyDenominators then _ else _) = _
    rw [if_neg (not_not_intro known)]
    exact if_pos range

theorem Fraction.read_ne_ok {text : Text} (absent : .char '/' ∉ text) (value : Fraction) :
    Fraction.read text ≠ .ok value := by
  intro reads
  obtain ⟨_, above, below, _, _, rfl, _⟩ := Fraction.read_eq_ok_iff.mp reads
  simp at absent

/-! What a key shows -/

theorem digitChar_ne_slash (d : Digit) : digitChar d ≠ '/' := by
  revert d
  decide

namespace Key

theorem eq_of_digitOfText? {text : Text} {d : Digit} (shown : digitOfText? text = some d) :
    text = [.char (digitChar d)] := by
  unfold digitOfText? at shown
  split at shown
  · rw [eq_digitChar_of_digit? shown]
  · cases shown

theorem ofString_digit (d : Digit) : Text.ofString (digitText [d]) = [.char (digitChar d)] := by
  simp [digitText, Text.ofString, Text.ofChars]

theorem exists_fractionOfText_iff {pad : LengthPad} {text : Text} :
    (∃ key, fractionOfText pad text = .ok key) ↔ ∃ value, Fraction.read text = .ok value := by
  unfold fractionOfText
  split
  · rename_i value reads
    simp [reads]
  · rename_i fault failed
    simp [failed]

theorem shows_fractionOfText {pad : LengthPad} {text : Text} {key : Key}
    (made : fractionOfText pad text = .ok key) : key.pad = pad.pad ∧ key.text = text := by
  unfold fractionOfText at made
  split at made
  · cases made
    exact ⟨rfl, rfl⟩
  · cases made

theorem shows_lengthOfText (pad : LengthPad) {text : Text} {key : Key}
    (made : lengthOfText pad text = .ok key) : key.pad = pad.pad ∧ key.text = text := by
  unfold lengthOfText at made
  split at made
  · rename_i d shown
    cases made
    exact ⟨rfl, (ofString_digit d).trans (eq_of_digitOfText? shown).symm⟩
  · exact shows_fractionOfText made

theorem shows_ofText {pad : Pad} {text : Text} {key : Key} (made : ofText pad text = .ok key) :
    key.pad = pad ∧ key.text = text := by
  cases pad with
  | feet => exact shows_lengthOfText .feet made
  | inches => exact shows_lengthOfText .inches made
  | scalar =>
      simp only [ofText] at made
      split at made
      · rename_i d shown
        cases made
        exact ⟨rfl, (ofString_digit d).trans (eq_of_digitOfText? shown).symm⟩
      · split at made
        · rename_i point
          cases made
          exact ⟨rfl, point.symm⟩
        · cases made
  | operator =>
      simp only [ofText] at made
      split at made
      · rename_i op found
        cases made
        exact ⟨rfl, (eq_symbol_of_ofSymbol? found).symm⟩
      · split at made
        · rename_i equals
          cases made
          exact ⟨rfl, equals.symm⟩
        · cases made
  | control =>
      simp only [ofText] at made
      split at made
      · rename_i command found
        cases made
        refine ⟨rfl, ?_⟩
        unfold Control.ofLabel? at found
        repeat' split at found
        all_goals first | cases found; symm; assumption | cases found
      · cases made

/-! Keys of one character, and of a text with a slash -/

theorem ofText_length (pad : LengthPad) (text : Text) :
    ofText pad.pad text = lengthOfText pad text := by
  cases pad <;> rfl

theorem exists_ofText_length_iff (pad : LengthPad) {p : CodePoint} (other : p ≠ .char '/') :
    (∃ key, ofText pad.pad [p] = .ok key) ↔ ∃ d, p = .char (digitChar d) := by
  rw [ofText_length, lengthOfText]
  split
  · rename_i d shown
    simp [List.singleton_inj.mp (eq_of_digitOfText? shown)]
  · rename_i unshown
    rw [exists_fractionOfText_iff]
    constructor
    · rintro ⟨value, reads⟩
      exact absurd reads (Fraction.read_ne_ok (by simp [Ne.symm other]) value)
    · rintro ⟨d, rfl⟩
      cases unshown.symm.trans (digit?_digitChar d)

theorem exists_ofText_scalar_iff {text : Text} :
    (∃ key, ofText .scalar text = .ok key) ↔
      text = "." ∨ ∃ d, text = [.char (digitChar d)] := by
  rw [ofText]
  split
  · rename_i d shown
    simp [eq_of_digitOfText? shown]
  · rename_i unshown
    split
    · rename_i point
      simp [point]
    · rename_i other
      simp only [reduceCtorEq, exists_false, false_iff, not_or, not_exists]
      refine ⟨other, fun d same => ?_⟩
      rw [same] at unshown
      cases unshown.symm.trans (digit?_digitChar d)

theorem exists_ofText_slash_iff (pad : LengthPad) {text : Text} (slash : .char '/' ∈ text) :
    (∃ key, ofText pad.pad text = .ok key) ↔ ∃ value, Fraction.read text = .ok value := by
  rw [ofText_length, lengthOfText]
  split
  · rename_i d shown
    rw [eq_of_digitOfText? shown] at slash
    simp [Ne.symm (digitChar_ne_slash d)] at slash
  · exact exists_fractionOfText_iff

end Key

/-! One key for each character -/

theorem exists_keysOfText_iff {pad : Pad} {text : Text} :
    (∃ keys, keysOfText pad text = .ok keys) ↔ ∀ p ∈ text, ∃ key, Key.ofText pad [p] = .ok key := by
  induction text with
  | nil => simp [keysOfText]
  | cons p rest ih =>
      rw [List.forall_mem_cons, ← ih]
      constructor
      · rintro ⟨keys, made⟩
        obtain ⟨key, first, more⟩ := bind_eq_ok.mp made
        obtain ⟨others, following, _⟩ := bind_eq_ok.mp more
        exact ⟨⟨key, first⟩, others, following⟩
      · rintro ⟨⟨key, first⟩, others, following⟩
        exact ⟨key :: others, by simp only [keysOfText, first, following]; rfl⟩

theorem shows_keysOfText {pad : Pad} {text : Text} {keys : List Key}
    (made : keysOfText pad text = .ok keys) :
    (∀ key ∈ keys, key.pad = pad) ∧ keys.flatMap Key.text = text := by
  induction text generalizing keys with
  | nil =>
      cases made
      simp
  | cons p rest ih =>
      obtain ⟨key, first, more⟩ := bind_eq_ok.mp made
      obtain ⟨others, following, same⟩ := bind_eq_ok.mp more
      cases same
      obtain ⟨onPad, shown⟩ := ih following
      have single := Key.shows_ofText first
      rw [List.forall_mem_cons, List.flatMap_cons, single.2, shown]
      exact ⟨⟨single.1, onPad⟩, rfl⟩

theorem blamesValue_keysOfText (pad : Pad) (text : Text) : BlamesValue (keysOfText pad text) := by
  induction text with
  | nil => trivial
  | cons p rest ih =>
      refine settles_bind (blamesValue_key pad [p]) fun key _ => ?_
      exact settles_bind ih fun keys _ => trivial

theorem mapM_ofText (pad : Pad) (text : Text) :
    (text.mapM fun p => Key.ofText pad [p]) = keysOfText pad text := by
  induction text with
  | nil => rfl
  | cons p rest ih =>
      rw [List.mapM_cons, ih]
      rfl

end FeetInches
