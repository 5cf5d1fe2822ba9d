import FeetInches.KeyScript
import FeetInches.Proofs.Key.OfText
import FeetInches.Proofs.Text.LetterCase

namespace FeetInches.KeyScript

open Decimal Numeral Text

/-- What the grammar leaves open: how the numerals of a fraction are written, and which characters
stand for a small letter besides itself and its capital. -/
structure Alphabet extends Style where
  capitals : Char → List Char

def controlNames : List String := ["bs", "backspace", "clear"]

def padLetters : List (Char × Pad) := [('f', .feet), ('i', .inches), ('s', .scalar)]

namespace Alphabet

def ascii : Alphabet := { Style.ascii with capitals := fun _ => [] }

/-- Numerals of every script, and all characters that have the letter in their small form. -/
def full : Alphabet := { Style.anyScript with capitals := otherCapitals }

def Stands (a : Alphabet) (l : Char) (p : CodePoint) : Prop :=
  ∃ c, p = .char c ∧ (c = l ∨ c = l.toUpper ∨ c ∈ a.capitals l)

inductive Command (a : Alphabet) : Text → Prop where
  | symbol {symbol : String} (known : symbol ∈ ["+", "-", "x", "/", "="]) : Command a symbol
  | control {name : String} {word : Text} (known : name ∈ controlNames)
      (spelt : List.Forall₂ a.Stands name.toList word) : Command a word

def LengthBody (a : Alphabet) (body : Text) : Prop :=
  (body ≠ [] ∧ ∀ p ∈ body, ∃ d, p = .char (digitChar d)) ∨
    ∃ f : Fraction, f.Proper ∧ f.ShownBy a.toStyle body

def NumberBody (body : Text) : Prop :=
  body ≠ [] ∧ ∀ p ∈ body, p = .char '.' ∨ ∃ d, p = .char (digitChar d)

def Body (a : Alphabet) : Pad → Text → Prop
  | .feet | .inches => a.LengthBody
  | .scalar => NumberBody
  | .operator | .control => fun _ => False

def Typed (a : Alphabet) (word : Text) (pad : Pad) (body : Text) : Prop :=
  ∃ l p, (l, pad) ∈ padLetters ∧ a.Stands l p ∧ word = p :: body

def Word (a : Alphabet) (word : Text) : Prop :=
  a.Command word ∨ ∃ pad body, a.Typed word pad body ∧ a.Body pad body

end Alphabet

open Alphabet

/-! Letters -/

theorem stands_full_iff {l : Char} {p : CodePoint} (small : l.isLower) :
    full.Stands l p ↔ (smallLetters p.shown).head? = some l := by
  cases p with
  | char c => simp [Stands, full, CodePoint.shown, head?_smallLetters_eq_some small]
  | surrogate offset =>
      have other : (smallLetters (Char.ofNat 0xfffd)).head? ≠ some l := by
        rintro same
        obtain rfl := Option.some.inj same
        revert small
        decide
      simp [Stands, CodePoint.shown, other]

theorem spelt_iff {name : List Char} {word : Text} (small : ∀ l ∈ name, l.isLower)
    (other : 'i' ∉ name) :
    List.Forall₂ full.Stands name word ↔ lowered word.chars = name := by
  rw [lowered_eq_iff other, Text.chars, List.forall₂_map_right_iff]
  constructor
  · intro spelt
    refine List.Forall₂.imp ?_ ((List.forall₂_and_left _ _).mpr ⟨small, spelt⟩)
    exact fun l p both => (stands_full_iff both.1).mp both.2
  · intro letters
    refine List.Forall₂.imp ?_ ((List.forall₂_and_left _ _).mpr ⟨small, letters⟩)
    exact fun l p both => (stands_full_iff both.1).mpr both.2

def letterPad? (word : Text) : Option Pad := (lowered word.chars).head?.bind padOfLetter?

theorem padOfLetter?_eq_some_iff {l : Char} {pad : Pad} :
    padOfLetter? l = some pad ↔ (l, pad) ∈ padLetters := by
  unfold padOfLetter? padLetters
  split <;> simp_all [eq_comm]

theorem isLower_of_padLetter {l : Char} {pad : Pad} (known : (l, pad) ∈ padLetters) :
    l.isLower := by
  have all : ∀ letter ∈ padLetters, letter.1.isLower := by decide
  exact all _ known

theorem typed_iff {word body : Text} {pad : Pad} :
    full.Typed word pad body ↔ letterPad? word = some pad ∧ ∃ p, word = p :: body := by
  constructor
  · rintro ⟨l, p, known, stands, rfl⟩
    have head := (stands_full_iff (isLower_of_padLetter known)).mp stands
    refine ⟨?_, p, rfl⟩
    rw [letterPad?, Text.chars, List.map_cons, head?_lowered, head]
    exact padOfLetter?_eq_some_iff.mpr known
  · rintro ⟨letter, p, rfl⟩
    rw [letterPad?, Text.chars, List.map_cons, head?_lowered] at letter
    obtain ⟨l, head, found⟩ := Option.bind_eq_some_iff.mp letter
    have known := padOfLetter?_eq_some_iff.mp found
    exact ⟨l, p, known, (stands_full_iff (isLower_of_padLetter known)).mpr head, rfl⟩

theorem typed_unique {word body otherBody : Text} {pad otherPad : Pad}
    (typed : full.Typed word pad body) (again : full.Typed word otherPad otherBody) :
    pad = otherPad ∧ body = otherBody := by
  obtain ⟨letter, p, rfl⟩ := typed_iff.mp typed
  obtain ⟨sameLetter, q, same⟩ := typed_iff.mp again
  exact ⟨Option.some.inj (letter.symm.trans sameLetter), (List.cons.inj same).2⟩

/-! Commands -/

theorem command_of_ofSymbol? {word : Text} {op : Arith} (found : Arith.ofSymbol? word = some op) :
    full.Command word := by
  rw [eq_symbol_of_ofSymbol? found]
  exact .symbol (by cases op <;> decide)

theorem small_of_control {name : String} (known : name ∈ controlNames) :
    (∀ l ∈ name.toList, l.isLower) ∧ 'i' ∉ name.toList := by
  simp only [controlNames, List.mem_cons, List.not_mem_nil, or_false] at known
  rcases known with rfl | rfl | rfl <;> simp

theorem spelt_control_iff {name : String} (known : name ∈ controlNames) {word : Text} :
    List.Forall₂ full.Stands name.toList word ↔ String.ofList (lowered word.chars) = name := by
  obtain ⟨small, other⟩ := small_of_control known
  rw [spelt_iff small other, ← String.toList_inj, String.toList_ofList]

theorem readWord_command {word : Text} (command : full.Command word) :
    (∃ keys, readWord word = .ok keys) ∧ letterPad? word = none := by
  cases command with
  | symbol known =>
      simp only [List.mem_cons, List.not_mem_nil, or_false] at known
      rcases known with rfl | rfl | rfl | rfl | rfl <;> exact ⟨⟨_, rfl⟩, by decide⟩
  | @control name _ known spelt =>
      have lower := (spelt_control_iff known).mp spelt
      have entry : ∀ name ∈ controlNames,
          (controlWords.find? (·.1 = name)).isSome ∧
            name.toList.head?.bind padOfLetter? = none := by decide
      obtain ⟨found, noLetter⟩ := entry name known
      obtain ⟨control, found⟩ := Option.isSome_iff_exists.mp found
      constructor
      · unfold readWord
        simp only [lower, found]
        split
        · exact ⟨_, rfl⟩
        · split <;> exact ⟨_, rfl⟩
      · rw [← lower, String.toList_ofList] at noLetter
        exact noLetter

theorem readWord_of_not_command {word : Text} (other : ¬ full.Command word) :
    readWord word =
      match letterPad? word, word.drop 1 with
      | some pad, first :: rest => readBody pad (first :: rest)
      | _, _ => .error (.unknownWord word) := by
  have noSymbol : Arith.ofSymbol? word = none := by
    cases found : Arith.ofSymbol? word with
    | none => rfl
    | some op => exact absurd (command_of_ofSymbol? found) other
  have noEquals : word ≠ equalsSymbol := by
    rintro rfl
    exact other (.symbol (by decide))
  have noControl : controlWords.find? (·.1 = String.ofList (lowered word.chars)) = none := by
    rw [List.find?_eq_none]
    intro entry member found
    have names : ∀ entry ∈ controlWords, entry.1 ∈ controlNames := by decide
    have known := names entry member
    exact other (.control known ((spelt_control_iff known).mpr (of_decide_eq_true found).symm))
  unfold readWord
  simp only [noSymbol, if_neg noEquals, noControl]
  rfl

/-! Bodies -/

theorem shows_readBody {pad : Pad} {body : Text} {keys : List Key}
    (read : readBody pad body = .ok keys) :
    (∀ key ∈ keys, key.pad = pad) ∧ keys.flatMap Key.text = body := by
  unfold readBody at read
  split at read
  · obtain ⟨key, made, same⟩ := bind_eq_ok.mp read
    cases same
    simpa using Key.shows_ofText made
  · rw [mapM_ofText] at read
    exact shows_keysOfText read

theorem blamesValue_readBody (pad : Pad) (body : Text) : BlamesValue (readBody pad body) := by
  unfold readBody
  split
  · exact settles_bind (blamesValue_key pad body) fun _ _ => trivial
  · rw [mapM_ofText]
    exact blamesValue_keysOfText pad body

theorem exists_readBody_slash_iff {pad : Pad} {body : Text} (slash : .char '/' ∈ body) :
    (∃ keys, readBody pad body = .ok keys) ↔ ∃ key, Key.ofText pad body = .ok key := by
  unfold readBody
  rw [if_pos (by simpa using slash)]
  constructor
  · rintro ⟨keys, read⟩
    obtain ⟨key, made, _⟩ := bind_eq_ok.mp read
    exact ⟨key, made⟩
  · rintro ⟨key, made⟩
    exact ⟨[key], by rw [made]; rfl⟩

theorem exists_readBody_plain_iff {pad : Pad} {body : Text} (plain : .char '/' ∉ body) :
    (∃ keys, readBody pad body = .ok keys) ↔ ∀ p ∈ body, ∃ key, Key.ofText pad [p] = .ok key := by
  unfold readBody
  rw [if_neg (by simpa using plain), mapM_ofText]
  exact exists_keysOfText_iff

theorem exists_readBody_length_iff (pad : LengthPad) {body : Text} (nonempty : body ≠ []) :
    (∃ keys, readBody pad.pad body = .ok keys) ↔ full.LengthBody body := by
  -- With a slash the body is one key, and without one it is a key for each character.
  by_cases slash : .char '/' ∈ body
  · rw [exists_readBody_slash_iff slash, Key.exists_ofText_slash_iff pad slash]
    simp only [Fraction.read_eq_ok_iff]
    refine (or_iff_right ?_).symm
    rintro ⟨_, digits⟩
    obtain ⟨d, same⟩ := digits _ slash
    exact digitChar_ne_slash d (CodePoint.char.inj same).symm
  · rw [exists_readBody_plain_iff slash]
    have single : ∀ p ∈ body, ((∃ key, Key.ofText pad.pad [p] = .ok key) ↔
        ∃ d, p = .char (digitChar d)) := fun p member =>
      Key.exists_ofText_length_iff pad (ne_of_mem_of_not_mem member slash)
    rw [forall₂_congr single]
    constructor
    · exact fun digits => Or.inl ⟨nonempty, digits⟩
    · rintro (⟨_, digits⟩ | ⟨f, _, above, below, _, _, rfl, _⟩)
      · exact digits
      · simp at slash

theorem exists_readBody_scalar_iff {body : Text} (nonempty : body ≠ []) :
    (∃ keys, readBody .scalar body = .ok keys) ↔ NumberBody body := by
  by_cases slash : .char '/' ∈ body
  · rw [exists_readBody_slash_iff slash, Key.exists_ofText_scalar_iff]
    constructor
    · rintro (rfl | ⟨d, rfl⟩)
      · exact absurd slash (by decide)
      · simp [Ne.symm (digitChar_ne_slash d)] at slash
    · rintro ⟨_, characters⟩
      rcases characters _ slash with point | ⟨d, digit⟩
      · cases point
      · exact absurd (CodePoint.char.inj digit).symm (digitChar_ne_slash d)
  · rw [exists_readBody_plain_iff slash]
    have single (p : CodePoint) : (∃ key, Key.ofText .scalar [p] = .ok key) ↔
        p = .char '.' ∨ ∃ d, p = .char (digitChar d) := by
      have point : ("." : Text) = [.char '.'] := rfl
      simp [Key.exists_ofText_scalar_iff, point]
    simp only [single]
    exact (and_iff_right nonempty).symm

theorem exists_readBody_iff {word body : Text} {pad : Pad} (typed : full.Typed word pad body)
    (nonempty : body ≠ []) : (∃ keys, readBody pad body = .ok keys) ↔ full.Body pad body := by
  obtain ⟨l, p, known, _⟩ := typed
  simp only [padLetters, List.mem_cons, Prod.mk.injEq, List.not_mem_nil, or_false] at known
  rcases known with ⟨_, rfl⟩ | ⟨_, rfl⟩ | ⟨_, rfl⟩
  · exact exists_readBody_length_iff .feet nonempty
  · exact exists_readBody_length_iff .inches nonempty
  · exact exists_readBody_scalar_iff nonempty

theorem body_ne_nil {a : Alphabet} {pad : Pad} {body : Text} (known : a.Body pad body) :
    body ≠ [] := by
  have length (known : a.LengthBody body) : body ≠ [] := by
    rcases known with ⟨nonempty, _⟩ | ⟨_, _, _, _, _, _, rfl, _⟩
    · exact nonempty
    · simp
  cases pad with
  | feet | inches => exact length known
  | scalar => exact known.1
  | operator | control => cases known

/-! Words -/

section Typed

variable {word body : Text} {pad : Pad} (typed : full.Typed word pad body)

include typed in
theorem not_command_of_typed : ¬ full.Command word := by
  intro command
  cases (readWord_command command).2.symm.trans (typed_iff.mp typed).1

include typed in
theorem readWord_typed (nonempty : body ≠ []) : readWord word = readBody pad body := by
  rw [readWord_of_not_command (not_command_of_typed typed)]
  obtain ⟨letter, p, rfl⟩ := typed_iff.mp typed
  obtain ⟨first, rest, rfl⟩ := List.exists_cons_of_ne_nil nonempty
  rw [letter]
  rfl

include typed in
theorem word_iff_of_typed : full.Word word ↔ full.Body pad body := by
  constructor
  · rintro (command | ⟨otherPad, otherBody, again, known⟩)
    · exact absurd command (not_command_of_typed typed)
    · obtain ⟨rfl, rfl⟩ := typed_unique typed again
      exact known
  · exact fun known => Or.inr ⟨pad, body, typed, known⟩

end Typed

theorem readWord_untyped {word : Text} (other : ¬ full.Command word)
    (untyped : ∀ pad body, full.Typed word pad body → body = []) :
    readWord word = .error (.unknownWord word) := by
  rw [readWord_of_not_command other]
  split
  · rename_i pad first rest letter following
    cases word with
    | nil => cases following
    | cons p rest =>
        have empty := untyped pad rest (typed_iff.mpr ⟨letter, p, rfl⟩)
        rw [empty] at following
        cases following
  · rfl

/-- Exactly the words of the grammar are read, and what is typed gives keys of the letter's pad that
show it. -/
theorem readWord_accepts (word : Text) :
    (full.Word word ∧ ∃ keys, readWord word = .ok keys ∧ ∀ pad body, full.Typed word pad body →
      (∀ key ∈ keys, key.pad = pad) ∧ keys.flatMap Key.text = body) ∨
    (¬ full.Word word ∧ ∃ fault, readWord word = .error fault ∧ fault.nature = .badValue) := by
  -- Commands begin with no letter of a pad, so that a body decides whether its word is read.
  by_cases stands : ∃ pad body, full.Typed word pad body ∧ body ≠ []
  · obtain ⟨pad, body, typed, nonempty⟩ := stands
    have blames := blamesValue_readBody pad body
    rw [readWord_typed typed nonempty, word_iff_of_typed typed,
      ← exists_readBody_iff typed nonempty]
    cases read : readBody pad body with
    | ok keys =>
        refine Or.inl ⟨⟨keys, rfl⟩, keys, rfl, fun otherPad otherBody again => ?_⟩
        obtain ⟨rfl, rfl⟩ := typed_unique typed again
        exact shows_readBody read
    | error fault =>
        rw [read] at blames
        exact Or.inr ⟨by simp, fault, rfl, blames⟩
  · have untyped : ∀ pad body, full.Typed word pad body → body = [] := by
      intro pad body typed
      by_contra nonempty
      exact stands ⟨pad, body, typed, nonempty⟩
    by_cases command : full.Command word
    · obtain ⟨keys, read⟩ := (readWord_command command).1
      refine Or.inl ⟨Or.inl command, keys, read, fun pad body typed => ?_⟩
      exact absurd command (not_command_of_typed typed)
    · refine Or.inr ⟨?_, _, readWord_untyped command untyped, rfl⟩
      rintro (known | ⟨pad, body, typed, known⟩)
      · exact command known
      · exact body_ne_nil known (untyped pad body typed)

/-! The ASCII grammar -/

def IsAscii (text : Text) : Prop := ∀ p ∈ text, p.toNat < 128

theorem isAscii_digit (d : Digit) : (digitChar d).toNat < 128 := by
  revert d
  decide

theorem ascii_of_shows {text : Text} {n : Nat} (shown : Style.ascii.Shows text n) :
    IsAscii text := by
  obtain ⟨ds, digits, _⟩ := shown
  intro p member
  obtain ⟨d, _, read⟩ := exists_of_forall₂ digits (List.mem_map_of_mem member)
  cases p with
  | char c =>
      obtain rfl : c = digitChar d := eq_digitChar_of_digit? read
      exact isAscii_digit d
  | surrogate offset =>
      have undigit : Decimal.digit? (Char.ofNat 0xfffd) = none := by decide
      cases undigit.symm.trans read

theorem ascii_of_stands {l : Char} {p : CodePoint} (small : l.isLower)
    (stands : ascii.Stands l p) : p.toNat < 128 := by
  have range : l.toNat < 128 := by
    simp only [Char.isLower, Bool.and_eq_true, decide_eq_true_eq] at small
    exact Nat.lt_of_le_of_lt (UInt32.le_iff_toNat_le.mp small.2) (by decide)
  have capital : l.toUpper.toNat < 128 :=
    forall_ascii (P := fun c => c.toUpper.toNat < 128) (by decide +kernel) range
  rcases stands with ⟨c, rfl, rfl | rfl | other⟩
  · exact range
  · exact capital
  · cases other

theorem ascii_of_word {word : Text} (known : ascii.Word word) : IsAscii word := by
  rcases known with command | ⟨pad, body, ⟨l, p, letter, stands, rfl⟩, known⟩
  · cases command with
    | symbol known =>
        simp only [List.mem_cons, List.not_mem_nil, or_false] at known
        rcases known with rfl | rfl | rfl | rfl | rfl <;> unfold IsAscii <;> decide
    | control known spelt =>
        intro p member
        obtain ⟨l, inside, stands⟩ := exists_of_forall₂ spelt.flip member
        exact ascii_of_stands ((small_of_control known).1 l inside) stands
  · have digit (d : Digit) : (CodePoint.char (digitChar d)).toNat < 128 := isAscii_digit d
    have length (known : ascii.LengthBody body) : IsAscii body := by
      rcases known with ⟨_, digits⟩ | ⟨_, _, above, below, _, _, rfl, upper, lower, _⟩
      · intro p member
        obtain ⟨d, rfl⟩ := digits p member
        exact digit d
      · intro p member
        rcases List.mem_append.mp member with first | second
        · exact ascii_of_shows upper p first
        · rcases List.mem_cons.mp second with rfl | second
          · decide
          · exact ascii_of_shows lower p second
    refine List.forall_mem_cons.mpr ⟨ascii_of_stands (isLower_of_padLetter letter) stands, ?_⟩
    cases pad with
    | feet | inches => exact length known
    | scalar =>
        intro p member
        rcases known.2 p member with rfl | ⟨d, rfl⟩
        · decide
        · exact digit d
    | operator | control => cases known

theorem shows_digits {s : Style} (reads : ∀ d, s.digit? (digitChar d) = some d) {ds : List Digit}
    (nonempty : ds ≠ []) (short : ∀ most ∈ s.most?, ds.length ≤ most) :
    s.Shows (ofChars (ds.map digitChar)) (ofDigits ds) := by
  refine ⟨ds, ?_, nonempty, short, rfl⟩
  rw [chars_ofChars, List.forall₂_map_left_iff, List.forall₂_same]
  exact fun d _ => reads d

def halfBody (zeros : Nat) : Text := List.replicate zeros (.char '0') ++ ofString "1/2"

theorem halfBody_eq (zeros : Nat) :
    halfBody zeros = ofChars ((List.replicate zeros 0 ++ [1] : List Digit).map digitChar) ++
      .char '/' :: ofChars ([2].map digitChar) := by
  simp [halfBody, ofString, ofChars, digitChar]

theorem typed_half (a : Alphabet) (zeros : Nat) :
    a.Typed (.char 'i' :: halfBody zeros) .inches (halfBody zeros) :=
  ⟨'i', .char 'i', by decide, ⟨'i', rfl, Or.inl rfl⟩, rfl⟩

theorem ascii_half (zeros : Nat) : ascii.Word (.char 'i' :: halfBody zeros) := by
  have above : Style.ascii.Shows
      (ofChars ((List.replicate zeros 0 ++ [1] : List Digit).map digitChar))
      (ofDigits (List.replicate zeros 0 ++ [1])) :=
    shows_digits digit?_digitChar (by simp) (by rintro _ ⟨⟩)
  have below : Style.ascii.Shows (ofChars ([2].map digitChar)) (ofDigits [2]) :=
    shows_digits digit?_digitChar (by simp) (by rintro _ ⟨⟩)
  rw [ofDigits_zeros] at above
  have proper : Fraction.Proper ⟨1, 2⟩ := ⟨by decide, by decide, by decide⟩
  refine Or.inr ⟨.inches, _, typed_half ascii zeros, Or.inr ⟨⟨1, 2⟩, proper, ?_⟩⟩
  exact ⟨_, _, _, _, halfBody_eq zeros, above, below, rfl⟩

theorem not_read_half {zeros : Nat} (many : maxNumeralDigits ≤ zeros) :
    ¬ ∃ keys, readWord (.char 'i' :: halfBody zeros) = .ok keys := by
  have slash : .char '/' ∈ halfBody zeros := by simp [halfBody_eq]
  have plain (ds : List Digit) : .char '/' ∉ ofChars (ds.map digitChar) := by
    simp [ofChars, digitChar_ne_slash]
  have nonempty : halfBody zeros ≠ [] := List.ne_nil_of_mem slash
  rw [readWord_typed (typed_half full zeros) nonempty]
  intro accepted
  rcases (exists_readBody_length_iff .inches nonempty).mp accepted with
    ⟨_, digits⟩ | ⟨_, _, above, below, _, _, same, ⟨ds, digits, _, short, _⟩, _⟩
  · obtain ⟨d, digit⟩ := digits _ slash
    exact digitChar_ne_slash d (CodePoint.char.inj digit).symm
  · rw [halfBody_eq] at same
    obtain ⟨rfl, _⟩ := (List.append_cons_inj_of_notMem (plain _) (plain _)).mp same
    have length := digits.length_eq
    have fits := short maxNumeralDigits rfl
    simp [chars_ofChars] at length
    omega

/-- A dotted capital `i`, a kelvin sign and digits of other scripts are read though they are not
ASCII, and a fraction with 4300 zeros in front is not read though it is. -/
theorem readWord_beyond_ascii :
    let dotted : Text := [.char (Char.ofNat 0x130), .char '5']
    let kelvin : Text := ofString "bac" ++ .char (Char.ofNat 0x212a) :: ofString "space"
    let indic : Text := [.char 'i', .char (Char.ofNat 0x661), .char '/', .char (Char.ofNat 0x662)]
    (∀ word ∈ [dotted, kelvin, indic], (∃ keys, readWord word = .ok keys) ∧ ¬ ascii.Word word) ∧
      ascii.Word (.char 'i' :: halfBody 4300) ∧
      ¬ ∃ keys, readWord (.char 'i' :: halfBody 4300) = .ok keys := by
  intro dotted kelvin indic
  have read : ∀ word ∈ [dotted, kelvin, indic], (readWord word).isOk := by decide +kernel
  have other : ∀ word ∈ [dotted, kelvin, indic], ¬ IsAscii word := by
    unfold IsAscii
    decide +kernel
  refine ⟨fun word member => ⟨?_, fun known => other word member (ascii_of_word known)⟩,
    ascii_half 4300, not_read_half (Nat.le_refl _)⟩
  have ok := read word member
  cases known : readWord word with
  | ok keys => exact ⟨keys, rfl⟩
  | error fault =>
      rw [known] at ok
      cases ok

end FeetInches.KeyScript
