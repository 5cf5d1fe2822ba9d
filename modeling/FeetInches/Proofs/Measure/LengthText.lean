import FeetInches.Proofs.Keypad.LengthShown
import FeetInches.Proofs.Measure.BigUnits

namespace FeetInches

open Decimal Numeral

/-! Fractions in lowest terms -/

theorem exists_lowestTerms {n d : Int} (numerator : 0 ≤ n) (denominator : 0 ≤ d) :
    ∃ above below : Nat, lowestTerms n d = (↑above, ↑below) ∧ (0 < n ↔ 0 < above) ∧
      (above = 0 → below = 1) := by
  lift n to ℕ using numerator
  lift d to ℕ using denominator
  unfold lowestTerms
  split
  · rename_i zero
    exact ⟨0, 1, rfl, by omega, fun _ => rfl⟩
  · rename_i nonzero
    have positive : 0 < n := by omega
    have left : 0 < n / n.gcd d :=
      Nat.div_pos (Nat.gcd_le_left d positive) (Nat.gcd_pos_of_pos_left d positive)
    refine ⟨n / n.gcd d, d / n.gcd d, ?_, by omega, by omega⟩
    rw [Int.gcd_natCast_natCast, Int.natCast_div, Int.natCast_div]

theorem gcd_lowestTerms (a b : Int) : (lowestTerms a b).1.gcd (lowestTerms a b).2 = 1 := by
  unfold lowestTerms
  split
  · rfl
  · rename_i nonzero
    exact Int.gcd_div_gcd_div_gcd (Int.gcd_pos_of_ne_zero_left b nonzero)

theorem value_lowestTerms (a b : Int) :
    Fraction.value ⟨(lowestTerms a b).1, (lowestTerms a b).2⟩ = Fraction.value ⟨a, b⟩ := by
  unfold lowestTerms
  split
  · rename_i zero
    simp [Fraction.value, zero]
  · rename_i nonzero
    have divisor : ((a.gcd b : Int) : ℚ) ≠ 0 := by
      exact_mod_cast (Int.gcd_pos_of_ne_zero_left b nonzero).ne'
    simp only [Fraction.value]
    rw [Int.cast_div (Int.gcd_dvd_left ..) divisor, Int.cast_div (Int.gcd_dvd_right ..) divisor,
      div_div_div_cancel_right₀ divisor]

namespace TypedLength

/-- Feet and inches that are not negative, and a proper fraction of any denominator. -/
structure Mixed (l : TypedLength) : Prop where
  feet_nonneg : 0 ≤ l.feet
  inches_nonneg : 0 ≤ l.inches
  numerator_nonneg : 0 ≤ l.numerator
  numerator_lt : l.numerator < l.denominator

def inLowestTerms (l : TypedLength) : TypedLength :=
  { l with
    numerator := (lowestTerms l.numerator l.denominator).1
    denominator := (lowestTerms l.numerator l.denominator).2 }

/-! Reading a text -/

def labelled? (label : String) (word : List Char) : Option Nat :=
  if leadingDigits word ≠ [] ∧ afterDigits word = label.toList then
    some (ofDigits (leadingDigits word))
  else none

def ratio? (label : String) (word : List Char) : Option (Nat × Nat) :=
  match word.splitOn '/' with
  | [above, below] => do return (← natural? above, ← labelled? label below)
  | _ => none

def ofInchWords? (feet : Nat) : List (List Char) → Option TypedLength
  | [] => some ⟨feet, 0, 0, 1⟩
  | [word] =>
    match labelled? "in" word with
    | some inches => some ⟨feet, inches, 0, 1⟩
    | none => (ratio? "in" word).map fun (above, below) => ⟨feet, 0, above, below⟩
  | [whole, part] => do
    let inches ← natural? whole
    let (above, below) ← ratio? "in" part
    return ⟨feet, inches, above, below⟩
  | _ => none

def ofWords? : List (List Char) → Option TypedLength
  | [] => none
  | word :: rest =>
    match labelled? "ft" word with
    | some feet => ofInchWords? feet rest
    | none => ofInchWords? 0 (word :: rest)

def read? (text : String) : Option TypedLength :=
  if text = "0" then some ⟨0, 0, 0, 1⟩ else ofWords? (text.toList.splitOn ' ')

/-! Words -/

theorem labelled?_natText (label : String) (named : label ≠ "") (n : Nat) :
    labelled? label (natText n).toList = none := by
  rw [labelled?, toList_natText, afterDigits_digits, if_neg]
  rintro ⟨_, same⟩
  exact named (String.toList_eq_nil_iff.mp same.symm)

theorem labelled?_append (label : String) (n : Nat) {c : Char} (other : digit? c = none)
    (rest : List Char) :
    labelled? label ((natText n).toList ++ c :: rest) =
      if c :: rest = label.toList then some n else none := by
  rw [labelled?, toList_natText, leadingDigits_append, leadingDigits_other other,
    List.append_nil, afterDigits_append, afterDigits_other other, ofDigits_digits]
  simp [digits_ne_nil]

def ratioWord (above below : Nat) : List Char :=
  (natText above).toList ++ '/' :: ((natText below).toList ++ ['i', 'n'])

theorem ratio?_ratioWord (above below : Nat) :
    ratio? "in" (ratioWord above below) = some (above, below) := by
  have slashless : ∀ word ∈ [(natText above).toList, (natText below).toList ++ ['i', 'n']],
      '/' ∉ word := by
    simp [not_mem_natText (c := '/') (by decide)]
  have split := List.splitOn_intercalate '/' slashless (List.cons_ne_nil _ _)
  have shape : ratioWord above below = [ '/' ].intercalate
      [(natText above).toList, (natText below).toList ++ ['i', 'n']] := by
    simp [ratioWord]
  have label := labelled?_append "in" below (c := 'i') (by decide) ['n']
  rw [ratio?, shape, split]
  simp [natural?_natText, label]

def inchWords (inches above below : Nat) : List (List Char) :=
  if above = 0 then
    if inches = 0 then [] else [(natText inches).toList ++ ['i', 'n']]
  else (if inches = 0 then [] else [(natText inches).toList]) ++ [ratioWord above below]

def words (feet inches above below : Nat) : List (List Char) :=
  (if feet = 0 then [] else [(natText feet).toList ++ ['f', 't']]) ++ inchWords inches above below

theorem words_eq_nil_iff {feet inches above below : Nat} :
    words feet inches above below = [] ↔ feet = 0 ∧ inches = 0 ∧ above = 0 := by
  by_cases noFeet : feet = 0 <;> by_cases noInches : inches = 0 <;> by_cases whole : above = 0 <;>
    simp [words, inchWords, noFeet, noInches, whole]

theorem ofInchWords?_inchWords (feet inches : Nat) {above below : Nat}
    (alone : above = 0 → below = 1) :
    ofInchWords? feet (inchWords inches above below) = some ⟨feet, inches, above, below⟩ := by
  have label := labelled?_append "in" inches (c := 'i') (by decide) ['n']
  have slash := labelled?_append "in" above (c := '/') (by decide)
  unfold inchWords
  split
  · rename_i zero
    rw [zero, alone zero]
    split
    · rename_i noInches
      simp [ofInchWords?, noInches]
    · simp [ofInchWords?, label]
  · split
    · rename_i noInches
      have unlabelled : labelled? "in" (ratioWord above below) = .none := by
        rw [ratioWord, slash]
        simp
      simp [ofInchWords?, unlabelled, ratio?_ratioWord, noInches]
    · simp [ofInchWords?, natural?_natText, ratio?_ratioWord]

theorem labelled?_inchWords {inches above below : Nat} {word : List Char}
    (first : (inchWords inches above below).head? = some word) : labelled? "ft" word = none := by
  have label := labelled?_append "ft" inches (c := 'i') (by decide) ['n']
  have slash := labelled?_append "ft" above (c := '/') (by decide)
  have plain := labelled?_natText "ft" (by decide) inches
  unfold inchWords at first
  split at first <;> split at first <;> simp at first <;> subst first
  · simp [label]
  · rw [ratioWord, slash]
    simp
  · exact plain

theorem ofWords?_words {feet inches above below : Nat} (alone : above = 0 → below = 1)
    (nonempty : words feet inches above below ≠ []) :
    ofWords? (words feet inches above below) = .some ⟨feet, inches, above, below⟩ := by
  have label := labelled?_append "ft" feet (c := 'f') (by decide) ['t']
  have reads := ofInchWords?_inchWords feet inches alone
  unfold words at *
  split
  · rename_i noFeet
    rw [if_pos noFeet, List.nil_append] at nonempty
    obtain ⟨word, rest, shape⟩ := List.exists_cons_of_ne_nil nonempty
    have other : labelled? "ft" word = .none := labelled?_inchWords (by rw [shape]; rfl)
    rw [List.nil_append, ← reads, shape, ofWords?, other, noFeet]
  · simp [ofWords?, label, reads]

theorem blankless_words (feet inches above below : Nat) :
    ∀ word ∈ words feet inches above below, ' ' ∉ word := by
  have plain := not_mem_natText (c := ' ') (by decide)
  have ratio : ' ' ∉ ratioWord above below := by simp [ratioWord, plain]
  refine List.forall_mem_append.mpr ⟨?_, ?_⟩
  · split <;> simp [plain]
  · unfold inchWords
    split
    · split <;> simp [plain]
    · split <;> simp [plain, ratio]

/-! What is written is read -/

theorem writtenInt?_eq {n : Nat} {text : String} (shown : writtenInt? n = .ok text) :
    text = natText n := by
  unfold writtenInt? at shown
  split at shown
  · cases shown
    rw [intText, if_neg (by omega), String.empty_append, Int.natAbs_natCast]
  · cases shown

theorem countText?_eq {n : Nat} {count : Option String} (shown : countText? n = .ok count) :
    count = if n = 0 then none else some (natText n) := by
  unfold countText? at shown
  simp only [Nat.cast_eq_zero] at shown
  split at shown
  · rename_i zero
    cases shown
    rw [if_pos zero]
  · rename_i nonzero
    obtain ⟨text, written, rfl⟩ := map_eq_ok.mp shown
    rw [if_neg nonzero, writtenInt?_eq written]

theorem fractionText?_eq {n d : Int} {above below : Nat} {fraction : Option String}
    (terms : lowestTerms n d = (↑above, ↑below)) (zero : 0 < n ↔ 0 < above)
    (shown : fractionText? n d = .ok fraction) :
    fraction = if above = 0 then none else some (natText above ++ "/" ++ natText below) := by
  unfold fractionText? at shown
  simp only [terms, zero] at shown
  split at shown
  · rename_i positive
    obtain ⟨numerator, first, more⟩ := bind_eq_ok.mp shown
    obtain ⟨denominator, second, same⟩ := bind_eq_ok.mp more
    cases same
    rw [if_neg positive.ne', writtenInt?_eq first, writtenInt?_eq second]
  · rename_i zero
    cases shown
    rw [if_pos (by omega)]

theorem feetInchesText?_words {feet inches above below : Nat} {n d : Int} {text : String}
    (terms : lowestTerms n d = (↑above, ↑below)) (zero : 0 < n ↔ 0 < above)
    (shown : feetInchesText? feet inches n d = .ok text) :
    words feet inches above below = [] ∧ text = "0" ∨
      words feet inches above below ≠ [] ∧
        text.toList = [ ' ' ].intercalate (words feet inches above below) := by
  obtain ⟨feetText, feetShown, more⟩ := bind_eq_ok.mp shown
  obtain ⟨inchText, inchShown, more⟩ := bind_eq_ok.mp more
  obtain ⟨fractionText, fractionShown, same⟩ := bind_eq_ok.mp more
  cases same
  rw [countText?_eq feetShown, countText?_eq inchShown, fractionText?_eq terms zero fractionShown]
  by_cases noFeet : feet = 0 <;> by_cases noInches : inches = 0 <;> by_cases whole : above = 0 <;>
    simp [words, inchWords, ratioWord, noFeet, noInches, whole]

theorem read?_of_words {feet inches above below : Nat} {text : String}
    (alone : above = 0 → below = 1)
    (shape : text.toList = [ ' ' ].intercalate (words feet inches above below))
    (nonempty : words feet inches above below ≠ []) :
    read? text = .some ⟨feet, inches, above, below⟩ := by
  have split := List.splitOn_intercalate ' ' (blankless_words feet inches above below) nonempty
  have reads := ofWords?_words alone nonempty
  rw [read?, if_neg, shape, split, reads]
  rintro rfl
  have unread : ofWords? ("0".toList.splitOn ' ') = .none := by decide
  rw [← split, ← shape, unread] at reads
  cases reads

theorem read?_text {l : TypedLength} (mixed : l.Mixed) {text : String}
    (shown : l.text? = .ok text) : read? text = some l.inLowestTerms := by
  obtain ⟨feet, inches, n, d⟩ := l
  obtain ⟨feetSign, inchSign, sign, less⟩ := mixed
  lift feet to ℕ using feetSign
  lift inches to ℕ using inchSign
  obtain ⟨above, below, terms, zero, whole⟩ := exists_lowestTerms sign (sign.trans less.le)
  rcases feetInchesText?_words terms zero shown with ⟨empty, rfl⟩ | ⟨nonempty, shape⟩
  · obtain ⟨rfl, rfl, rfl⟩ := words_eq_nil_iff.mp empty
    rw [inLowestTerms, terms, whole rfl]
    rfl
  · rw [read?_of_words whole shape nonempty, inLowestTerms, terms]

/-- A text shows one length. Two lengths with the same text have the same feet and inches and the
same fraction of an inch, and the fraction in the text is in lowest terms. -/
theorem text_shows_one_length {l k : TypedLength} (mixed : l.Mixed) (other : k.Mixed)
    {text : String} (shown : l.text? = .ok text) (alike : k.text? = .ok text) :
    l.feet = k.feet ∧ l.inches = k.inches ∧ l.fraction.value = k.fraction.value ∧
      ∃ r, read? text = some r ∧ r.feet = l.feet ∧ r.inches = l.inches ∧
        r.fraction.value = l.fraction.value ∧ r.numerator.gcd r.denominator = 1 := by
  have reads := read?_text mixed shown
  have same : l.inLowestTerms = k.inLowestTerms :=
    Option.some.inj (reads.symm.trans (read?_text other alike))
  have fraction : l.inLowestTerms.fraction.value = l.fraction.value := value_lowestTerms _ _
  have sameFeet : l.feet = k.feet := congrArg (fun l => l.feet) same
  have sameInches : l.inches = k.inches := congrArg (fun l => l.inches) same
  refine ⟨sameFeet, sameInches, ?_, _, reads, rfl, rfl, fraction, gcd_lowestTerms _ _⟩
  rw [← fraction, same]
  exact value_lowestTerms _ _

/-- Four sixteenths and one quarter of an inch. -/
theorem quarter_inch_shown :
    TypedLength.text? ⟨5, 3, 4, 16⟩ = .ok "5ft 3 1/4in" ∧
      TypedLength.text? ⟨5, 3, 1, 4⟩ = .ok "5ft 3 1/4in" ∧
      fraction ⟨5, 3, 4, 16⟩ = ⟨4, 16⟩ ∧ Fraction.value ⟨4, 16⟩ = Fraction.value ⟨1, 4⟩ := by
  have shown : TypedLength.text? ⟨5, 3, 4, 16⟩ = .ok "5ft 3 1/4in" := by decide +kernel
  have alike : TypedLength.text? ⟨5, 3, 1, 4⟩ = .ok "5ft 3 1/4in" := by decide +kernel
  have same := text_shows_one_length (by constructor <;> decide) (by constructor <;> decide)
    shown alike
  exact ⟨shown, alike, rfl, same.2.2.1⟩

end TypedLength

end FeetInches
