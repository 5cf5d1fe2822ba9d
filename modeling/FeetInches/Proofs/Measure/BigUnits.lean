import FeetInches.Proofs.Binary64.Value
import FeetInches.Proofs.Expression.Display
import FeetInches.Proofs.Measure.Splitting
import FeetInches.Proofs.Numeral.Readable
import Mathlib.Data.Rat.Floor
import Mathlib.Tactic.FieldSimp
/-!
What the texts of areas and volumes denote. The rest in small units is written with two places
after it was split off, and nothing is carried over: up to `2 ^ 53` a text denotes its total to
half a hundredth, but a rest that is rounded up to a whole big unit stays among the small ones.
-/

namespace FeetInches

open Binary64 Decimal Numeral

/-! Reading a text -/

def natural? (cs : List Char) : Option Nat :=
  if leadingDigits cs ≠ [] ∧ afterDigits cs = [] then some (ofDigits (leadingDigits cs)) else none

def decimal? (cs : List Char) : Option ℚ :=
  match cs.splitOn '.' with
  | [whole] => (natural? whole).map fun n : Nat => (n : ℚ)
  | [whole, places] => do
    return (← natural? whole : Nat) + (← natural? places : Nat) / 10 ^ places.length
  | _ => none

/-- What is read off a text: a sign, a count of big units, and small ones. -/
structure Composite where
  negative : Bool
  big : Nat
  small : ℚ
  deriving DecidableEq

namespace BigUnit

def amount (u : BigUnit) (c : Composite) : ℚ :=
  (if c.negative then -1 else 1) * (c.big * u.size + c.small)

def ofWords? (u : BigUnit) (negative : Bool) : List (List Char) → Option Composite
  | [big, label, small, smallLabel] =>
    if label = u.label.toList ∧ smallLabel = u.smallLabel.toList then do
      return ⟨negative, ← natural? big, ← decimal? small⟩
    else none
  | [count, label] =>
    if label = u.label.toList then (natural? count).map (⟨negative, ·, 0⟩)
    else if label = u.smallLabel.toList then (decimal? count).map (⟨negative, 0, ·⟩)
    else none
  | _ => none

def read? (u : BigUnit) (text : String) : Option Composite :=
  let (negative, body) := takeSign text.toList
  u.ofWords? negative (body.splitOn ' ')

end BigUnit

/-! Numbers in a text -/

theorem natural?_digits {ds : List Digit} (nonempty : ds ≠ []) :
    natural? (ds.map digitChar) = .some (ofDigits ds) := by
  rw [natural?, leadingDigits_digits, afterDigits_digits, if_pos ⟨nonempty, rfl⟩]

theorem natural?_natText (n : Nat) : natural? (natText n).toList = some n := by
  rw [toList_natText, natural?_digits (digits_ne_nil n), ofDigits_digits]

theorem decimal?_digits {ds : List Digit} (nonempty : ds ≠ []) :
    decimal? (ds.map digitChar) = .some (ofDigits ds : ℚ) := by
  have split : (ds.map digitChar).splitOn '.' = [ds.map digitChar] := by
    have joined := List.splitOn_intercalate '.'
      (List.forall_mem_singleton.mpr (not_mem_digits (c := '.') (by decide) ds))
      (List.cons_ne_nil _ _)
    simpa using joined
  rw [decimal?, split]
  simp only [natural?_digits nonempty, Option.map_some]

def placeDigits (places count : Nat) : List Digit :=
  List.replicate (places - (digits (count % 10 ^ places)).length) 0 ++ digits (count % 10 ^ places)

theorem length_placeDigits {places : Nat} (positive : 0 < places) (count : Nat) :
    (placeDigits places count).length = places := by
  have short := (digits_length_le positive).mpr (Nat.mod_lt count (Nat.pow_pos (by decide)))
  rw [placeDigits, List.length_append, List.length_replicate]
  omega

theorem toList_pointed (places count : Nat) :
    (pointed places count).toList = [ '.' ].intercalate
      [(digits (count / 10 ^ places)).map digitChar, (placeDigits places count).map digitChar] := by
  rw [pointed, String.toList_append, String.toList_append, toList_natText, toList_digitText]
  simp [placeDigits]

theorem decimal?_pointed {places : Nat} (positive : 0 < places) (count : Nat) :
    decimal? (pointed places count).toList = some ((count : ℚ) / 10 ^ places) := by
  have length := length_placeDigits positive count
  have nonempty : placeDigits places count ≠ [] := by
    intro empty
    rw [empty, List.length_nil] at length
    omega
  have value : ofDigits (placeDigits places count) = count % 10 ^ places := by
    rw [placeDigits, ofDigits_zeros, ofDigits_digits]
  have other : ∀ d, digitChar d ≠ '.' := by decide
  have pointless : ∀ part ∈ [(digits (count / 10 ^ places)).map digitChar,
      (placeDigits places count).map digitChar], '.' ∉ part := by
    simp [not_mem_digits other]
  rw [decimal?, toList_pointed, List.splitOn_intercalate '.' pointless (List.cons_ne_nil _ _)]
  simp only [natural?_digits nonempty, natural?_digits (digits_ne_nil _), ofDigits_digits, value,
    List.length_map, length]
  have sum : ((count / 10 ^ places : Nat) : ℚ) + ((count % 10 ^ places : Nat) : ℚ) / 10 ^ places =
      count / 10 ^ places := by
    have parts := congrArg (Nat.cast (R := ℚ)) (Nat.div_add_mod' count (10 ^ places))
    push_cast at parts
    rw [← parts]
    field_simp
  exact congrArg some sum

/-! Big and small units in a text -/

structure NumberWord (word : List Char) : Prop where
  begins : ∃ d rest, word = digitChar d :: rest
  blankless : ' ' ∉ word

theorem numberWord_digits {ds : List Digit} (nonempty : ds ≠ []) : NumberWord (ds.map digitChar) := by
  obtain ⟨d, rest, rfl⟩ := List.exists_cons_of_ne_nil nonempty
  exact ⟨⟨d, _, rfl⟩, not_mem_digits (by decide) _⟩

theorem numberWord_natText (n : Nat) : NumberWord (natText n).toList := by
  rw [toList_natText]
  exact numberWord_digits (digits_ne_nil n)

theorem numberWord_pointed (places count : Nat) : NumberWord (pointed places count).toList := by
  obtain ⟨⟨d, rest, begins⟩, blankless⟩ :=
    numberWord_digits (digits_ne_nil (count / 10 ^ places))
  have other := not_mem_digits (c := ' ') (by decide) (placeDigits places count)
  constructor
  · rw [toList_pointed, begins]
    exact ⟨d, _, rfl⟩
  · rw [toList_pointed]
    simp [blankless, other]

namespace BigUnit

structure Plain (u : BigUnit) : Prop where
  label_ne : u.label.toList ≠ u.smallLabel.toList
  label_blankless : ' ' ∉ u.label.toList
  smallLabel_blankless : ' ' ∉ u.smallLabel.toList

theorem plain_squareFoot : squareFoot.Plain := ⟨by decide, by decide, by decide⟩

theorem plain_cubicFoot : cubicFoot.Plain := ⟨by decide, by decide, by decide⟩

variable {u : BigUnit}

theorem read?_of_words (negative : Bool) {word : List Char} (first : NumberWord word)
    (words : List (List Char)) (blankless : ∀ other ∈ words, ' ' ∉ other) {text : String}
    (shape : text.toList =
      (if negative then "-" else "").toList ++ [ ' ' ].intercalate (word :: words)) :
    u.read? text = u.ofWords? negative (word :: words) := by
  have split := List.splitOn_intercalate ' '
    (List.forall_mem_cons.mpr ⟨first.blankless, blankless⟩) (List.cons_ne_nil _ _)
  obtain ⟨d, rest, begins⟩ := first.begins
  obtain ⟨more, front⟩ : ∃ more, [ ' ' ].intercalate (word :: words) = digitChar d :: more := by
    rw [begins]
    cases words <;> exact ⟨_, rfl⟩
  have sign : takeSign text.toList = (negative, [ ' ' ].intercalate (word :: words)) := by
    rw [shape, front]
    cases negative with
    | true => rfl
    | false => simp [takeSign, Spelling.digitChar_ne_sign]
  rw [read?, sign]
  dsimp only
  rw [split]

theorem read?_join (plain : u.Plain) (negative : Bool) (big : Nat)
    (hundredths : Option Nat) (zero : big = 0 → hundredths = none → negative = false) :
    u.read? (u.join negative big (hundredths.map (pointed 2))) =
      some ⟨negative, big, (hundredths.getD 0 : Nat) / 100⟩ := by
  have label := plain.label_blankless
  have smallLabel := plain.smallLabel_blankless
  have differ := plain.label_ne.symm
  have whole : intText big = natText big := by simp [intText]
  have place : ∀ count, decimal? (pointed 2 count).toList = some ((count : ℚ) / 10 ^ 2) :=
    decimal?_pointed (by decide)
  rcases Nat.eq_zero_or_pos big with rfl | positive
  · cases hundredths with
    | none =>
        obtain rfl := zero rfl rfl
        have zeroWord : NumberWord (List.map digitChar [0]) := numberWord_digits (by simp)
        have read : decimal? (List.map digitChar [0]) = some 0 := decimal?_digits (by simp)
        rw [read?_of_words false zeroWord [u.smallLabel.toList] (by simpa) (by simp [join]; rfl)]
        rw [List.map_singleton] at read ⊢
        simp [ofWords?, differ, read]
    | some count =>
        rw [read?_of_words negative (numberWord_pointed 2 count) [u.smallLabel.toList] (by simpa)
          (by simp [join])]
        simp [ofWords?, differ, place]
        norm_num
  · cases hundredths with
    | none =>
        rw [read?_of_words negative (numberWord_natText big) [u.label.toList] (by simpa)
          (by simp [join, positive, whole])]
        simp [ofWords?, natural?_natText]
    | some count =>
        have smallText := numberWord_pointed 2 count
        rw [read?_of_words negative (numberWord_natText big)
          [u.label.toList, (pointed 2 count).toList, u.smallLabel.toList]
          (by simp [label, smallLabel, smallText.blankless]) (by simp [join, positive, whole])]
        simp [ofWords?, natural?_natText, place]
        norm_num

end BigUnit

/-! Totals -/

namespace Amount

def value : Amount → ℚ
  | whole n => n
  | real x => x.value

def IsFinite : Amount → Prop
  | whole _ => True
  | real x => x.isFinite

end Amount

def hundredths? (rest : Nat) : Option Nat :=
  if 0 < rest then some (roundHalfEven (rest * 100) oneUnits) else none

theorem hundredths?_eq_none_iff {rest : Nat} : hundredths? rest = none ↔ rest = 0 := by
  unfold hundredths?
  split <;> simp <;> omega

theorem getD_hundredths? (rest : Nat) :
    (hundredths? rest).getD 0 = roundHalfEven (rest * 100) oneUnits := by
  unfold hundredths?
  split
  · rfl
  · have zero : rest = 0 := by omega
    rw [zero, Nat.zero_mul]
    exact (roundHalfEven_exact oneUnits_pos 0).symm

theorem fixed_eq_pointed {x : Binary64} {rest : Nat} (counts : Counts x rest) (positive : 0 < rest)
    (places : Nat) :
    fixed places x = pointed places (roundHalfEven (rest * 10 ^ places) oneUnits) := by
  obtain ⟨known, same⟩ := counts
  have magnitude : x.magnitude = rest := by rw [Binary64.magnitude, same, Int.natAbs_natCast]
  obtain ⟨negative, mantissa, exponent, canonical, rfl⟩ := exists_of_isFinite known
  rw [units_finite] at same
  have positive : negative = false :=
    (signedUnits_eq_natCast same).2.resolve_left (Nat.ne_of_gt positive)
  rw [fixed, magnitude, positive]
  exact String.empty_append

theorem fixed_rest {x : Binary64} {rest : Nat} (counts : Counts x rest) :
    (if (Binary64.zero false).lt x then some (fixed 2 x) else none) =
      (hundredths? rest).map (pointed 2) := by
  rw [(counts_zero false).lt counts, hundredths?]
  by_cases positive : 0 < rest
  · simp [positive, fixed_eq_pointed counts positive]
  · simp [positive]

theorem IsNearestEven.hundredths {q : ℚ} {count s : Nat}
    (nearest : IsNearestEven (100 * q) (count : ℤ)) (less : q < s) :
    |(count : ℚ) / 100 - q| ≤ 1 / 200 ∧ (count : ℚ) / 100 ≤ s ∧
      ((count : ℚ) / 100 < s ↔ q < s - 1 / 200) := by
  obtain ⟨lower, upper⟩ := abs_le.mp nearest.near
  rw [Int.cast_natCast] at lower upper
  refine ⟨abs_le.mpr ⟨by linarith, by linarith⟩, ?_, ?_⟩
  · have below : (count : ℚ) < (100 * s + 1 : Nat) := by
      push_cast
      linarith
    have le : count ≤ 100 * s := Nat.le_of_lt_succ (by exact_mod_cast below)
    have scaled : (count : ℚ) ≤ 100 * s := by exact_mod_cast le
    linarith
  · have even : Even (100 * (s : ℤ)) := ⟨50 * s, by ring⟩
    have scaled := nearest.lt_iff_of_even even
    have whole : (count : ℚ) / 100 < s ↔ (count : ℤ) < 100 * s := by
      rw [div_lt_iff₀ (by norm_num), mul_comm]
      exact_mod_cast Iff.rfl
    rw [whole, scaled]
    push_cast
    constructor <;> intro near <;> linarith

theorem split_units (a s : Nat) : (a : ℚ) / oneUnits =
    s * (a / (s * oneUnits) : Nat) + ((a % (s * oneUnits) : Nat) : ℚ) / oneUnits := by
  have inch := cast_oneUnits_pos
  have whole := congrArg (Nat.cast (R := ℚ)) (Nat.div_add_mod a (s * oneUnits))
  push_cast at whole
  rw [← whole]
  field_simp

theorem rest_lt (a : Nat) {s : Nat} (size : 0 < s) :
    ((a % (s * oneUnits) : Nat) : ℚ) / oneUnits < s := by
  rw [div_lt_iff₀ cast_oneUnits_pos]
  exact_mod_cast Nat.mod_lt a (Nat.mul_pos size oneUnits_pos)

namespace BigUnit

section Text

variable {u : BigUnit} {k : Nat} (wide : 2 ^ k < u.size) (narrow : u.size < 2 ^ (k + 1))
include wide narrow

theorem text?_real (few : k < 52) {t : Binary64} {v : Int} (counts : Counts t v)
    (small : v.natAbs ≤ 2 ^ 53 * oneUnits) :
    u.text? (.real t) = .ok (u.join (t.lt (.zero false)) (v.natAbs / (u.size * oneUnits) : Nat)
      ((hundredths? (v.natAbs % (u.size * oneUnits))).map (pointed 2))) := by
  obtain ⟨floor, whole, made, rest⟩ := split_exact counts small wide narrow few
  rw [← fixed_rest rest]
  rw [Int.natCast_mul] at made
  exact bind_eq_ok.mpr ⟨_, floor, bind_eq_ok.mpr ⟨_, made, rfl⟩⟩

theorem text?_whole {n : Int} (small : n.natAbs ≤ 2 ^ 53) :
    u.text? (.whole n) = .ok (u.join (n < 0)
      (n.natAbs * oneUnits / (u.size * oneUnits) : Nat)
      ((hundredths? (n.natAbs * oneUnits % (u.size * oneUnits))).map (pointed 2))) := by
  have size : 0 < u.size := Nat.lt_of_le_of_lt (Nat.zero_le _) wide
  have held := representable_whole_le small
  have same : rounded (n.natAbs * oneUnits) u.size =
      rounded (n.natAbs * oneUnits * oneUnits) (u.size * oneUnits) := by
    rw [Nat.mul_comm (n.natAbs * oneUnits), Nat.mul_comm u.size, rounded_mul_left oneUnits_pos]
  obtain ⟨z, made, counts⟩ := quotient?_eq_ok (n := n.natAbs) size
    (by rw [same]; exact rounded_quotient_le held size)
  have floor := counts.floor?
  rw [← Int.natCast_ediv, same,
    rounded_quotient_of_le held (Nat.mul_le_mul_right oneUnits small) wide narrow] at floor
  rw [Nat.mul_mod_mul_right]
  have whole : n.natAbs * oneUnits / (u.size * oneUnits) = n.natAbs / u.size :=
    Nat.mul_div_mul_right _ _ oneUnits_pos
  rw [whole] at floor ⊢
  have rest : (n.natAbs : Int) - (n.natAbs / u.size : Nat) * u.size =
      (n.natAbs % u.size : Nat) := by
    have split := Nat.div_add_mod' n.natAbs u.size
    omega
  refine bind_eq_ok.mpr ⟨_, made, bind_eq_ok.mpr ⟨_, floor, ?_⟩⟩
  dsimp only
  rw [rest]
  have less := Nat.mod_le n.natAbs u.size
  generalize n.natAbs % u.size = m at less ⊢
  by_cases positive : 0 < m
  · have kept : Representable (m * oneUnits) :=
      representable_whole_le (Nat.le_trans less small)
    have units : 0 < m * oneUnits := Nat.mul_pos positive oneUnits_pos
    obtain ⟨y, formed, left⟩ := ofInt?_exact (n := m) (by rwa [natAbs_whole, Int.natAbs_natCast])
    rw [← Int.natCast_mul] at left
    have rest : (0 : Int) < m := by omega
    rw [if_pos rest, formed, hundredths?, if_pos units, Option.map_some,
      ← fixed_eq_pointed left units 2]
    rfl
  · have zero : m = 0 := by omega
    rw [zero, Nat.zero_mul]
    rfl

/-- A total as a sign, whole big units and a rest, and its text. -/
theorem exists_text? (few : k < 52) {t : Amount} (finite : t.IsFinite)
    (small : |t.value| ≤ 2 ^ 53) :
    ∃ (negative : Bool) (big rest : Nat), (negative = true ↔ t.value < 0) ∧
      |t.value| = u.size * big + (rest : ℚ) / oneUnits ∧ (rest : ℚ) / oneUnits < u.size ∧
      u.text? t = .ok (u.join negative big ((hundredths? rest).map (pointed 2))) := by
  have inch := cast_oneUnits_pos
  have size : 0 < u.size := Nat.zero_lt_of_lt wide
  cases t with
  | whole n =>
      have bound : n.natAbs ≤ 2 ^ 53 := by
        rw [Amount.value, ← Int.cast_abs, Int.abs_eq_natAbs] at small
        exact_mod_cast small
      have magnitude : |(n : ℚ)| = (n.natAbs * oneUnits : Nat) / oneUnits := by
        rw [Nat.cast_mul, mul_div_cancel_right₀ _ inch.ne', Nat.cast_natAbs, Int.cast_abs]
      refine ⟨decide (n < 0), _, _, ?_, ?_, rest_lt _ size, text?_whole wide narrow bound⟩
      · rw [decide_eq_true_eq, Amount.value, Int.cast_lt_zero]
      · rw [Amount.value, magnitude, split_units]
  | real x =>
      have counts := Counts.of_isFinite finite
      have bound : x.units.natAbs ≤ 2 ^ 53 * oneUnits := by
        apply (counts.abs_value_le_iff (2 ^ 53)).mp
        exact_mod_cast small
      refine ⟨x.lt (.zero false), _, _, lt_zero_iff finite, ?_, rest_lt _ size,
        text?_real wide narrow few counts bound⟩
      rw [Amount.value, counts.abs_value, split_units]

end Text

theorem abs_amount_sub {u : BigUnit} {negative : Bool} {big : Nat} {small q value : ℚ}
    (sign : negative = true ↔ value < 0) (split : |value| = u.size * big + q) :
    |u.amount ⟨negative, big, small⟩ - value| = |small - q| := by
  cases negative with
  | true =>
      have same : value = -(u.size * big + q) := by rw [← split, abs_of_neg (sign.mp rfl), neg_neg]
      have off : u.amount ⟨true, big, small⟩ - value = -(small - q) := by
        rw [same]
        simp only [amount, if_true]
        ring
      rw [off, abs_neg]
  | false =>
      have above : 0 ≤ value := not_lt.mp (sign.not.mp Bool.false_ne_true)
      have same : value = u.size * big + q := by rw [← split, abs_of_nonneg above]
      have off : u.amount ⟨false, big, small⟩ - value = small - q := by
        rw [same]
        simp only [amount, Bool.false_eq_true, if_false]
        ring
      rw [off]

/-- The text of a total of at most `2 ^ 53` small units denotes it to half a hundredth. The big
units are those that the total has, so the small ones are fewer than a big one makes only where
the rest is not rounded up to one. -/
theorem text?_denotes {u : BigUnit} (known : u = squareFoot ∨ u = cubicFoot) {t : Amount}
    (finite : t.IsFinite) (small : |t.value| ≤ 2 ^ 53) :
    ∃ (text : String) (shown : Composite), u.text? t = .ok text ∧ u.read? text = some shown ∧
      |u.amount shown - t.value| ≤ 1 / 200 ∧
      shown.big = ⌊|t.value| / u.size⌋₊ ∧ 0 ≤ shown.small ∧ shown.small ≤ u.size ∧
      (shown.small < u.size ↔ |t.value| - u.size * shown.big < u.size - 1 / 200) := by
  obtain ⟨plain, k, wide, narrow, few⟩ :
      u.Plain ∧ ∃ k, 2 ^ k < u.size ∧ u.size < 2 ^ (k + 1) ∧ k < 52 := by
    rcases known with rfl | rfl
    · exact ⟨plain_squareFoot, 7, by decide, by decide, by decide⟩
    · exact ⟨plain_cubicFoot, 10, by decide, by decide, by decide⟩
  have size : (0 : ℚ) < u.size := by
    exact_mod_cast Nat.lt_of_le_of_lt (Nat.zero_le _) wide
  obtain ⟨negative, big, rest, sign, split, less, text⟩ :=
    exists_text? wide narrow few finite small
  have nonnegative : (0 : ℚ) ≤ (rest : ℚ) / oneUnits := by positivity
  have zero : big = 0 → hundredths? rest = none → negative = false := by
    rintro rfl nothing
    rw [hundredths?_eq_none_iff] at nothing
    rw [nothing, Nat.cast_zero, mul_zero, zero_div, add_zero, abs_eq_zero] at split
    rw [← Bool.not_eq_true, sign, split]
    exact lt_irrefl 0
  have read := read?_join plain negative big _ zero
  rw [getD_hundredths?] at read
  have nearest := isNearestEven_roundHalfEven (rest * 100) oneUnits_pos
  have floor : big = ⌊|t.value| / u.size⌋₊ := by
    symm
    rw [Nat.floor_eq_iff (by positivity), le_div_iff₀ size, div_lt_iff₀ size, split]
    constructor <;> linarith
  have part : ((rest * 100 : Nat) : ℚ) / oneUnits = 100 * ((rest : ℚ) / oneUnits) := by
    push_cast
    ring
  rw [part] at nearest
  obtain ⟨near, full, proper⟩ := nearest.hundredths less
  have left : |t.value| - u.size * big = (rest : ℚ) / oneUnits := by linarith
  refine ⟨_, _, text, read, ?_, floor, by positivity, full, by rwa [left]⟩
  rwa [abs_amount_sub sign split]

/-- `143.9921875` square inches are fewer than a square foot. -/
theorem denotes_less_than_foot : ∃ (t : Binary64) (text : String) (shown : Composite),
    t.value = 143.9921875 ∧ squareFoot.text? (.real t) = .ok text ∧
      squareFoot.read? text = some shown ∧ shown.small < 144 := by
  let t : Binary64 := .finite false (18431 * 2 ^ 38) 1029 (by decide)
  have value : t.value = 143.9921875 := by
    rw [t.value_eq_of_units (n := 18431) (d := 128) (by decide) (by decide +kernel)]
    norm_num
  obtain ⟨text, shown, written, read, _, big, _, _, proper⟩ :=
    text?_denotes (u := squareFoot) (Or.inl rfl) (t := .real t) rfl
      (by rw [Amount.value, value]; norm_num [abs_of_pos])
  refine ⟨t, text, shown, value, written, read, proper.mpr ?_⟩
  rw [Amount.value, value, abs_of_pos (by norm_num)] at big ⊢
  have less : shown.big = 0 := by
    rw [big, Nat.floor_eq_zero]
    norm_num [squareFoot]
  rw [less]
  norm_num [squareFoot]

/-- `143.996` square inches are shown as `144.00 sq.in`. -/
theorem whole_foot_in_inches : ∃ (t : Binary64) (shown : Composite),
    |t.value - 143.996| < 1 / 10 ^ 13 ∧ squareFoot.text? (.real t) = .ok "144.00 sq.in" ∧
      squareFoot.read? "144.00 sq.in" = some shown ∧ ¬ shown.small < 144 := by
  let t : Binary64 := .finite false 5066408843303453 1029 (by decide)
  have near : |t.value - 143.996| < 1 / 10 ^ 13 := by
    rw [t.value_eq_of_units (n := 5066408843303453) (d := 2 ^ 45) (by decide) (by decide +kernel),
      abs_lt]
    norm_num
  have written : squareFoot.text? (.real t) = .ok "144.00 sq.in" := by decide +kernel
  exact ⟨t, ⟨false, 0, 144⟩, near, written, by decide +kernel, lt_irrefl 144⟩

end BigUnit

end FeetInches
