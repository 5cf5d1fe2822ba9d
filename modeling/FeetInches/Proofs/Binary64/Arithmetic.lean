import FeetInches.Binary64.Arith
import FeetInches.Proofs.Binary64.Rounding

namespace FeetInches.Binary64

variable {x y : Binary64} {u v : Int}

/-- The finite number of `u` units. -/
def Counts (x : Binary64) (u : Int) : Prop := x.isFinite ∧ x.units = u

theorem exists_of_isFinite (known : x.isFinite) :
    ∃ negative mantissa exponent canonical, x = finite negative mantissa exponent canonical := by
  cases x with
  | finite negative mantissa exponent canonical => exact ⟨_, _, _, _, rfl⟩
  | nan => cases known
  | infinite negative => cases known

theorem natAbs_signedUnits (negative : Bool) (n : Nat) : (signedUnits negative n).natAbs = n := by
  cases negative <;> simp [signedUnits]

theorem Counts.of_isFinite (known : x.isFinite) : Counts x x.units := ⟨known, rfl⟩

theorem Counts.unique (first : Counts x u) (second : Counts x v) : u = v :=
  first.2.symm.trans second.2

theorem counts_zero (negative : Bool) : Counts (zero negative) 0 := by
  cases negative <;> exact ⟨rfl, rfl⟩

namespace Counts

theorem representable (counts : Counts x u) : Representable u.natAbs := by
  obtain ⟨known, rfl⟩ := counts
  obtain ⟨negative, mantissa, exponent, canonical, rfl⟩ := exists_of_isFinite known
  rw [units_finite, natAbs_signedUnits]
  exact representable_of_canonical canonical

theorem le_greatest (counts : Counts x u) : u.natAbs ≤ greatestUnits :=
  counts.representable.le_greatest

theorem neg (counts : Counts x u) : Counts x.neg (-u) := by
  obtain ⟨known, rfl⟩ := counts
  obtain ⟨negative, mantissa, exponent, canonical, rfl⟩ := exists_of_isFinite known
  refine ⟨rfl, ?_⟩
  rw [units_finite]
  cases negative <;> simp [Binary64.neg, units, signedUnits]

theorem abs (counts : Counts x u) : Counts x.abs u.natAbs := by
  obtain ⟨known, rfl⟩ := counts
  obtain ⟨negative, mantissa, exponent, canonical, rfl⟩ := exists_of_isFinite known
  refine ⟨rfl, ?_⟩
  rw [units_finite, natAbs_signedUnits]
  rfl

theorem lt (left : Counts x u) (right : Counts y v) : x.lt y = decide (u < v) := by
  obtain ⟨knownLeft, rfl⟩ := left
  obtain ⟨knownRight, rfl⟩ := right
  obtain ⟨_, _, _, _, rfl⟩ := exists_of_isFinite knownLeft
  obtain ⟨_, _, _, _, rfl⟩ := exists_of_isFinite knownRight
  rfl

theorem isZero (counts : Counts x u) : x.isZero = decide (u = 0) := by
  obtain ⟨known, rfl⟩ := counts
  obtain ⟨negative, mantissa, exponent, canonical, rfl⟩ := exists_of_isFinite known
  have zero : (finite negative mantissa exponent canonical).units = 0 ↔ mantissa = 0 := by
    have power := Nat.ne_of_gt (Nat.two_pow_pos exponent)
    rw [← Int.natAbs_eq_zero, units_finite, natAbs_signedUnits, Nat.mul_eq_zero]
    simp only [power, or_false]
  rw [decide_eq_decide.mpr zero]
  cases mantissa <;> rfl

end Counts

/-! Rounding a count of units -/

theorem counts_nearest {n d : Nat} (negative : Bool) (positive : 0 < d)
    (range : rounded n d ≤ greatestUnits) :
    Counts (nearest negative n d) (signedUnits negative (rounded n d)) :=
  nearest_units negative positive range

theorem signedUnits_natAbs (u : Int) : signedUnits (decide (u < 0)) u.natAbs = u := by
  unfold signedUnits
  split
  · rename_i negative
    simp only [decide_eq_true_eq] at negative
    omega
  · rename_i positive
    simp only [decide_eq_true_eq] at positive
    omega

theorem counts_ofUnits (range : rounded u.natAbs 1 ≤ greatestUnits) (negativeZero : Bool) :
    Counts (ofUnits u negativeZero) (signedUnits (decide (u < 0)) (rounded u.natAbs 1)) := by
  unfold ofUnits
  split
  · rename_i zero
    subst zero
    have zero : rounded (1 * 0) 1 = 0 := rounded_exact ⟨0, 0, by decide, by decide, rfl⟩ (by decide)
    rw [Nat.mul_zero] at zero
    rw [Int.natAbs_zero, zero]
    exact counts_zero negativeZero
  · exact counts_nearest _ (by decide) range

theorem counts_ofUnits_exact (representable : Representable u.natAbs) (negativeZero : Bool) :
    Counts (ofUnits u negativeZero) u := by
  have exact := rounded_exact representable (d := 1) (by decide)
  rw [Nat.one_mul] at exact
  have range : rounded u.natAbs 1 ≤ greatestUnits := by
    rw [exact]
    exact representable.le_greatest
  have counts := counts_ofUnits range negativeZero
  rwa [exact, signedUnits_natAbs] at counts

theorem exists_counts_ofUnits {bound : Nat} (representable : Representable bound)
    (le : u.natAbs ≤ bound) (negativeZero : Bool) :
    ∃ v : Int, Counts (ofUnits u negativeZero) v ∧ v.natAbs ≤ bound ∧ (0 ≤ u → 0 ≤ v) := by
  have small : rounded u.natAbs 1 ≤ bound := by
    apply rounded_le representable (by decide)
    rwa [Nat.one_mul]
  refine ⟨_, counts_ofUnits (Nat.le_trans small representable.le_greatest) negativeZero, ?_, ?_⟩
  · rwa [natAbs_signedUnits]
  · intro nonnegative
    simp [signedUnits, Int.not_lt.mpr nonnegative]

/-! Signs and whole numbers -/

theorem isNegative_of_counts {negative : Bool} {n : Nat} (positive : 0 < n)
    (counts : Counts x (signedUnits negative n)) : x.isNegative = negative := by
  obtain ⟨known, units⟩ := counts
  obtain ⟨sign, mantissa, exponent, canonical, rfl⟩ := exists_of_isFinite known
  rw [units_finite] at units
  have same := congrArg Int.natAbs units
  rw [natAbs_signedUnits, natAbs_signedUnits] at same
  rw [same] at units
  cases sign <;> cases negative <;> simp [signedUnits, isNegative] at units ⊢ <;> omega

theorem units_eq_signed (known : x.isFinite) : x.units = signedUnits x.isNegative x.magnitude := by
  obtain ⟨sign, mantissa, exponent, canonical, rfl⟩ := exists_of_isFinite known
  rw [magnitude, units_finite, natAbs_signedUnits]
  rfl

theorem isWhole_iff (known : x.isFinite) : x.isWhole ↔ oneUnits ∣ x.magnitude := by
  rw [isWhole, known, Bool.true_and, beq_iff_eq]
  exact Int.dvd_iff_emod_eq_zero.symm.trans Int.ofNat_dvd_left

/-! Sums and differences -/

theorem add_eq_ofUnits (left : Counts x u) (right : Counts y v) :
    ∃ negativeZero, x.add y = ofUnits (u + v) negativeZero := by
  obtain ⟨knownLeft, rfl⟩ := left
  obtain ⟨knownRight, rfl⟩ := right
  obtain ⟨_, _, _, _, rfl⟩ := exists_of_isFinite knownLeft
  obtain ⟨_, _, _, _, rfl⟩ := exists_of_isFinite knownRight
  exact ⟨_, rfl⟩

theorem Counts.add (left : Counts x u) (right : Counts y v)
    (representable : Representable (u + v).natAbs) : Counts (x.add y) (u + v) := by
  obtain ⟨negativeZero, same⟩ := add_eq_ofUnits left right
  rw [same]
  exact counts_ofUnits_exact representable negativeZero

theorem Counts.sub (left : Counts x u) (right : Counts y v)
    (representable : Representable (u - v).natAbs) : Counts (x.sub y) (u - v) := by
  rw [Int.sub_eq_add_neg] at representable ⊢
  exact left.add right.neg representable

theorem Counts.sub_bounded (left : Counts x u) (right : Counts y v) {bound : Nat}
    (representable : Representable bound) (le : (u - v).natAbs ≤ bound) :
    ∃ w : Int, Counts (x.sub y) w ∧ w.natAbs ≤ bound ∧ (0 ≤ u - v → 0 ≤ w) := by
  obtain ⟨negativeZero, same⟩ := add_eq_ofUnits left right.neg
  rw [Binary64.sub, same, ← Int.sub_eq_add_neg]
  exact exists_counts_ofUnits representable le negativeZero

theorem Counts.natAbs_sub_le {m n : Nat} (left : Counts x m) (right : Counts y n) :
    ((m : Int) - n).natAbs ≤ greatestUnits := by
  have first := left.le_greatest
  have second := right.le_greatest
  rw [Int.natAbs_natCast] at first second
  omega

theorem Counts.sub_rounded (left : Counts x u) (right : Counts y v)
    (range : (u - v).natAbs ≤ greatestUnits) :
    Counts (x.sub y) (signedUnits (decide (u - v < 0)) (rounded (u - v).natAbs 1)) := by
  obtain ⟨negativeZero, same⟩ := add_eq_ofUnits left right.neg
  rw [Binary64.sub, same, ← Int.sub_eq_add_neg]
  apply counts_ofUnits
  apply rounded_le representable_greatest Nat.one_pos
  rwa [Nat.one_mul]

theorem Counts.sub_near {z : Binary64} {bound : Nat} (left : Counts x u) (right : Counts y v)
    (limit : Counts z bound) (small : (u - v).natAbs ≤ greatestUnits)
    (close : (x.sub y).abs.lt z = true) : (u - v).natAbs < bound := by
  have difference := (left.sub_rounded right small).abs
  rw [natAbs_signedUnits] at difference
  have near : rounded (u - v).natAbs 1 < bound := by
    have less := difference.lt limit
    rw [close] at less
    exact Int.ofNat_lt.mp (of_decide_eq_true less.symm)
  apply Nat.lt_of_not_le
  intro far
  have held : Representable bound := limit.representable
  exact Nat.not_le_of_lt near (le_rounded held Nat.one_pos (by rwa [Nat.one_mul]))

/-! Products and quotients of magnitudes -/

theorem signedUnits_eq_natCast {negative : Bool} {k n : Nat} (same : signedUnits negative k = n) :
    k = n ∧ (n = 0 ∨ negative = false) := by
  cases negative with
  | false => exact ⟨Int.ofNat.inj same, Or.inr rfl⟩
  | true =>
      have opposite : -(k : Int) = n := same
      exact ⟨by omega, Or.inl (by omega)⟩

theorem signedUnits_of_zero_or {negative : Bool} {n : Nat} (known : n = 0 ∨ negative = false) :
    signedUnits negative n = n := by
  rcases known with rfl | rfl
  · cases negative <;> rfl
  · rfl

theorem rounded_zero {d : Nat} (positive : 0 < d) : rounded 0 d = 0 := by
  have zero := rounded_exact (n := 0) ⟨0, 0, by decide, by decide, rfl⟩ positive
  rwa [Nat.mul_zero] at zero

theorem counts_nearest_nat {negative : Bool} {n d : Nat} (positive : 0 < d)
    (sign : n = 0 ∨ negative = false) (range : rounded n d ≤ greatestUnits) :
    Counts (nearest negative n d) (rounded n d) := by
  have known : rounded n d = 0 ∨ negative = false := by
    rcases sign with rfl | rfl
    · exact Or.inl (rounded_zero positive)
    · exact Or.inr rfl
  have counts := counts_nearest negative positive range
  rwa [signedUnits_of_zero_or known] at counts

theorem Counts.mul {m n : Nat} (left : Counts x m) (right : Counts y n)
    (range : rounded (m * n) oneUnits ≤ greatestUnits) :
    Counts (x.mul y) (rounded (m * n) oneUnits) := by
  obtain ⟨knownLeft, leftUnits⟩ := left
  obtain ⟨knownRight, rightUnits⟩ := right
  obtain ⟨_, _, _, _, rfl⟩ := exists_of_isFinite knownLeft
  obtain ⟨_, _, _, _, rfl⟩ := exists_of_isFinite knownRight
  obtain ⟨rfl, leftSign⟩ := signedUnits_eq_natCast leftUnits
  obtain ⟨rfl, rightSign⟩ := signedUnits_eq_natCast rightUnits
  apply counts_nearest_nat oneUnits_pos _ range
  rcases leftSign with zero | rfl
  · exact Or.inl (by rw [zero, Nat.zero_mul])
  · rcases rightSign with zero | rfl
    · exact Or.inl (by rw [zero, Nat.mul_zero])
    · exact Or.inr rfl

protected theorem mul_comm (x y : Binary64) : x.mul y = y.mul x := by
  cases x with
  | nan => cases y <;> rfl
  | infinite a =>
      cases y with
      | nan => rfl
      | infinite b => simp only [mul, bne_comm]
      | finite t n f canonical => simp only [mul, bne_comm]
  | finite s m e canonical =>
      cases y with
      | nan => rfl
      | infinite b => simp only [mul, bne_comm]
      | finite t n f _ => simp only [mul, bne_comm, Nat.mul_comm]

theorem Counts.div {m n : Nat} (left : Counts x m) (right : Counts y n) (positive : 0 < n)
    (range : rounded (m * oneUnits) n ≤ greatestUnits) :
    Counts (x.div y) (rounded (m * oneUnits) n) := by
  obtain ⟨knownLeft, leftUnits⟩ := left
  obtain ⟨knownRight, rightUnits⟩ := right
  obtain ⟨_, _, _, _, rfl⟩ := exists_of_isFinite knownLeft
  obtain ⟨_, mantissa, _, _, rfl⟩ := exists_of_isFinite knownRight
  obtain ⟨rfl, leftSign⟩ := signedUnits_eq_natCast leftUnits
  obtain ⟨rfl, rightSign⟩ := signedUnits_eq_natCast rightUnits
  have nonzero : mantissa ≠ 0 := by
    rintro rfl
    rw [Nat.zero_mul] at positive
    exact Nat.lt_irrefl 0 positive
  rw [Binary64.div, if_neg nonzero]
  apply counts_nearest_nat positive _ range
  rcases leftSign with zero | rfl
  · exact Or.inl (by rw [zero, Nat.zero_mul])
  · obtain rfl := rightSign.resolve_left (Nat.ne_of_gt positive)
    exact Or.inr rfl

theorem Counts.bounded? (counts : Counts x u) (fault : RangeFault) :
    x.bounded? fault = .ok x := by
  obtain ⟨_, _, _, _, rfl⟩ := exists_of_isFinite counts.1
  rfl

theorem quotient?_eq_ok {n d : Nat} (positive : 0 < d)
    (range : rounded (n * oneUnits) d ≤ greatestUnits) :
    ∃ z, quotient? n d = .ok z ∧ Counts z (rounded (n * oneUnits) d) := by
  have counts : Counts (nearest false (n * oneUnits) d) _ :=
    counts_nearest_nat positive (Or.inr rfl) range
  have sign : (decide ((n : Int) < 0) != decide ((d : Int) < 0)) = false := by
    rw [decide_eq_false (Int.not_lt.mpr (Int.natCast_nonneg n)),
      decide_eq_false (Int.not_lt.mpr (Int.natCast_nonneg d))]
    rfl
  refine ⟨_, ?_, counts⟩
  rw [quotient?, sign, Int.natAbs_natCast, Int.natAbs_natCast]
  exact counts.bounded? _

/-! Whole numbers -/

theorem representable_whole {n : Nat} (small : n < 2 ^ 53) : Representable (n * oneUnits) :=
  ⟨n, oneExponent, small, by rw [oneExponent_eq]; decide, by rw [oneUnits_eq]⟩

/-- What is left of a number after whole multiples of a whole number can itself be held. -/
theorem Representable.mod_whole {n k : Nat} (representable : Representable n) (positive : 0 < k)
    (small : k ≤ 2 ^ 53) : Representable (n % (k * oneUnits)) := by
  obtain ⟨mantissa, exponent, below, high, rfl⟩ := representable
  rw [oneUnits_eq]
  by_cases low : exponent ≤ oneExponent
  · obtain ⟨more, split⟩ := Nat.exists_eq_add_of_le low
    refine ⟨mantissa % (k * 2 ^ more), exponent, ?_, high, ?_⟩
    · exact Nat.lt_of_le_of_lt (Nat.mod_le _ _) below
    · rw [split, Nat.pow_add, Nat.mul_left_comm k, Nat.mul_comm mantissa, Nat.mul_mod_mul_left,
        Nat.mul_comm]
  · -- the number is whole, and so is what is left of it
    obtain ⟨more, split⟩ := Nat.exists_eq_add_of_le (Nat.le_of_not_le low)
    have whole : mantissa * 2 ^ exponent % (k * 2 ^ oneExponent) =
        mantissa * 2 ^ more % k * oneUnits := by
      rw [split, Nat.pow_add, oneUnits_eq, Nat.mul_comm (2 ^ oneExponent), ← Nat.mul_assoc,
        Nat.mul_mod_mul_right]
    rw [whole]
    exact representable_whole (Nat.lt_of_lt_of_le (Nat.mod_lt _ positive) small)

theorem natAbs_whole (n : Int) : (n * oneUnits).natAbs = n.natAbs * oneUnits := by
  rw [Int.natAbs_mul, Int.natAbs_natCast]

theorem ofInt?_eq_ok {n v : Int} (counts : Counts (ofUnits (n * oneUnits) false) v) :
    ∃ z, ofInt? n = .ok z ∧ Counts z v :=
  ⟨_, counts.bounded? _, counts⟩

theorem ofInt?_exact {n : Int} (representable : Representable (n * oneUnits).natAbs) :
    ∃ z, ofInt? n = .ok z ∧ Counts z (n * oneUnits) :=
  ofInt?_eq_ok (counts_ofUnits_exact representable false)

theorem Counts.floor? (counts : Counts x u) : x.floor? = .ok (u / oneUnits) := by
  obtain ⟨known, rfl⟩ := counts
  obtain ⟨_, _, _, _, rfl⟩ := exists_of_isFinite known
  rfl

theorem Counts.nearestInt? (counts : Counts x u) :
    x.nearestInt? = .ok (signedUnits (decide (u < 0)) (roundHalfEven u.natAbs oneUnits)) := by
  obtain ⟨known, rfl⟩ := counts
  obtain ⟨_, _, _, _, rfl⟩ := exists_of_isFinite known
  unfold Binary64.nearestInt? signedUnits
  simp only [decide_eq_true_eq]
  rfl

/-- The greatest whole number not above a number can itself be held. -/
theorem Counts.representable_floor (counts : Counts x u) :
    Representable (u / oneUnits * oneUnits).natAbs := by
  have positive : (0 : Int) < oneUnits := Int.natCast_pos.mpr oneUnits_pos
  rcases Nat.lt_or_ge u.natAbs (2 ^ 52 * oneUnits) with small | large
  · have upper : u / oneUnits < 2 ^ 52 := by
      apply Int.ediv_lt_of_lt_mul positive
      omega
    have lower : -2 ^ 52 ≤ u / oneUnits := by
      apply Int.le_ediv_of_mul_le positive
      omega
    rw [natAbs_whole]
    exact representable_whole (by omega)
  · -- a number this large is whole
    have whole := counts.representable.oneUnits_dvd large
    rw [Int.ediv_mul_cancel (Int.ofNat_dvd_left.mpr whole)]
    exact counts.representable

end FeetInches.Binary64
