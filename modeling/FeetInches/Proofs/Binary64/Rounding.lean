import FeetInches.Binary64.Basic
/-!
Rounding a quotient of units. `rounded` is the count of units that `nearest` gives before the range
ends: no half unit of its binade off, unchanged where it can be held, and never in another order
than the quotients. It stays in range up to half a step past the greatest number.
-/

namespace FeetInches

-- Great exponents are kept folded, so that nothing evaluates the powers.

@[irreducible] def oneExponent : Nat := 1074

theorem oneExponent_eq : oneExponent = 1074 := by
  unfold oneExponent
  rfl

theorem oneUnits_eq : oneUnits = 2 ^ oneExponent := by
  unfold oneUnits oneExponent
  rfl

theorem oneUnits_pos : 0 < oneUnits := by
  rw [oneUnits_eq]
  exact Nat.two_pow_pos oneExponent

/-! Rounding to a whole number -/

theorem roundHalfEven_cases (n d : Nat) :
    roundHalfEven n d = n / d ∧ 2 * (n % d) ≤ d ∨
      roundHalfEven n d = n / d + 1 ∧ d ≤ 2 * (n % d) := by
  unfold roundHalfEven
  dsimp only
  split
  · exact Or.inl ⟨rfl, by omega⟩
  · split
    · exact Or.inr ⟨rfl, by omega⟩
    · rcases Nat.mod_two_eq_zero_or_one (n / d) with even | odd
      · exact Or.inl ⟨by omega, by omega⟩
      · exact Or.inr ⟨by omega, by omega⟩

theorem roundHalfEven_upper (n d : Nat) : 2 * (d * roundHalfEven n d) ≤ 2 * n + d := by
  have split := Nat.div_add_mod n d
  rcases roundHalfEven_cases n d with ⟨down, near⟩ | ⟨up, near⟩
  · rw [down]
    omega
  · rw [up, Nat.mul_add]
    omega

theorem roundHalfEven_lower (n : Nat) {d : Nat} (positive : 0 < d) :
    2 * n ≤ 2 * (d * roundHalfEven n d) + d := by
  have split := Nat.div_add_mod n d
  have remainder := Nat.mod_lt n positive
  rcases roundHalfEven_cases n d with ⟨down, near⟩ | ⟨up, near⟩
  · rw [down]
    omega
  · rw [up, Nat.mul_add]
    omega

theorem roundHalfEven_exact {d : Nat} (positive : 0 < d) (k : Nat) :
    roundHalfEven (d * k) d = k := by
  have below : 2 * (d * k % d) < d := by
    rw [Nat.mul_mod_right]
    omega
  unfold roundHalfEven
  dsimp only
  rw [if_pos below, Nat.mul_div_cancel_left k positive]

theorem roundHalfEven_mono {n m d : Nat} (le : n ≤ m) : roundHalfEven n d ≤ roundHalfEven m d := by
  have quotients : n / d ≤ m / d := Nat.div_le_div_right le
  by_cases same : n / d = m / d
  · have first := Nat.div_add_mod n d
    have second := Nat.div_add_mod m d
    have remainders : n % d ≤ m % d := by
      rw [same] at first
      omega
    unfold roundHalfEven
    dsimp only
    rw [same]
    repeat' split
    all_goals omega
  · rcases roundHalfEven_cases n d with ⟨first, _⟩ | ⟨first, _⟩ <;>
      rcases roundHalfEven_cases m d with ⟨second, _⟩ | ⟨second, _⟩ <;> omega

theorem roundHalfEven_lt {n d k : Nat} (near : 2 * n + d < 2 * (d * k)) :
    roundHalfEven n d < k := by
  apply Nat.lt_of_not_le
  intro reached
  have more : d * k ≤ d * roundHalfEven n d := Nat.mul_le_mul_left d reached
  have upper := roundHalfEven_upper n d
  omega

theorem roundHalfEven_near {n d k : Nat} (positive : 0 < d) (above : 2 * n < 2 * (d * k) + d)
    (below : 2 * (d * k) < 2 * n + d) : roundHalfEven n d = k := by
  apply Nat.le_antisymm
  · apply Nat.le_of_lt_succ
    apply roundHalfEven_lt
    rw [Nat.mul_succ]
    omega
  · apply Nat.le_of_not_lt
    intro short
    have lower := roundHalfEven_lower n positive
    have scaled : d * (roundHalfEven n d + 1) ≤ d * k := Nat.mul_le_mul_left d short
    rw [Nat.mul_succ] at scaled
    omega

theorem roundHalfEven_mul_left {c : Nat} (positive : 0 < c) (n d : Nat) :
    roundHalfEven (c * n) (c * d) = roundHalfEven n d := by
  have remainder : 2 * (c * n % (c * d)) = c * (2 * (n % d)) := by
    rw [Nat.mul_mod_mul_left, Nat.mul_left_comm]
  unfold roundHalfEven
  dsimp only
  rw [remainder, Nat.mul_div_mul_left n d positive]
  simp only [Nat.mul_lt_mul_left positive]

theorem roundHalfEven_add_even {d : Nat} (positive : 0 < d) (n k : Nat) :
    roundHalfEven (d * (2 * k) + n) d = 2 * k + roundHalfEven n d := by
  have parity : (2 * k + n / d) % 2 = n / d % 2 := by omega
  unfold roundHalfEven
  dsimp only
  rw [Nat.mul_add_div positive, Nat.mul_add_mod, parity]
  repeat' split
  all_goals omega

namespace Binary64

/-! The binade of a quotient -/

def binade (n d : Nat) : Nat := (n / d).log2 - 52

theorem lt_binade (n : Nat) {d : Nat} (positive : 0 < d) : n < d * 2 ^ (binade n d + 53) := by
  have quotient : n / d < 2 ^ ((n / d).log2 + 1) := Nat.lt_log2_self
  have power : 2 ^ ((n / d).log2 + 1) ≤ 2 ^ (binade n d + 53) := by
    apply Nat.pow_le_pow_right (by decide)
    unfold binade
    omega
  have whole := Nat.lt_mul_div_succ n positive
  calc
    n < d * (n / d + 1) := whole
    _ ≤ d * 2 ^ (binade n d + 53) := Nat.mul_le_mul_left d (Nat.le_trans quotient power)

theorem binade_le (n d : Nat) : binade n d = 0 ∨ d * 2 ^ (binade n d + 52) ≤ n := by
  by_cases low : (n / d).log2 ≤ 52
  · exact Or.inl (by unfold binade; omega)
  · right
    have nonzero : n / d ≠ 0 := by
      intro zero
      simp [zero] at low
    have exponent : binade n d + 52 = (n / d).log2 := by
      unfold binade
      omega
    calc
      d * 2 ^ (binade n d + 52) = d * 2 ^ (n / d).log2 := by rw [exponent]
      _ ≤ d * (n / d) := Nat.mul_le_mul_left d (Nat.log2_self_le nonzero)
      _ ≤ n := Nat.mul_div_le n d

theorem binade_lt {n d k : Nat} (below : n < d * 2 ^ (k + 52)) (positive : 0 < k) :
    binade n d < k := by
  apply Nat.lt_of_not_le
  intro reached
  rcases binade_le n d with zero | lower
  · omega
  · have power : 2 ^ (k + 52) ≤ 2 ^ (binade n d + 52) :=
      Nat.pow_le_pow_right (by decide) (by omega)
    have scaled := Nat.mul_le_mul_left d power
    omega

theorem binade_mono {n m d : Nat} (positive : 0 < d) (le : n ≤ m) : binade n d ≤ binade m d := by
  have upper := lt_binade m positive
  have below : n < d * 2 ^ (binade m d + 1 + 52) := Nat.lt_of_le_of_lt le upper
  have less := binade_lt below (Nat.succ_pos _)
  omega

/-! The rounded quotient -/

def rounded (n d : Nat) : Nat :=
  roundHalfEven n (d * 2 ^ binade n d) * 2 ^ binade n d

theorem mantissa_le {n d : Nat} (positive : 0 < d) :
    roundHalfEven n (d * 2 ^ binade n d) ≤ 2 ^ 53 := by
  have step : 0 < d * 2 ^ binade n d := Nat.mul_pos positive (Nat.two_pow_pos _)
  have upper : n ≤ d * 2 ^ binade n d * 2 ^ 53 := by
    have below := lt_binade n positive
    rw [Nat.pow_add, ← Nat.mul_assoc] at below
    exact Nat.le_of_lt below
  have mono := roundHalfEven_mono (d := d * 2 ^ binade n d) upper
  rwa [roundHalfEven_exact step] at mono

theorem le_mantissa {n d : Nat} (positive : 0 < d) :
    binade n d = 0 ∨ 2 ^ 52 ≤ roundHalfEven n (d * 2 ^ binade n d) := by
  have step : 0 < d * 2 ^ binade n d := Nat.mul_pos positive (Nat.two_pow_pos _)
  rcases binade_le n d with zero | lower
  · exact Or.inl zero
  · right
    rw [Nat.pow_add, ← Nat.mul_assoc] at lower
    have mono := roundHalfEven_mono (d := d * 2 ^ binade n d) lower
    rwa [roundHalfEven_exact step] at mono

theorem rounded_upper (n d : Nat) : 2 * (d * rounded n d) ≤ 2 * n + d * 2 ^ binade n d := by
  have upper := roundHalfEven_upper n (d * 2 ^ binade n d)
  rwa [Nat.mul_assoc, Nat.mul_comm (2 ^ binade n d)] at upper

theorem rounded_lower (n : Nat) {d : Nat} (positive : 0 < d) :
    2 * n ≤ 2 * (d * rounded n d) + d * 2 ^ binade n d := by
  have lower := roundHalfEven_lower n (Nat.mul_pos positive (Nat.two_pow_pos (binade n d)))
  rwa [Nat.mul_assoc, Nat.mul_comm (2 ^ binade n d)] at lower

theorem rounded_mono {n m d : Nat} (positive : 0 < d) (le : n ≤ m) :
    rounded n d ≤ rounded m d := by
  have binades := binade_mono positive le
  rcases Nat.eq_or_lt_of_le binades with same | less
  · unfold rounded
    rw [same]
    exact Nat.mul_le_mul_right _ (roundHalfEven_mono le)
  · -- the greatest of one binade is the least of the next
    have lower : 2 ^ 52 ≤ roundHalfEven m (d * 2 ^ binade m d) :=
      (le_mantissa positive).resolve_left (by omega)
    have power : 2 ^ (53 + binade n d) ≤ 2 ^ (52 + binade m d) :=
      Nat.pow_le_pow_right (by decide) (by omega)
    calc
      rounded n d ≤ 2 ^ 53 * 2 ^ binade n d := Nat.mul_le_mul_right _ (mantissa_le positive)
      _ ≤ 2 ^ 52 * 2 ^ binade m d := by rwa [← Nat.pow_add, ← Nat.pow_add]
      _ ≤ rounded m d := Nat.mul_le_mul_right _ lower

theorem rounded_mul_left {c : Nat} (positive : 0 < c) (n d : Nat) :
    rounded (c * n) (c * d) = rounded n d := by
  have same : binade (c * n) (c * d) = binade n d := by
    rw [binade, Nat.mul_div_mul_left n d positive, binade]
  rw [rounded, same, Nat.mul_assoc, roundHalfEven_mul_left positive, rounded]

theorem rounded_congr {n d m c : Nat} (below : 0 < d) (other : 0 < c) (same : n * c = m * d) :
    rounded n d = rounded m c := by
  rw [← rounded_mul_left other n d, Nat.mul_comm c n, same, Nat.mul_comm m d, Nat.mul_comm c d,
    rounded_mul_left below]

def Representable (n : Nat) : Prop :=
  ∃ mantissa exponent, mantissa < 2 ^ 53 ∧ exponent ≤ 2045 ∧ n = mantissa * 2 ^ exponent

theorem representable_of_canonical {mantissa exponent : Nat}
    (canonical : Canonical mantissa exponent) : Representable (mantissa * 2 ^ exponent) :=
  ⟨mantissa, exponent, canonical.1, canonical.2.2, rfl⟩

theorem Representable.two_pow_dvd {n e : Nat} (representable : Representable n)
    (large : 2 ^ (e + 52) ≤ n) : 2 ^ e ∣ n := by
  obtain ⟨mantissa, exponent, below, _, rfl⟩ := representable
  have power : 2 ^ (e + 52) < 2 ^ (53 + exponent) := by
    calc
      2 ^ (e + 52) ≤ mantissa * 2 ^ exponent := large
      _ < 2 ^ 53 * 2 ^ exponent := Nat.mul_lt_mul_of_pos_right below (Nat.two_pow_pos exponent)
      _ = 2 ^ (53 + exponent) := (Nat.pow_add ..).symm
  have less := (Nat.pow_lt_pow_iff_right (by decide)).mp power
  exact Nat.dvd_mul_left_of_dvd (Nat.pow_dvd_pow 2 (by omega)) mantissa

theorem Representable.oneUnits_dvd {n : Nat} (representable : Representable n)
    (large : 2 ^ 52 * oneUnits ≤ n) : oneUnits ∣ n := by
  rw [oneUnits_eq] at large ⊢
  apply representable.two_pow_dvd
  rwa [Nat.add_comm, Nat.pow_add]

theorem rounded_exact {n d : Nat} (representable : Representable n) (positive : 0 < d) :
    rounded (d * n) d = n := by
  have divides : 2 ^ binade (d * n) d ∣ n := by
    rcases binade_le (d * n) d with lowest | large
    · rw [lowest]
      exact Nat.one_dvd n
    · exact representable.two_pow_dvd (Nat.le_of_mul_le_mul_left large positive)
  unfold rounded
  generalize binade (d * n) d = b at divides ⊢
  obtain ⟨count, rfl⟩ := divides
  rw [← Nat.mul_assoc, roundHalfEven_exact (Nat.mul_pos positive (Nat.two_pow_pos b)), Nat.mul_comm]

theorem rounded_le {n d bound : Nat} (representable : Representable bound) (positive : 0 < d)
    (le : n ≤ d * bound) : rounded n d ≤ bound := by
  have mono := rounded_mono positive le
  rwa [rounded_exact representable positive] at mono

theorem le_rounded {n d bound : Nat} (representable : Representable bound) (positive : 0 < d)
    (le : d * bound ≤ n) : bound ≤ rounded n d := by
  have mono := rounded_mono positive le
  rwa [rounded_exact representable positive] at mono

/-! The end of the range -/

@[irreducible] def topExponent : Nat := 2045

theorem topExponent_eq : topExponent = 2045 := by
  unfold topExponent
  rfl

def topStep : Nat := 2 ^ topExponent

theorem topStep_pos : 0 < topStep := Nat.two_pow_pos topExponent

theorem two_pow_le_topStep {exponent : Nat} (le : exponent ≤ 2045) : 2 ^ exponent ≤ topStep := by
  apply Nat.pow_le_pow_right (by decide)
  rw [topExponent_eq]
  exact le

def greatestUnits : Nat := (2 ^ 53 - 1) * topStep

theorem representable_greatest : Representable greatestUnits :=
  ⟨2 ^ 53 - 1, topExponent, by decide, Nat.le_of_eq topExponent_eq, rfl⟩

theorem Representable.le_greatest {n : Nat} (representable : Representable n) :
    n ≤ greatestUnits := by
  obtain ⟨mantissa, exponent, below, high, rfl⟩ := representable
  exact Nat.mul_le_mul (by omega) (two_pow_le_topStep high)

/-- Where the quotient is less than half a step past the greatest number, it stays in range. -/
theorem rounded_in_range {n d : Nat} (positive : 0 < d)
    (below : 2 * n < d * (2 * greatestUnits + topStep)) : rounded n d ≤ greatestUnits := by
  have step := topStep_pos
  have past : n < d * 2 ^ (topExponent + 1 + 52) := by
    have sum : topExponent + 1 + 52 = 53 + topExponent := by omega
    have power : 2 ^ (topExponent + 1 + 52) = 2 ^ 53 * topStep := by
      rw [sum, Nat.pow_add, topStep]
    have room : 2 * greatestUnits + topStep ≤ 2 * (2 ^ 53 * topStep) := by
      unfold greatestUnits
      omega
    have scaled := Nat.mul_le_mul_left d room
    rw [power]
    rw [Nat.mul_left_comm] at scaled
    omega
  have low := binade_lt past (Nat.succ_pos topExponent)
  rcases Nat.eq_or_lt_of_le (Nat.le_of_lt_succ low) with last | earlier
  · -- in the last binade the mantissa does not reach 54 bits
    have mantissa : roundHalfEven n (d * 2 ^ binade n d) < 2 ^ 53 := by
      apply roundHalfEven_lt
      rw [last, ← topStep]
      have bound : d * (2 * greatestUnits + topStep) + d * topStep =
          2 * (d * topStep * 2 ^ 53) := by
        have whole : 2 * greatestUnits + topStep + topStep = 2 * (topStep * 2 ^ 53) := by
          unfold greatestUnits
          omega
        rw [← Nat.mul_add, whole, Nat.mul_left_comm, Nat.mul_assoc]
      omega
    unfold rounded greatestUnits
    rw [topStep, ← last]
    exact Nat.mul_le_mul_right _ (by omega)
  · have power : 2 * 2 ^ binade n d ≤ topStep := by
      rw [Nat.mul_comm, ← Nat.pow_succ]
      exact Nat.pow_le_pow_right (by decide) earlier
    calc
      rounded n d ≤ 2 ^ 53 * 2 ^ binade n d := Nat.mul_le_mul_right _ (mantissa_le positive)
      _ ≤ greatestUnits := by
        unfold greatestUnits
        omega

/-! The nearest number -/

def signedUnits (negative : Bool) (n : Nat) : Int := if negative then -(n : Int) else n

theorem signedUnits_mul (negative : Bool) (n k : Nat) :
    signedUnits negative (n * k) = signedUnits negative n * k := by
  cases negative with
  | true => exact (congrArg Neg.neg (Int.natCast_mul n k)).trans (Int.neg_mul _ _).symm
  | false => exact Int.natCast_mul n k

theorem units_finite (negative : Bool) {mantissa exponent : Nat}
    (canonical : Canonical mantissa exponent) :
    (finite negative mantissa exponent canonical).units =
      signedUnits negative (mantissa * 2 ^ exponent) := rfl

theorem nearest_units {n d : Nat} (negative : Bool) (positive : 0 < d)
    (range : rounded n d ≤ greatestUnits) :
    (nearest negative n d).isFinite ∧
      (nearest negative n d).units = signedUnits negative (rounded n d) := by
  have upper := mantissa_le (n := n) positive
  have lower := le_mantissa (n := n) positive
  have step := topStep_pos
  have exponent_le : binade n d ≤ topExponent := by
    apply Nat.le_of_not_lt
    intro high
    have power : 2 * topStep ≤ 2 ^ binade n d := by
      rw [topStep, Nat.mul_comm, ← Nat.pow_succ]
      exact Nat.pow_le_pow_right (by decide) high
    have large : 2 ^ 52 * (2 * topStep) ≤ rounded n d :=
      Nat.mul_le_mul (lower.resolve_left (by omega)) power
    unfold greatestUnits at range
    omega
  have carry : roundHalfEven n (d * 2 ^ binade n d) = 2 ^ 53 → binade n d + 1 ≤ topExponent := by
    intro full
    apply Nat.le_of_not_lt
    intro high
    have last : binade n d = topExponent := by omega
    unfold greatestUnits rounded at range
    rw [full, last, ← topStep] at range
    omega
  by_cases full : roundHalfEven n (d * 2 ^ binade n d) = 2 ^ 53
  · have overfull : ¬ Canonical (roundHalfEven n (d * 2 ^ binade n d)) (binade n d) := by
      rw [full]
      exact fun canonical => Nat.lt_irrefl _ canonical.1
    have carries : Canonical (2 ^ 52) (binade n d + 1) :=
      ⟨by decide, Or.inr (Nat.le_refl _), topExponent_eq ▸ carry full⟩
    have whole : rounded n d = 2 ^ 52 * 2 ^ (binade n d + 1) := by
      have sum : 53 + binade n d = 52 + (binade n d + 1) := by omega
      rw [rounded, full, ← Nat.pow_add, ← Nat.pow_add, sum]
    have found : nearest negative n d = .finite negative (2 ^ 52) (binade n d + 1) carries := by
      unfold nearest
      exact (dif_neg overfull).trans (dif_pos carries)
    rw [found, whole]
    exact ⟨rfl, rfl⟩
  · have fits : Canonical (roundHalfEven n (d * 2 ^ binade n d)) (binade n d) :=
      ⟨by omega, lower, topExponent_eq ▸ exponent_le⟩
    have found : nearest negative n d = .finite negative _ _ fits := by
      unfold nearest
      exact dif_pos fits
    rw [found]
    exact ⟨rfl, rfl⟩

end Binary64

end FeetInches
