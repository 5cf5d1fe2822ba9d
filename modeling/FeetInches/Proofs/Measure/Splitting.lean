import FeetInches.Measure
import FeetInches.Proofs.Binary64.Arithmetic
import Mathlib.Tactic.Linarith
/-!
Splitting a total into whole big units and a rest. The count of big units comes from a rounded
quotient. As long as big units are whole multiples of the last place of the total, no total is so
near below one more of them that its quotient reaches it: then the count is the exact one, and what
is left can be held.
-/

namespace FeetInches

open Binary64

theorem two_pow_le_oneUnits : 2 ^ 60 ≤ oneUnits := by
  rw [oneUnits_eq]
  apply Nat.pow_le_pow_right (by decide)
  rw [oneExponent_eq]
  decide

theorem counts_ofNat {n : Nat} (small : n < 2 ^ 53) : Counts (.ofNat n) (n * oneUnits : Nat) := by
  have exact := rounded_exact (representable_whole small) (d := 1) Nat.one_pos
  rw [Nat.one_mul] at exact
  have range : rounded (n * oneUnits) 1 ≤ greatestUnits := by
    rw [exact]
    exact (representable_whole small).le_greatest
  have counts : Counts (.ofNat n) (rounded (n * oneUnits) 1) :=
    counts_nearest_nat Nat.one_pos (Or.inr rfl) range
  rwa [exact] at counts

/-! The quotient -/

section Quotient

variable {a s k : Nat}

/-- A number and its quotient by `s`: the quotient has at least as many binades less as `s` has
above one. -/
theorem two_pow_lt_of_binade {b : Nat} (wide : 2 ^ k < s) (scale : s * 2 ^ (b + 52) ≤ a) :
    2 ^ (b + k + 52) < a := by
  calc
    2 ^ (b + k + 52) = 2 ^ k * 2 ^ (b + 52) := by
      rw [← Nat.pow_add, Nat.add_left_comm, Nat.add_assoc]
    _ < s * 2 ^ (b + 52) := Nat.mul_lt_mul_of_pos_right wide (Nat.two_pow_pos _)
    _ ≤ a := scale

theorem dvd_oneUnits_of_binade {b : Nat} (small : a ≤ 2 ^ 53 * oneUnits) (wide : 2 ^ k < s)
    (scale : s * 2 ^ (b + 52) ≤ a) : 2 ^ (b + k) ∣ oneUnits := by
  have power := Nat.lt_of_lt_of_le (two_pow_lt_of_binade wide scale) small
  rw [oneUnits_eq, ← Nat.pow_add] at power
  have less := (Nat.pow_lt_pow_iff_right (by decide)).mp power
  rw [oneUnits_eq]
  exact Nat.pow_dvd_pow 2 (by omega)

/-- Where a big unit is a whole multiple of the last place of the total, the whole part of a
quotient that is rounded is that of the exact one. -/
theorem rounded_quotient (held : Representable a) (wide : 2 ^ k < s) (narrow : s < 2 ^ (k + 1))
    (few : a < 2 ^ 53 * (s * oneUnits))
    (fine : ∀ b, s * 2 ^ (b + 52) ≤ a → 2 ^ (b + k) ∣ s * oneUnits) :
    rounded (a * oneUnits) (s * oneUnits) / oneUnits = a / (s * oneUnits) := by
  have inch := oneUnits_pos
  have size : 0 < s := Nat.zero_lt_of_lt wide
  have positive : 0 < s * oneUnits := Nat.mul_pos size inch
  have short : a / (s * oneUnits) < 2 ^ 53 := Nat.div_lt_of_lt_mul (by rwa [Nat.mul_comm])
  have less : a < s * oneUnits * (a / (s * oneUnits) + 1) := Nat.lt_mul_div_succ a positive
  have whole : s * oneUnits * (a / (s * oneUnits)) ≤ a := Nat.mul_div_le a (s * oneUnits)
  generalize a / (s * oneUnits) = count at short less whole ⊢
  apply Nat.div_eq_of_lt_le
  · apply le_rounded (representable_whole short) positive
    rw [← Nat.mul_assoc]
    exact Nat.mul_le_mul_right oneUnits whole
  · apply Nat.lt_of_not_le
    intro reached
    have upper := rounded_upper (a * oneUnits) (s * oneUnits)
    have scale := binade_le (a * oneUnits) (s * oneUnits)
    have below := lt_binade (a * oneUnits) positive
    generalize binade (a * oneUnits) (s * oneUnits) = b at upper scale below
    -- the next big unit is at most half a step of the quotient away
    have near : 2 * (s * oneUnits * (count + 1)) ≤ 2 * a + s * 2 ^ b := by
      have scaled := Nat.mul_le_mul_left (s * oneUnits) reached
      apply Nat.le_of_mul_le_mul_left _ inch
      linarith
    rcases scale with rfl | scale
    · have tiny : a < s * 2 ^ 53 := by
        rw [Nat.mul_comm a, Nat.mul_comm s, Nat.mul_assoc] at below
        exact Nat.lt_of_mul_lt_mul_left below
      have large := Nat.mul_le_mul_left s two_pow_le_oneUnits
      have first : s * oneUnits * 1 ≤ s * oneUnits * (count + 1) :=
        Nat.mul_le_mul_left _ (Nat.succ_le_succ (Nat.zero_le count))
      omega
    · -- but both are whole multiples of more than that
      have scale : s * 2 ^ (b + 52) ≤ a := by
        apply Nat.le_of_mul_le_mul_left _ inch
        linarith
      obtain ⟨steps, bigUnit⟩ := fine b scale
      obtain ⟨total, rfl⟩ := held.two_pow_dvd (Nat.le_of_lt (two_pow_lt_of_binade wide scale))
      rw [bigUnit, Nat.mul_assoc] at near less
      have after := Nat.lt_of_mul_lt_mul_left less
      have gap := Nat.mul_le_mul_left (2 ^ (b + k)) after
      have step : s * 2 ^ b < 2 * 2 ^ (b + k) := by
        have power : 2 * 2 ^ (b + k) = 2 ^ (k + 1) * 2 ^ b := by
          rw [Nat.mul_comm, ← Nat.pow_succ, ← Nat.pow_add]
          congr 1
          omega
        rw [power]
        exact Nat.mul_lt_mul_of_pos_right narrow (Nat.two_pow_pos b)
      rw [Nat.mul_succ] at gap
      omega

theorem rounded_quotient_of_le (held : Representable a) (small : a ≤ 2 ^ 53 * oneUnits)
    (wide : 2 ^ k < s) (narrow : s < 2 ^ (k + 1)) :
    rounded (a * oneUnits) (s * oneUnits) / oneUnits = a / (s * oneUnits) := by
  apply rounded_quotient held wide narrow
  · have size : 1 < s := Nat.lt_of_le_of_lt (Nat.two_pow_pos k) wide
    have more : oneUnits * 1 < oneUnits * s := Nat.mul_lt_mul_of_pos_left size oneUnits_pos
    rw [Nat.mul_comm s]
    omega
  · intro b scale
    exact Nat.dvd_mul_left_of_dvd (dvd_oneUnits_of_binade small wide scale) s

theorem rounded_quotient_le (held : Representable a) (size : 0 < s) :
    rounded (a * oneUnits) (s * oneUnits) ≤ greatestUnits := by
  apply rounded_le representable_greatest (Nat.mul_pos size oneUnits_pos)
  rw [Nat.mul_comm]
  exact Nat.mul_le_mul (Nat.le_mul_of_pos_left oneUnits size) held.le_greatest

end Quotient

/-! What is left -/

theorem representable_whole_le {n : Nat} (small : n ≤ 2 ^ 53) : Representable (n * oneUnits) := by
  rcases Nat.eq_or_lt_of_le small with rfl | less
  · refine ⟨2 ^ 52, oneExponent + 1, by decide, by rw [oneExponent_eq]; decide, ?_⟩
    rw [oneUnits_eq, Nat.pow_succ 2 oneExponent]
    omega
  · exact representable_whole less

theorem sub_whole {x : Binary64} {a k : Nat} (counts : Counts x a) (positive : 0 < k)
    (few : k ≤ 2 ^ 53) (small : a / (k * oneUnits) * k ≤ 2 ^ 53) :
    ∃ z, ofInt? (a / (k * oneUnits) * k : Nat) = .ok z ∧
      Counts (x.sub z) (a % (k * oneUnits) : Nat) := by
  have held := representable_whole_le small
  obtain ⟨z, made, whole⟩ := ofInt?_exact (n := (a / (k * oneUnits) * k : Nat))
    (by rwa [natAbs_whole, Int.natAbs_natCast])
  have split : a % (k * oneUnits) + a / (k * oneUnits) * k * oneUnits = a := by
    rw [Nat.mul_assoc]
    exact Nat.mod_add_div' a (k * oneUnits)
  have rest : (a : Int) - (a / (k * oneUnits) * k : Nat) * oneUnits =
      (a % (k * oneUnits) : Nat) := by
    rw [← Int.natCast_mul]
    omega
  have left := counts.representable.mod_whole positive few
  refine ⟨z, made, ?_⟩
  rw [← rest]
  apply counts.sub whole
  rwa [rest, Int.natAbs_natCast]

section Total

variable {total : Binary64} {u : Int} {s k : Nat} (counts : Counts total u)
include counts

theorem floor?_quotient (size : 0 < s) (short : s < 2 ^ 53) :
    (total.abs.div (.ofNat s)).floor? =
      .ok (rounded (u.natAbs * oneUnits) (s * oneUnits) / oneUnits : Nat) := by
  have positive : 0 < s * oneUnits := Nat.mul_pos size oneUnits_pos
  have quotient := counts.abs.div (counts_ofNat short) positive
    (rounded_quotient_le counts.representable size)
  rw [quotient.floor?, ← Int.natCast_ediv]

theorem split_exact (small : u.natAbs ≤ 2 ^ 53 * oneUnits) (wide : 2 ^ k < s)
    (narrow : s < 2 ^ (k + 1)) (few : k < 52) :
    (total.abs.div (.ofNat s)).floor? = .ok (u.natAbs / (s * oneUnits) : Nat) ∧
      ∃ whole, ofInt? (u.natAbs / (s * oneUnits) * s : Nat) = .ok whole ∧
        Counts (total.abs.sub whole) (u.natAbs % (s * oneUnits) : Nat) := by
  have size : 0 < s := Nat.lt_of_le_of_lt (Nat.zero_le _) wide
  have short : s < 2 ^ 53 :=
    Nat.lt_of_lt_of_le narrow (Nat.pow_le_pow_right (by decide) (by omega))
  have floor := floor?_quotient counts size short
  rw [rounded_quotient_of_le counts.representable small wide narrow] at floor
  have fewer : u.natAbs / (s * oneUnits) * s ≤ 2 ^ 53 := by
    apply Nat.le_of_mul_le_mul_right _ oneUnits_pos
    rw [Nat.mul_assoc]
    exact Nat.le_trans (Nat.div_mul_le_self _ _) small
  exact ⟨floor, sub_whole counts.abs size (Nat.le_of_lt short) fewer⟩

end Total

end FeetInches
