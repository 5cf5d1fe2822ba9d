namespace FeetInches.Decimal

abbrev Digit := Fin 10

instance tenNeZero : @NeZero Nat Zero.ofOfNat0 10 := Nat.instNeZeroSucc

/-- The digits from the least significant on; zero has one digit. -/
def lowDigits (n : Nat) : List Digit :=
  if n < 10 then [Fin.ofNat 10 n] else Fin.ofNat 10 (n % 10) :: lowDigits (n / 10)

def digits (n : Nat) : List Digit := (lowDigits n).reverse

def ofDigits (ds : List Digit) : Nat := ds.foldl (fun value d => value * 10 + d.val) 0

theorem ofDigits_concat (ds : List Digit) (d : Digit) :
    ofDigits (ds ++ [d]) = ofDigits ds * 10 + d.val := by
  simp [ofDigits]

theorem ofDigits_digits (n : Nat) : ofDigits (digits n) = n := by
  unfold digits
  fun_induction lowDigits n with
  | case1 n small => simp [ofDigits, Nat.mod_eq_of_lt small]
  | case2 n large ih =>
    rw [List.reverse_cons, ofDigits_concat, ih]
    simp
    omega

/-- How many digits a number has, none for zero. -/
def digitCount (n : Nat) : Nat := if n = 0 then 0 else (lowDigits n).length

def digitChar (d : Digit) : Char := Char.ofNat (48 + d.val)

def digit? (c : Char) : Option Digit :=
  if h : 48 ≤ c.toNat ∧ c.toNat < 58 then some ⟨c.toNat - 48, by omega⟩ else none

theorem digit?_digitChar (d : Digit) : digit? (digitChar d) = some d := by
  revert d
  decide

def digitText (ds : List Digit) : String := String.ofList (ds.map digitChar)

def natText (n : Nat) : String := digitText (digits n)

def intText (n : Int) : String := (if n < 0 then "-" else "") ++ natText n.natAbs

end FeetInches.Decimal
