/-!
Texts as lists of code points. Besides characters a text can hold surrogates, which an escape or a
16-bit unit can give without its other half.
-/

namespace FeetInches

inductive CodePoint where
  | char (c : Char)
  /-- The surrogate `0xd800 + offset`. -/
  | surrogate (offset : Fin 0x800)
  deriving DecidableEq, Repr

abbrev Text := List CodePoint

namespace CodePoint

def toNat : CodePoint → Nat
  | char c => c.toNat
  | surrogate offset => 0xd800 + offset.val

/-- The code point of a number below `0x110000`, and the replacement character for any other. -/
def ofNat (n : Nat) : CodePoint :=
  if h : 0xd800 ≤ n ∧ n < 0xe000 then surrogate ⟨n - 0xd800, by omega⟩
  else if n < 0x110000 then char (Char.ofNat n)
  else char (Char.ofNat 0xfffd)

def char? : CodePoint → Option Char
  | char c => some c
  | surrogate _ => none

def shown : CodePoint → Char
  | char c => c
  | surrogate _ => Char.ofNat 0xfffd

def ofPair (high low : Nat) : CodePoint :=
  ofNat (0x10000 + (high - 0xd800) * 0x400 + (low - 0xdc00))

end CodePoint

def isHighSurrogate (n : Nat) : Bool := 0xd800 ≤ n && n < 0xdc00

def isLowSurrogate (n : Nat) : Bool := 0xdc00 ≤ n && n < 0xe000

namespace Text

def ofChars (cs : List Char) : Text := cs.map .char

def ofString (s : String) : Text := ofChars s.toList

instance : Coe String Text := ⟨ofString⟩

/-- The characters of a text, surrogates being replaced. Where only certain characters count, a
surrogate counts as little as its replacement. -/
def chars (t : Text) : List Char := t.map CodePoint.shown

def string? (t : Text) : Option String := String.ofList <$> t.mapM CodePoint.char?

def firstSurrogates (t : Text) : Nat × Text :=
  let rest := t.dropWhile fun p => p.char?.isSome
  (t.length - rest.length, rest.takeWhile fun p => p.char?.isNone)

def hexDigits (width n : Nat) : List Char :=
  let ds := Nat.toDigits 16 n
  List.replicate (width - ds.length) '0' ++ ds

def hexValue? (c : Char) : Option Nat :=
  if 48 ≤ c.toNat ∧ c.toNat < 58 then some (c.toNat - 48)
  else if 97 ≤ c.toNat ∧ c.toNat < 103 then some (c.toNat - 87)
  else if 65 ≤ c.toNat ∧ c.toNat < 71 then some (c.toNat - 55)
  else none

theorem chars_ofChars (cs : List Char) : chars (ofChars cs) = cs := by
  simp [chars, ofChars, Function.comp_def, CodePoint.shown]

end Text

end FeetInches
