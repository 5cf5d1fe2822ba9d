/-!
Small and capital letters, as far as comparison with an ASCII word needs them. Outside ASCII only
two characters have a small form with an ASCII letter in it, the capital dotted i and the kelvin
sign. Few have a capital form of ASCII letters alone: the dotless i, the long s, the sharp s and
the ligatures.
-/

namespace FeetInches.Text

def smallLetters (c : Char) : List Char :=
  if c = Char.ofNat 0x130 then ['i', Char.ofNat 0x307]
  else if c = Char.ofNat 0x212a then ['k']
  else [c.toLower]

/-- The text in small letters; other characters without an ASCII small form stay as they are. -/
def lowered (cs : List Char) : List Char := cs.flatMap smallLetters

def capitalLetters (c : Char) : List Char :=
  match c.toNat with
  | 0xdf => ['S', 'S']
  | 0x131 => ['I']
  | 0x17f => ['S']
  | 0xfb00 => ['F', 'F']
  | 0xfb01 => ['F', 'I']
  | 0xfb02 => ['F', 'L']
  | 0xfb03 => ['F', 'F', 'I']
  | 0xfb04 => ['F', 'F', 'L']
  | 0xfb05 | 0xfb06 => ['S', 'T']
  | _ => [c.toUpper]

def capitalised (cs : List Char) : List Char := cs.flatMap capitalLetters

end FeetInches.Text
