import FeetInches.Text.Basic
import FeetInches.Text.Printable

namespace FeetInches.Text

def quoteMark (t : Text) : Char :=
  if t.contains (.char '\'') && !t.contains (.char '"') then '"' else '\''

/-- A character inside quotes: the mark and the backslash follow a backslash, line ends and tabs
have letters of their own, and what cannot be printed is given by its code. -/
def quotedChar (mark c : Char) : List Char :=
  if c = mark ∨ c = '\\' then ['\\', c]
  else if c = '\n' then ['\\', 'n']
  else if c = '\r' then ['\\', 'r']
  else if c = '\t' then ['\\', 't']
  else if isPrintable c then [c]
  else if c.toNat < 0x100 then '\\' :: 'x' :: hexDigits 2 c.toNat
  else if c.toNat < 0x10000 then '\\' :: 'u' :: hexDigits 4 c.toNat
  else '\\' :: 'U' :: hexDigits 8 c.toNat

def quotedCodePoint (mark : Char) : CodePoint → List Char
  | .char c => quotedChar mark c
  | .surrogate offset => '\\' :: 'u' :: hexDigits 4 (0xd800 + offset.val)

def quotedChars (t : Text) : List Char :=
  let mark := quoteMark t
  mark :: t.flatMap (quotedCodePoint mark) ++ [mark]

def quoted (t : Text) : String := String.ofList (quotedChars t)

end FeetInches.Text
