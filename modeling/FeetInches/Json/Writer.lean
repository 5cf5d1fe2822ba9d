import FeetInches.Decimal.Shortest
import FeetInches.Json.Basic

namespace FeetInches.Json

open Decimal

def codeEscape (n : Nat) : List Char := '\\' :: 'u' :: Text.hexDigits 4 n

def writtenChar (ascii : Bool) (c : Char) : List Char :=
  if c = '"' ∨ c = '\\' then ['\\', c]
  else if c = '\n' then ['\\', 'n']
  else if c = '\r' then ['\\', 'r']
  else if c = '\t' then ['\\', 't']
  else if c.toNat = 8 then ['\\', 'b']
  else if c.toNat = 12 then ['\\', 'f']
  else if c.toNat < 32 then codeEscape c.toNat
  else if c.toNat < 127 ∨ !ascii then [c]
  else if c.toNat < 0x10000 then codeEscape c.toNat
  else codeEscape (0xd800 + (c.toNat - 0x10000) / 0x400) ++
    codeEscape (0xdc00 + (c.toNat - 0x10000) % 0x400)

def writtenCodePoint (ascii : Bool) : CodePoint → List Char
  | .char c => writtenChar ascii c
  | .surrogate offset => codeEscape (0xd800 + offset.val)

def writtenText (ascii : Bool) (text : Text) : String :=
  "\"" ++ String.ofList (text.flatMap (writtenCodePoint ascii)) ++ "\""

def writtenReal : Binary64 → String
  | .nan => "NaN"
  | .infinite negative => if negative then "-Infinity" else "Infinity"
  | x => shortest x

mutual

def write (ascii : Bool) : Json → String
  | null => "null"
  | bool value => if value then "true" else "false"
  | int value => intText value
  | real value => writtenReal value
  | text value => writtenText ascii value
  | list items => "[" ++ writeItems ascii items ++ "]"
  | object fields => "\x7b" ++ writeFields ascii fields ++ "\x7d"

def writeItems (ascii : Bool) : List Json → String
  | [] => ""
  | [item] => write ascii item
  | item :: next :: rest => write ascii item ++ ", " ++ writeItems ascii (next :: rest)

def writeField (ascii : Bool) : Text × Json → String
  | (name, value) => writtenText ascii name ++ ": " ++ write ascii value

def writeFields (ascii : Bool) : List (Text × Json) → String
  | [] => ""
  | [field] => writeField ascii field
  | field :: next :: rest => writeField ascii field ++ ", " ++ writeFields ascii (next :: rest)

end

end FeetInches.Json
