import FeetInches.Json.Basic
import FeetInches.Numeral.Real
/-!
Reading JSON text. The words `NaN`, `Infinity` and `-Infinity` count as numbers, and of fields
with one name the last one stands.
-/

namespace FeetInches.Json

inductive ReadFault where
  | malformed
  | tooDeep
  deriving DecidableEq, Repr

def isJsonBlank (p : CodePoint) : Bool :=
  p = .char ' ' || p = .char '\t' || p = .char '\n' || p = .char '\r'

def skipBlanks (t : Text) : Text := t.dropWhile isJsonBlank

def afterWord? : List Char → Text → Option Text
  | [], t => some t
  | w :: ws, .char c :: t => if w = c then afterWord? ws t else none
  | _, _ => none

def hexValue4? (a b c d : Char) : Option Nat := do
  let a ← Text.hexValue? a
  let b ← Text.hexValue? b
  let c ← Text.hexValue? c
  let d ← Text.hexValue? d
  return ((a * 16 + b) * 16 + c) * 16 + d

def shortEscape? : Char → Option Char
  | '"' => some '"'
  | '\\' => some '\\'
  | '/' => some '/'
  | 'b' => some '\x08'
  | 'f' => some '\x0c'
  | 'n' => some '\n'
  | 'r' => some '\r'
  | 't' => some '\t'
  | _ => none

inductive StringPiece where
  | point (p : CodePoint)
  | escape (code : Nat)

def stringPieces : Text → Option (List StringPiece × Text)
  | [] => none
  | .char '"' :: rest => some ([], rest)
  | .char '\\' :: .char 'u' :: .char a :: .char b :: .char c :: .char d :: rest => do
    let code ← hexValue4? a b c d
    let (pieces, more) ← stringPieces rest
    return (.escape code :: pieces, more)
  | .char '\\' :: .char e :: rest => do
    let c ← shortEscape? e
    let (pieces, more) ← stringPieces rest
    return (.point (.char c) :: pieces, more)
  | p :: rest => do
    if p.toNat < 32 ∨ p = .char '\\' then none else
    let (pieces, more) ← stringPieces rest
    return (.point p :: pieces, more)

/-- Two numeric escapes in a row that form a pair of surrogates are one character. -/
def joinPieces : List StringPiece → Text
  | [] => []
  | .point p :: rest => p :: joinPieces rest
  | [.escape code] => [.ofNat code]
  | .escape high :: next :: rest =>
    match next with
    | .escape low =>
      if isHighSurrogate high && isLowSurrogate low then .ofPair high low :: joinPieces rest
      else .ofNat high :: joinPieces (next :: rest)
    | .point _ => .ofNat high :: joinPieces (next :: rest)

def readString (t : Text) : Except ReadFault (Text × Text) :=
  match stringPieces t with
  | none => .error .malformed
  | some (pieces, rest) => .ok (joinPieces pieces, rest)

open Decimal Numeral

def isNumberChar (c : Char) : Bool :=
  (digit? c).isSome || ['+', '-', '.', 'e', 'E'].contains c

def splitNumber : Text → List Char × Text
  | .char c :: rest =>
    if isNumberChar c then
      let (cs, more) := splitNumber rest
      (c :: cs, more)
    else ([], .char c :: rest)
  | t => ([], t)

def fractionPart : List Char → List Digit × List Char
  | '.' :: rest =>
    let ds := leadingDigits rest
    if ds = [] then ([], '.' :: rest) else (ds, afterDigits rest)
  | cs => ([], cs)

def powerPart : List Char → Option Int × List Char
  | c :: rest =>
    let (negative, body) := takeSign rest
    let ds := leadingDigits body
    if (c = 'e' ∨ c = 'E') ∧ ds ≠ [] then
      (some (signed negative (ofDigits ds)), afterDigits body)
    else (none, c :: rest)
  | [] => (none, [])

/-- A number, whole if it has neither fraction nor power. Whole numbers are limited in length. -/
def readNumber (cs : List Char) : Except ReadFault (Json × List Char) :=
  let (negative, body) :=
    match cs with
    | '-' :: rest => (true, rest)
    | _ => (false, cs)
  let (whole, rest) :=
    match body with
    | '0' :: rest => ([0], rest)
    | _ => (leadingDigits body, afterDigits body)
  let (fraction, rest) := fractionPart rest
  let (power, rest) := powerPart rest
  if whole = [] then .error .malformed
  else if fraction = [] ∧ power = none then
    if maxNumeralDigits < whole.length then .error .malformed
    else .ok (.int (signed negative (ofDigits whole)), rest)
  else
    .ok (.real (ofDecimal negative (ofDigits (whole ++ fraction))
      (power.getD 0 - fraction.length)), rest)

def wordValues : List (String × Json) :=
  [("null", .null), ("true", .bool true), ("false", .bool false), ("NaN", .real .nan),
    ("Infinity", .real (.infinite false)), ("-Infinity", .real (.infinite true))]

def readPlain (t : Text) : Except ReadFault (Json × Text) :=
  match wordValues.findSome? fun (word, value) => (afterWord? word.toList t).map (value, ·) with
  | some found => .ok found
  | none => do
    let (cs, more) := splitNumber t
    let (value, rest) ← readNumber cs
    return (value, Text.ofChars rest ++ more)

mutual

/-- A value at the start of a text. `depth` bounds the nesting, and `fuel` the calls. -/
def readValue (fuel depth : Nat) (t : Text) : Except ReadFault (Json × Text) :=
  match fuel with
  | 0 => .error .malformed
  | fuel + 1 =>
    match t with
    | .char '"' :: rest => do
      let (value, rest) ← readString rest
      return (.text value, rest)
    | .char '[' :: rest =>
      if depth = 0 then .error .tooDeep
      else match skipBlanks rest with
        | .char ']' :: rest => .ok (.list [], rest)
        | rest => do
          let (items, rest) ← readItems fuel (depth - 1) rest
          return (.list items, rest)
    | .char '\x7b' :: rest =>
      if depth = 0 then .error .tooDeep
      else match skipBlanks rest with
        | .char '\x7d' :: rest => .ok (.object [], rest)
        | rest => do
          let (fields, rest) ← readFields fuel (depth - 1) [] rest
          return (.object fields, rest)
    | t => readPlain t

def readItems (fuel depth : Nat) (t : Text) : Except ReadFault (List Json × Text) :=
  match fuel with
  | 0 => .error .malformed
  | fuel + 1 => do
    let (item, rest) ← readValue fuel depth t
    match skipBlanks rest with
    | .char ']' :: rest => return ([item], rest)
    | .char ',' :: rest =>
      let (items, rest) ← readItems fuel depth (skipBlanks rest)
      return (item :: items, rest)
    | _ => .error .malformed

def readFields (fuel depth : Nat) (fields : List (Text × Json)) (t : Text) :
    Except ReadFault (List (Text × Json) × Text) :=
  match fuel, t with
  | fuel + 1, .char '"' :: rest => do
    let (name, rest) ← readString rest
    match skipBlanks rest with
    | .char ':' :: rest =>
      let (value, rest) ← readValue fuel depth (skipBlanks rest)
      let fields := setField name value fields
      match skipBlanks rest with
      | .char '\x7d' :: rest => return (fields, rest)
      | .char ',' :: rest => readFields fuel depth fields (skipBlanks rest)
      | _ => .error .malformed
    | _ => .error .malformed
  | _, _ => .error .malformed

end

def read (depth : Nat) (t : Text) : Except ReadFault Json := do
  let (value, rest) ← readValue (2 * t.length + 2) depth (skipBlanks t)
  if skipBlanks rest = [] then return value else .error .malformed

end FeetInches.Json
