import FeetInches.Key.Basic
import FeetInches.Text.LetterCase
/-!
Key scripts: words that each stand for one or more key presses. `f12` are two keys on the feet
pad, `i1/4` is one on the inches pad, `s3.5` are three on the scalar pad; operators stand for
themselves, and `bs` and `clear` are controls in any letter case.
-/

namespace FeetInches.KeyScript

def controlWords : List (String × Control) :=
  [("bs", .backspace), ("backspace", .backspace), ("clear", .clear)]

def padOfLetter? : Char → Option Pad
  | 'f' => some .feet
  | 'i' => some .inches
  | 's' => some .scalar
  | _ => none

/-- The keys of a pad that a text shows: one fraction key if there is a slash in it, else a key
for each character. -/
def readBody (pad : Pad) (body : Text) : Except Fault (List Key) :=
  if body.contains (.char '/') then do return [← Key.ofText pad body]
  else body.mapM fun c => Key.ofText pad [c]

def readWord (word : Text) : Except Fault (List Key) :=
  let lowered := Text.lowered word.chars
  match Arith.ofSymbol? word with
  | some op => .ok [.operator op]
  | none =>
    if word = equalsSymbol then .ok [.equals]
    else match controlWords.find? (·.1 = String.ofList lowered) with
      | some (_, command) => .ok [.control command]
      | none =>
        match lowered.head?.bind padOfLetter?, word.drop 1 with
        | some pad, first :: rest => readBody pad (first :: rest)
        | _, _ => .error (.unknownWord word)

def read : List Text → Except Fault (List Key)
  | [] => .ok []
  | word :: rest => do
    let keys ← readWord word
    let others ← read rest
    return keys ++ others

end FeetInches.KeyScript
