import FeetInches.Fault
/-!
The arguments of a command: options with and without a value, and words. Two dashes end the
options. It stands in for a real option parser when the command line is run; nothing is proved about
it.
-/

namespace FeetInches.Text

def sharedPrefix : Text → Text → Nat
  | a :: as, b :: bs => if a = b then sharedPrefix as bs + 1 else 0
  | _, _ => 0

structure Run where
  left : Nat
  right : Nat
  length : Nat

def longestRun (as bs : Text) : Run :=
  let starts := (List.range as.length).flatMap fun i => (List.range bs.length).map fun j => (i, j)
  starts.foldl
    (fun best (i, j) =>
      let length := sharedPrefix (as.drop i) (bs.drop j)
      if best.length < length then ⟨i, j, length⟩ else best)
    ⟨0, 0, 0⟩

def sharedCount (fuel : Nat) (as bs : Text) : Nat :=
  match fuel with
  | 0 => 0
  | fuel + 1 =>
    let run := longestRun as bs
    if run.length = 0 then 0
    else
      sharedCount fuel (as.take run.left) (bs.take run.right) + run.length +
        sharedCount fuel (as.drop (run.left + run.length)) (bs.drop (run.right + run.length))

def isSimilar (as bs : Text) : Bool :=
  6 * (as.length + bs.length) ≤ 20 * sharedCount (as.length + 1) as bs

end FeetInches.Text

namespace FeetInches.CommandLine

inductive UsageFault where
  | noArguments
  | missingCommand
  | unknownCommand (name : Text) (similar : List String)
  | unknownOption (name : Text) (similar : List String)
  | optionWithoutValue (name : String)
  | optionWithValue (name : String)
  | badDenominator (text : Text)
  | badNumber (text : Text)
  | missingKeys
  | badKeys (fault : Fault)
  | extraArguments (first : Text) (others : List Text)

def suggestion : List String → String
  | [] => ""
  | [other] => " Did you mean " ++ Text.quoted other ++ "?"
  | others =>
    " (Did you mean one of: " ++ ", ".intercalate (others.map (Text.quoted ∘ Text.ofString)) ++ "?)"

def UsageFault.message? : UsageFault → Option Text
  | .noArguments => none
  | .missingCommand => some "Missing command."
  | .unknownCommand name similar =>
    some ("No such command " ++ Text.quoted name ++ "." ++ suggestion similar)
  | .unknownOption name similar =>
    some ("No such option " ++ Text.quoted name ++ "." ++ suggestion similar)
  | .optionWithoutValue name => some ("Option " ++ Text.quoted name ++ " requires an argument.")
  | .optionWithValue name => some ("Option " ++ Text.quoted name ++ " does not take a value.")
  | .badDenominator text =>
    some ("Invalid value for '--denominator': " ++ Text.quoted text ++
      " is not one of '8', '16', '32'.")
  | .badNumber text =>
    some ("Invalid value for '--port': " ++ Text.quoted text ++ " is not a valid integer.")
  | .missingKeys => some "Missing argument 'KEYS...'."
  | .badKeys fault => some ("Invalid value for KEYS: " ++ fault.message)
  | .extraArguments first others =>
    some ("Got unexpected extra argument" ++ (if others = [] then "" else "s") ++ " (" ++ first ++
      others.flatMap (.char ' ' :: ·) ++ ")")

def similarNames (names : List String) (text : Text) : List String :=
  names.filter fun name => Text.isSimilar name text

structure OptionKind where
  name : String
  takesValue : Bool

structure Arguments where
  values : List (String × Text) := []
  switches : List String := []
  words : List Text := []

namespace Arguments

def value? (a : Arguments) (name : String) : Option Text := a.values.lookup name

def setValue (a : Arguments) (name : String) (value : Text) : Arguments :=
  { a with values := (name, value) :: a.values }

def switchOn (a : Arguments) (name : String) : Arguments :=
  { a with switches := name :: a.switches }

def addWords (a : Arguments) (words : List Text) : Arguments := { a with words := a.words ++ words }

end Arguments

def isOption : Text → Bool
  | .char '-' :: _ :: _ => true
  | _ => false

def optionParts (arg : Text) : Text × Option Text :=
  match arg.span (· ≠ .char '=') with
  | (name, _ :: value) => (name, some value)
  | (name, []) => (name, none)

def unknownOption (kinds : List OptionKind) (arg : Text) : UsageFault :=
  if arg.take 2 = "--" then
    let name := (optionParts arg).1
    .unknownOption name (similarNames (kinds.map (·.name)) name)
  else .unknownOption (arg.take 2) []

/-- Reads arguments from the left. Options may stand between words, or else the first word ends
them. -/
def Arguments.read (kinds : List OptionKind) (betweenWords : Bool) (known : Arguments) :
    List Text → Except UsageFault Arguments
  | [] => .ok known
  | arg :: rest =>
    if arg = "--" then .ok (known.addWords rest)
    else if isOption arg then
      let (name, value?) := optionParts arg
      match kinds.find? (Text.ofString ·.name = name), value?, rest with
      | none, _, _ => .error (unknownOption kinds arg)
      | some ⟨name, false⟩, none, rest => read kinds betweenWords (known.switchOn name) rest
      | some ⟨name, false⟩, some _, _ => .error (.optionWithValue name)
      | some ⟨name, true⟩, some value, rest =>
        read kinds betweenWords (known.setValue name value) rest
      | some ⟨name, true⟩, none, value :: rest =>
        read kinds betweenWords (known.setValue name value) rest
      | some ⟨name, true⟩, none, [] => .error (.optionWithoutValue name)
    else if betweenWords then read kinds betweenWords (known.addWords [arg]) rest
    else .ok (known.addWords (arg :: rest))

end FeetInches.CommandLine
