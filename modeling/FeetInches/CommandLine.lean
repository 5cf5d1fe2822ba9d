import FeetInches.CommandLine.Run
import FeetInches.Outer.Arguments

namespace FeetInches.CommandLine

inductive Command where
  | run
  | serve
  deriving DecidableEq, Repr

def Command.all : List Command := [.run, .serve]

def Command.name : Command → String
  | .run => "run"
  | .serve => "serve"

def commonOptions : List OptionKind := [⟨"--help", false⟩, ⟨"--verbose", false⟩]

def Command.options : Command → List OptionKind
  | .run => [⟨"--denominator", true⟩, ⟨"--help", false⟩]
  | .serve => [⟨"--help", false⟩, ⟨"--host", true⟩, ⟨"--port", true⟩]

def Answer.ofUsage (fault : UsageFault) : Answer :=
  { exitCode := 2, complaint := fault.message? }

def denominatorOf? : Option Text → Except UsageFault Int
  | none => .ok defaultDenominator
  | some text =>
    match padDenominators.find? fun n => Text.ofString (Decimal.intText n) = text with
    | some denominator => .ok denominator
    | none => .error (.badDenominator text)

def keysOf? (words : List Text) : Except UsageFault (List Key) :=
  if words = [] then .error .missingKeys
  else (KeyScript.read words).mapError .badKeys

def checkInteger (text : Text) : Except UsageFault Unit :=
  match Numeral.readInteger text with
  | .ok _ => .ok ()
  | .error _ => .error (.badNumber text)

def checkNoWords : List Text → Except UsageFault Unit
  | [] => .ok ()
  | first :: others => .error (.extraArguments first others)

/-- Runs a command. Asking for help ends without output of ours. -/
def Command.run? (command : Command) (args : List Text) :
    Except UsageFault (Except Fault Answer) := do
  let a ← Arguments.read command.options true {} args
  if a.switches.contains "--help" then return .ok { exitCode := 0 } else
  match command with
  | .run =>
    let denominator ← denominatorOf? (a.value? "--denominator")
    let keys ← keysOf? a.words
    return runAnswer denominator keys
  | .serve =>
    (a.value? "--port").forM checkInteger
    checkNoWords a.words
    return .ok { exitCode := 1, complaint := some "No server is available." }

def answer? (args : List Text) : Except UsageFault (Except Fault Answer) := do
  if args = [] then .error .noArguments else
  let a ← Arguments.read commonOptions false {} args
  if a.switches.contains "--help" then return .ok { exitCode := 0 } else
  match a.words with
  | [] => .error .missingCommand
  | name :: rest =>
    match Command.all.find? (Text.ofString ·.name = name) with
    | some command => command.run? rest
    | none =>
      let a ← Arguments.read commonOptions false {} (name :: rest)
      if a.switches.contains "--help" then return .ok { exitCode := 0 }
      else .error (.unknownCommand name (similarNames (Command.all.map (·.name)) name))

def answer (args : List Text) : Except Fault Answer :=
  match answer? args with
  | .ok answer => answer
  | .error fault => .ok (.ofUsage fault)

end FeetInches.CommandLine
