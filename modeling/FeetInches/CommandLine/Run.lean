import FeetInches.Calculator.Snapshot
import FeetInches.KeyScript

namespace FeetInches.CommandLine

structure Answer where
  exitCode : Nat
  output : Option Json := none
  complaint : Option Text := none

/-- A fresh calculator without timers after a script of keys; a fault ends the script. -/
def runKeys (denominator : Int) (keys : List Key) : Except Fault Calculator := do
  let calculator ← Calculator.start { denominator := denominator, autoRecover := false }
  keys.foldlM
    (fun calculator key =>
      let pressed := calculator.press key
      pressed.2.map fun _ => pressed.1)
    calculator

def runAnswer (denominator : Int) (keys : List Key) : Except Fault Answer := do
  let calculator ← runKeys denominator keys
  let snapshot ← calculator.writtenSnapshot?
  return { exitCode := if calculator.error.isSome then 1 else 0, output := some (.object snapshot) }

end FeetInches.CommandLine
