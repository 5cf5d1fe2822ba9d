import FeetInches.Numeral.Real
import FeetInches.Fraction
import FeetInches.Text.LetterCase

namespace FeetInches

structure Settings where
  denominator : Int := defaultDenominator
  historySize : Int := 4
  modeTimeout : Binary64 := .nearest false (3 * oneUnits) 2
  bannerTimeout : Binary64 := .nearest false (3 * oneUnits) 1
  autoRecover : Bool := true
  deriving DecidableEq

namespace Settings

/-- What is wrong with the settings. A timeout that is not a number is not found wrong. -/
def fault? (s : Settings) : Option Fault :=
  if s.denominator ∉ padDenominators then some .fractionDenominator
  else if s.historySize < 1 then some .historySize
  else if s.modeTimeout.le (.zero false) || s.bannerTimeout.le (.zero false) then some .timeout
  else none

def check (s : Settings) : Except Fault Settings :=
  match s.fault? with
  | some fault => .error fault
  | none => .ok s

end Settings

abbrev Environment := List (Text × Text)

namespace Environment

def namePrefix : String := "IMPERIAL_CALC_"

def get? (env : Environment) (name : String) : Option Text :=
  (env.find? (·.1 = Text.ofString (namePrefix ++ name))).map (·.2)

def readOr {α : Type} (env : Environment) (name : String) (read : Text → Except Fault α)
    (default : α) : Except Fault α :=
  match env.get? name with
  | some text => read text
  | none => .ok default

def isOn (text : Text) : Bool :=
  ["1", "true", "yes", "on"].contains
    (String.ofList (Text.lowered (Text.trim Text.isBlank text.chars)))

end Environment

def Settings.ofEnvironment (env : Environment) : Except Fault Settings := do
  let base : Settings := {}
  let denominator ← env.readOr "DENOMINATOR" Numeral.readInteger base.denominator
  let historySize ← env.readOr "HISTORY_SIZE" Numeral.readInteger base.historySize
  let modeTimeout ← env.readOr "ERROR_MODE_TIMEOUT" Numeral.readReal base.modeTimeout
  let bannerTimeout ← env.readOr "ERROR_BANNER_TIMEOUT" Numeral.readReal base.bannerTimeout
  let autoRecover ← env.readOr "AUTO_RECOVER" (.ok ∘ Environment.isOn) base.autoRecover
  Settings.check ⟨denominator, historySize, modeTimeout, bannerTimeout, autoRecover⟩

end FeetInches
