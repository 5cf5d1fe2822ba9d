import FeetInches.Calculator.Snapshot
import FeetInches.Json.Shown
/-!
The handlers of the JSON interface to one calculator: `GET /api/state`, `POST /api/calculate` and
`POST /api/reset`. What a handler does not catch is a fault of its step.
-/

namespace FeetInches.Api

structure Response where
  status : Nat
  body : Option Json := none

def refusal (message : Text) : Response :=
  { status := 400, body := some (.object [("error", .text message)]) }

def snapshot (c : Calculator) (accepted : Bool) : Except Fault Response := do
  let fields ← c.writtenSnapshot?
  let accepted : Text × Json := ("accepted", .bool accepted)
  return { status := 200, body := some (.object (fields ++ [accepted])) }

def afterStep {α : Type} (accepted : α → Bool) : Step α → Step Response
  | (c, .ok reply) => (c, snapshot c (accepted reply))
  | (c, .error fault) => (c, .error fault)

def integer? : Json → Except Fault Int
  | .bool value => .ok (if value then 1 else 0)
  | .int value => .ok value
  | .real value => do
    let n ← value.truncate?
    return n
  | .text value => Numeral.readInteger value
  | value => .error (.notNumeric value.typeName)

/-- Bad values and wrong types are caught, whether they come from the value or from setting it. -/
def denominatorRefusal (fault : Fault) : Except Fault Response :=
  match fault.nature with
  | .badValue | .wrongType => .ok (refusal ("Invalid denominator: " ++ fault.message))
  | .outOfRange | .missingPart => .error fault

def setDenominator (c : Calculator) (value : Json) : Step Response :=
  match integer? value with
  | .error fault => (c, denominatorRefusal fault)
  | .ok denominator =>
    match c.setDenominator denominator with
    | (c, .error fault) => (c, denominatorRefusal fault)
    | (c, .ok _) => (c, snapshot c true)

/-- Presses the key that a payload names. The key's text is whatever its value is written as. -/
def pressKey (c : Calculator) (pad key : Json) : Step Response :=
  match Key.ofEntry pad (.text key.plain) with
  | .error fault =>
    (c, if fault.nature = .badValue then .ok (refusal fault.message) else .error fault)
  | .ok key => afterStep (·.accepted) (c.press key)

inductive Action where
  | token
  | equals
  | backspace
  | clear
  | denominator
  deriving DecidableEq, Repr

def Action.ofWord? : String → Option Action
  | "token" => some .token
  | "equals" => some .equals
  | "backspace" => some .backspace
  | "clear" => some .clear
  | "denominator" => some .denominator
  | _ => none

def act (c : Calculator) (data : Json) : Step Response :=
  let fieldOr (name : String) (default : Json) := (data.field? name).getD default
  let action := fieldOr "action" (.text [])
  match action.word?.bind Action.ofWord? with
  | some .token => pressKey c (fieldOr "pad" (.text [])) (fieldOr "key" (.text []))
  | some .equals => afterStep (·.error.isNone) c.pressEquals
  | some .backspace => afterStep (fun _ => true) c.backspace
  | some .clear => afterStep (fun _ => true) c.clear
  | some .denominator => setDenominator c (fieldOr "value" .null)
  | none => (c, .ok (refusal ("Unknown action: " ++ action.plain)))

def calculate (c : Calculator) : Option Json → Step Response
  | none => (c, .ok (refusal "No data provided"))
  | some data =>
    if data.isEmpty then (c, .ok (refusal "No data provided"))
    else match data with
      | .object _ => act c data
      | _ => (c, .ok (refusal "Expected a JSON object"))

def reset (c : Calculator) : Step Response := afterStep (fun _ => true) c.reset

end FeetInches.Api
