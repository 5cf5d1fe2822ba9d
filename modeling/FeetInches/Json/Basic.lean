import FeetInches.Binary64.Basic
import FeetInches.Text.Basic

namespace FeetInches

inductive Json where
  | null
  | bool (value : Bool)
  | int (value : Int)
  | real (value : Binary64)
  | text (value : Text)
  | list (items : List Json)
  | object (fields : List (Text × Json))

def setField {α : Type} (name : Text) (value : α) : List (Text × α) → List (Text × α)
  | [] => [(name, value)]
  | field :: rest =>
    if field.1 = name then (name, value) :: rest else field :: setField name value rest

namespace Json

def field? (name : Text) : Json → Option Json
  | object fields => (fields.find? (·.1 = name)).map (·.2)
  | _ => none

/-- What counts as no data: null, false, zero and whatever is empty. -/
def isEmpty : Json → Bool
  | null => true
  | bool value => !value
  | int value => value = 0
  | real value => value.isZero
  | text value => value.isEmpty
  | list items => items.isEmpty
  | object fields => fields.isEmpty

def word? : Json → Option String
  | text value => value.string?
  | _ => none

def ofOption {α : Type} (encode : α → Json) : Option α → Json
  | none => null
  | some value => encode value

end Json

end FeetInches
