import FeetInches.Decimal.Shortest
import FeetInches.Json.Basic
import FeetInches.Text.Quoted

namespace FeetInches.Json

open Decimal

def typeName : Json → String
  | null => "NoneType"
  | bool _ => "bool"
  | int _ => "int"
  | real _ => "float"
  | text _ => "str"
  | list _ => "list"
  | object _ => "dict"

mutual

def shown : Json → String
  | null => "None"
  | bool value => if value then "True" else "False"
  | int value => intText value
  | real value => shortest value
  | text value => Text.quoted value
  | list items => "[" ++ shownItems items ++ "]"
  | object fields => "\x7b" ++ shownFields fields ++ "\x7d"

def shownItems : List Json → String
  | [] => ""
  | [item] => shown item
  | item :: next :: rest => shown item ++ ", " ++ shownItems (next :: rest)

def shownField : Text × Json → String
  | (name, value) => Text.quoted name ++ ": " ++ shown value

def shownFields : List (Text × Json) → String
  | [] => ""
  | [field] => shownField field
  | field :: next :: rest => shownField field ++ ", " ++ shownFields (next :: rest)

end

def plain : Json → Text
  | text value => value
  | value => shown value

end FeetInches.Json
