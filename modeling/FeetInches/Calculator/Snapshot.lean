import FeetInches.Calculator.Basic
import FeetInches.Json.Basic

namespace FeetInches

def PadValue.json (p : PadValue) : Json :=
  .object [("whole", .int p.whole), ("numerator", .int p.numerator),
    ("denominator", .int p.denominator)]

def HistoryEntry.json (entry : HistoryEntry) : Json :=
  .object [("expression", .text entry.expression), ("result", .text entry.result)]

def Keypad.measurements (k : Keypad) : Json :=
  .object [("feet", k.feet.json), ("inches", k.inches.json),
    ("scalar", .object [("value", .text k.scalar)])]

def Calculator.snapshot? (c : Calculator) : Except Fault (List (Text × Json)) := do
  let display ← c.display?
  return [
    ("mode", .text c.keypad.mode.label),
    ("display", .text display),
    ("error", .ofOption (.text ·.message) c.error),
    ("error_kind", .ofOption (.text ·.category) c.error),
    ("active_pad", .ofOption (.text ·.label) c.keypad.activePad),
    ("fraction_denominator", .int c.denominator),
    ("measurements", c.keypad.measurements),
    ("history", .list (c.history.map HistoryEntry.json)),
    ("input_token_count", .int c.log.length)]

/-- A snapshot that can be written: the counts on the pads, which may be longer than any on the
display, are not too long either. -/
def Calculator.writtenSnapshot? (c : Calculator) : Except Fault (List (Text × Json)) := do
  let fields ← c.snapshot?
  let _ ← writtenInt? c.keypad.feet.whole
  let _ ← writtenInt? c.keypad.inches.whole
  return fields

end FeetInches
