import FeetInches.Evaluation.Outcome
import FeetInches.Expression.Editing
import FeetInches.Keypad.Admission
import FeetInches.Settings
/-!
The calculator that one user presses keys on. A step gives the next state together with what it
answers; a fault in the middle of a step leaves the state as far as the step has come.
-/

namespace FeetInches

structure HistoryEntry where
  expression : Text
  result : Text
  deriving DecidableEq, Repr

inductive TimerRole where
  | mode
  | banner
  deriving DecidableEq, Repr

/-- A timer acts only while its generation is the calculator's. -/
structure Timer where
  delay : Binary64
  role : TimerRole
  generation : Nat
  deriving DecidableEq

/-- `carry` is the result of the last calculation, which the next one goes on from. `held` are the
timers that are not cancelled, and `started` all there ever were. -/
structure Calculator where
  settings : Settings
  denominator : Int
  keypad : Keypad
  log : List Key := []
  carry : Option Term := none
  error : Option CalcError := none
  lastExpression : Text := []
  history : List HistoryEntry := []
  generation : Nat := 0
  held : List Timer := []
  started : List Timer := []
  deriving DecidableEq

structure Reply where
  accepted : Bool
  keypad : Keypad
  display : Text
  error : Option CalcError
  deriving DecidableEq

abbrev Step (α : Type) := Calculator × Except Fault α

namespace Calculator

def fresh (settings : Settings) : Calculator :=
  { settings := settings
    denominator := settings.denominator
    keypad := .initial settings.denominator }

def start (settings : Settings) : Except Fault Calculator := do
  let settings ← settings.check
  if 2 ^ 63 ≤ settings.historySize then .error .historyTooLong else return fresh settings

/-- The expression on the display: the carried result, then what the log types. -/
def terms (c : Calculator) : Expression := c.carry.toList ++ Expression.ofKeys c.log

def display? (c : Calculator) : Except Fault Text := Expression.text? c.terms

def reply (c : Calculator) (accepted : Bool) : Step Reply :=
  (c, do return ⟨accepted, c.keypad, ← c.display?, c.error⟩)

def rebuiltKeypad (c : Calculator) : Keypad :=
  let base := Keypad.initial c.denominator
  let base :=
    match c.carry with
    | some result => { base with mode := result.mode }
    | none => base
  base.replay c.log

def rebuild (c : Calculator) : Calculator := { c with keypad := c.rebuiltKeypad }

def cancelTimers (c : Calculator) : Calculator :=
  { c with generation := c.generation + 1, held := [] }

def startTimers (c : Calculator) : Calculator :=
  if c.settings.autoRecover then
    let timers : List Timer :=
      [⟨c.settings.modeTimeout, .mode, c.generation⟩,
        ⟨c.settings.bannerTimeout, .banner, c.generation⟩]
    { c with held := c.held ++ timers, started := c.started ++ timers }
  else c

def reject (c : Calculator) (error : CalcError) : Step Reply :=
  ({ c with error := some error, keypad := { c.keypad with mode := .error } }.startTimers).reply
    false

/-- Takes terms back as a carried result and a log. If they have no log the old one stays. -/
def store (c : Calculator) (terms : Expression) : Step Unit :=
  let (carry, typed) :=
    match terms with
    | first :: rest => if first.isResult then (some first, rest) else (none, terms)
    | [] => (none, [])
  let c := { c with carry := carry }
  match Expression.keys typed with
  | .ok log => ({ c with log := log }, .ok ())
  | .error fault => (c, .error fault)

def remember (c : Calculator) (entry : HistoryEntry) : Calculator :=
  let history := c.history ++ [entry]
  { c with history := history.drop (history.length - c.settings.historySize.toNat) }

/-- Answers an equals sign at the end of the log. With an error the sign is taken back. -/
def evaluate (c : Calculator) : Step Reply :=
  let terms := c.terms
  match Expression.evaluate? terms with
  | .error fault => (c, .error fault)
  | .ok outcome =>
    match outcome.result with
    | .error error => { c with log := c.log.dropLast }.rebuild.reject error
    | .ok result =>
      match Expression.text? terms.dropLast with
      | .error fault => (c, .error fault)
      | .ok expression =>
        let c := { c with lastExpression := expression }
        match result.text? with
        | .error fault => (c, .error fault)
        | .ok text =>
          ({ c.remember ⟨expression, text⟩ with carry := some result, log := [] }.rebuild).reply
            true

/-- A new operand right after a result starts a new calculation. -/
def dropCarry (c : Calculator) (key : Key) : Calculator :=
  if key.isOperand && c.carry.isSome && c.log.isEmpty then
    { c with carry := none, keypad := .initial c.denominator }
  else c

def recover (c : Calculator) : Calculator :=
  if c.keypad.mode = .error then c.rebuild else c

def enter (c : Calculator) (key : Key) : Step Reply :=
  let c := c.cancelTimers.recover.dropCarry key
  match c.keypad.mode.refusal? key c.log.getLast? with
  | some error => c.reject error
  | none =>
    let c := { c with keypad := c.keypad.press key, log := c.log ++ [key], error := none }
    if key = .equals then c.evaluate else c.reply true

def backspace (c : Calculator) : Step Reply :=
  let c := c.cancelTimers
  match c.store (Expression.eraseInput c.terms) with
  | (c, .error fault) => (c, .error fault)
  | (c, .ok ()) => { c with error := none }.rebuild.reply true

def clear (c : Calculator) : Step Reply :=
  let c := c.cancelTimers
  { c with keypad := c.keypad.control .clear, log := [], carry := none, error := none }.reply true

def reset (c : Calculator) : Step Reply :=
  { c with
    denominator := c.settings.denominator
    history := []
    lastExpression := []
    keypad := .initial c.settings.denominator }.clear

def errorTimeout (c : Calculator) : Step Reply := c.recover.reply true

def press (c : Calculator) : Key → Step Reply
  | .control .clear => c.clear
  | .control .backspace => c.backspace
  | .control .errorTimeout => c.errorTimeout
  | key => c.enter key

structure Evaluation where
  result : Text
  expression : Text
  error : Option CalcError
  deriving DecidableEq

def pressEquals (c : Calculator) : Step Evaluation :=
  match c.press .equals with
  | (c, .error fault) => (c, .error fault)
  | (c, .ok reply) =>
    match reply.error with
    | some error => (c, .ok ⟨[], reply.display, some error⟩)
    | none => (c, .ok ⟨reply.display, c.lastExpression, none⟩)

def dropLastFraction (c : Calculator) : Step Unit :=
  match c.terms.getLast? with
  | some (.typedLength l) =>
    if l.hasFraction then
      match c.store (c.terms.dropLast ++ [.typedLength l.dropFraction]) with
      | (c, .error fault) => (c, .error fault)
      | (c, .ok ()) => (if c.keypad.mode = .error then c else c.rebuild, .ok ())
    else (c, .ok ())
  | _ => (c, .ok ())

/-- Sets the denominator of the inches pad. A fraction picked for the operand being typed is
dropped. -/
def setDenominator (c : Calculator) (denominator : Int) : Step Reply :=
  if denominator ∉ padDenominators then (c, .error .denominatorChoice)
  else
    match { c with denominator := denominator }.dropLastFraction with
    | (c, .error fault) => (c, .error fault)
    | (c, .ok ()) =>
      let inches := { c.keypad.inches with numerator := 0, denominator := denominator }
      let keypad := { c.keypad with inches := inches, denominator := denominator }
      { c with keypad := keypad }.reply true

def close (c : Calculator) : Calculator := c.cancelTimers

/-- What a timer does. One of an earlier generation does nothing. -/
def fire (c : Calculator) (timer : Timer) : Step Unit :=
  if timer.generation ≠ c.generation then (c, .ok ())
  else
    match timer.role with
    | .mode => (c.errorTimeout.1, c.errorTimeout.2.map fun _ => ())
    | .banner => ({ c with error := none }, .ok ())

end Calculator

end FeetInches
