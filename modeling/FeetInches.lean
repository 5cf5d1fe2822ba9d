import FeetInches.Api
import FeetInches.Main
import FeetInches.Proofs.Api.Failure
import FeetInches.Proofs.Api.Payload
import FeetInches.Proofs.Api.Refusal
import FeetInches.Proofs.Binary64.Arithmetic
import FeetInches.Proofs.Binary64.Rounding
import FeetInches.Proofs.Calculator.Agreement
import FeetInches.Proofs.Calculator.Answering
import FeetInches.Proofs.Calculator.Backspace
import FeetInches.Proofs.Calculator.Calls
import FeetInches.Proofs.Calculator.Composing
import FeetInches.Proofs.Calculator.Delays
import FeetInches.Proofs.Calculator.Denominator
import FeetInches.Proofs.Calculator.Equals
import FeetInches.Proofs.Calculator.History
import FeetInches.Proofs.Calculator.Invariant
import FeetInches.Proofs.Calculator.Order
import FeetInches.Proofs.Calculator.Oversize
import FeetInches.Proofs.Calculator.Recovery
import FeetInches.Proofs.Calculator.Rejection
import FeetInches.Proofs.Calculator.Renewal
import FeetInches.Proofs.Calculator.Steady
import FeetInches.Proofs.Calculator.Step
import FeetInches.Proofs.Calculator.Timers
import FeetInches.Proofs.Calculator.Verdict
import FeetInches.Proofs.Decimal.Significant
import FeetInches.Proofs.Decimal.TenDigits
import FeetInches.Proofs.Evaluation.Arrangement
import FeetInches.Proofs.Evaluation.Chaining
import FeetInches.Proofs.Evaluation.Commuting
import FeetInches.Proofs.Evaluation.ExactSum
import FeetInches.Proofs.Evaluation.Finiteness
import FeetInches.Proofs.Evaluation.Grammar
import FeetInches.Proofs.Evaluation.Legible
import FeetInches.Proofs.Evaluation.NumberTexts
import FeetInches.Proofs.Evaluation.Solution
import FeetInches.Proofs.Evaluation.UnitSoundness
import FeetInches.Proofs.Evaluation.UnitTable
import FeetInches.Proofs.Expression.Alternation
import FeetInches.Proofs.Expression.Canonical
import FeetInches.Proofs.Expression.Counts
import FeetInches.Proofs.Expression.Display
import FeetInches.Proofs.Expression.Tidy
import FeetInches.Proofs.Expression.Transcript
import FeetInches.Proofs.Expression.Typing
import FeetInches.Proofs.Key.ScriptWords
import FeetInches.Proofs.Keypad.Accumulation
import FeetInches.Proofs.Keypad.Admission
import FeetInches.Proofs.Keypad.KeyOrder
import FeetInches.Proofs.Keypad.Language
import FeetInches.Proofs.Keypad.LengthShown
import FeetInches.Proofs.Keypad.Tracking
import FeetInches.Proofs.Keypad.Turning
import FeetInches.Proofs.Measure.BigUnits
import FeetInches.Proofs.Measure.CanonicalForm
import FeetInches.Proofs.Measure.Decomposition
import FeetInches.Proofs.Measure.Fraction
import FeetInches.Proofs.Measure.LengthText
import FeetInches.Proofs.Measure.Range
import FeetInches.Proofs.Numeral.Amount
import FeetInches.Proofs.Numeral.Readable
import FeetInches.Proofs.Numeral.Rewriting
