import FeetInches.CommandLine
import FeetInches.Json.Writer

open FeetInches

def main (args : List String) : IO UInt32 := do
  match CommandLine.answer (args.map Text.ofString) with
  | .error fault =>
    IO.eprintln fault.message
    return 1
  | .ok answer =>
    if let some output := answer.output then IO.println (output.write false)
    if let some complaint := answer.complaint then
      IO.eprintln ("Error: " ++ String.ofList complaint.chars)
    return answer.exitCode.toUInt32
