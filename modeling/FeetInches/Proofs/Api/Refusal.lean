import FeetInches.Proofs.Api.Failure
/-!
Requests that are refused. What is wrong with a request is found before anything is done for it:
once a step is made, its answer is a snapshot or a failure. So a refusal leaves the calculator as it
was.
-/

namespace FeetInches.Api

open Calculator

variable {Request : Type} {F : Framework Request} {c : Calculator} {request : Request}

theorem Reports.not_refused {α : Type} {step : Step α} {answer : Step Response}
    (reports : Reports step answer) : status answer.2 ≠ 400 := by
  obtain ⟨_, ⟨status, _⟩ | ⟨status, _⟩⟩ := reports
  · rw [status]
    decide
  · rw [status]
    decide

theorem Handled.state_of_refused {data : Json} {answer : Step Response}
    (handled : Handled c data answer) (refused : status answer.2 = 400) : answer.1 = c := by
  cases handled with
  | refused _ _ _ state => exact state
  | pressed key _ _ reports => exact absurd refused reports.not_refused
  -- the denominator is a known one, and no fault in the rewriting of the log is taken for a refusal
  | turned _ _ _ _ _ reports => exact absurd refused reports.not_refused
  | infinite _ same => rw [same]

theorem calculate_of_refused (reached : c.Reached) {data : Option Json}
    (refused : status (calculate c data).2 = 400) : (calculate c data).1 = c := by
  cases data with
  | some data => exact (handled_calculate reached data).state_of_refused refused
  | none => rfl

/-- After requests that were all answered with status 200 or 400, one that is answered with 400
leaves the calculator as it was, timers included. -/
theorem refused_request_changes_nothing (documented : F.Documented) (reached : F.Reached c)
    (refused : (F.respond c request).2.status = 400) : (F.respond c request).1 = c := by
  rcases documented.respond_cases c request with same | ⟨_, rfl | rfl, state, sent⟩
  · exact same
  · rw [sent] at refused
    rw [state]
    exact calculate_of_refused (reached.calculator documented) refused
  · rw [sent] at refused
    exact absurd refused (reset_reports c).not_refused

def keyText (pad key : String) : String :=
  "\x7b\"action\": \"token\", \"pad\": \"" ++ pad ++ "\", \"key\": \"" ++ key ++ "\"\x7d"

def denominatorText (value : String) : String :=
  "\x7b\"action\": \"denominator\", \"value\": " ++ value ++ "\x7d"

/-- After half an inch, a plus sign and another one that is rejected, 12 is refused as a
denominator. The timers of the rejection are held still. -/
theorem refused_denominator_changes_nothing :
    postedTexts.Documented ∧ ∃ c, postedTexts.Reached c ∧ c.keypad.mode = .error ∧
      c.held.length = 2 ∧ (postedTexts.respond c (denominatorText "12")).2.status = 400 ∧
      (postedTexts.respond c (denominatorText "12")).1 = c := by
  have half := (reached_fresh (F := postedTexts)).request (keyText "Inches" "1/2")
    (Or.inl (by decide +kernel))
  have plus := half.request (keyText "Operator" "+") (Or.inl (by decide +kernel))
  have again := plus.request (keyText "Operator" "+") (Or.inl (by decide +kernel))
  refine ⟨postedTexts_documented, _, again, by decide +kernel, by decide +kernel,
    by decide +kernel, ?_⟩
  exact refused_request_changes_nothing postedTexts_documented again (by decide +kernel)

end FeetInches.Api
