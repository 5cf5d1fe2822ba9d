import FeetInches.Json.Reader
import FeetInches.Proofs.Api.Payload

namespace FeetInches.Api

open Calculator

variable {Request : Type} {F : Framework Request} {c : Calculator} {request : Request}

/-- A calculator behind the interface. It starts with the settings of an environment, every request
to it was answered with status 200 or 400, and timers that were started may have fired. -/
inductive Framework.Reached (F : Framework Request) : Calculator → Prop where
  | start {env : Environment} {settings : Settings} {c : Calculator} :
      Settings.ofEnvironment env = .ok settings → Calculator.start settings = .ok c → Reached F c
  | request {c : Calculator} (request : Request) : Reached F c →
      (F.respond c request).2.status = 200 ∨ (F.respond c request).2.status = 400 →
      Reached F (F.respond c request).1
  | fire {c : Calculator} (timer : Timer) : Reached F c → timer ∈ c.started →
      Reached F (c.fire timer).1

namespace Framework.Documented

variable (documented : F.Documented)
include documented

theorem deliver_status (request : Request) (outcome : Except Fault Response) :
    (F.deliver request outcome).status = status outcome := by
  cases outcome with
  | ok response => exact documented.returned request response
  | error fault => exact documented.uncaught request fault

theorem respond_of_posted (c : Calculator) (posted : F.route request = .ok .calculate) :
    let step := calculate c (F.body? request)
    (F.respond c request).1 = step.1 ∧ (F.respond c request).2.status = status step.2 := by
  simp only [respond, posted, call, documented.silent, true_and]
  exact documented.deliver_status request _

theorem respond_cases (c : Calculator) (request : Request) :
    (F.respond c request).1 = c ∨
      ∃ step, (step = calculate c (F.body? request) ∨ step = reset c) ∧
        (F.respond c request).1 = step.1 ∧ (F.respond c request).2.status = status step.2 := by
  cases routed : F.route request with
  | error response =>
      left
      simp only [respond, routed]
  | ok endpoint =>
      cases endpoint with
      | state =>
          left
          simp only [respond, routed, call]
      | calculate =>
          exact Or.inr ⟨_, Or.inl rfl, documented.respond_of_posted c routed⟩
      | reset =>
          refine Or.inr ⟨_, Or.inr rfl, ?_⟩
          simp only [respond, routed, call, true_and]
          exact documented.deliver_status request _

end Framework.Documented

theorem Reports.reached {action : FeetInches.Action} {step : Step Reply}
    {answer : Step Response} (reports : Reports step answer)
    (reached : c.Reached) (admits : c.Admits action) (acts : c.act action = step.answering .reply)
    (answered : status answer.2 = 200 ∨ status answer.2 = 400) : answer.1.Reached := by
  obtain ⟨state, ⟨_, ok, _⟩ | ⟨status, _⟩⟩ := reports
  · rw [state]
    rcases step with ⟨next, fault | reply⟩
    · cases ok
    · exact reached.act admits acts
  · omega

theorem Handled.reached {data : Json} {answer : Step Response}
    (handled : Handled c data answer) (reached : c.Reached)
    (answered : status answer.2 = 200 ∨ status answer.2 = 400) : answer.1.Reached := by
  cases handled with
  | refused _ _ _ state =>
      rw [state]
      exact reached
  | pressed key _ _ reports =>
      have admits : c.Admits (.press key) := trivial
      exact reports.reached reached admits rfl answered
  | turned denominator _ _ _ _ reports =>
      have admits : c.Admits (.setDenominator denominator) := trivial
      exact reports.reached reached admits rfl answered
  | infinite _ state =>
      rw [state]
      exact reached

theorem reached_of_start {settings : Settings} (started : Calculator.start settings = .ok c) :
    c.Reached := by
  obtain ⟨checked, valid, done⟩ := bind_eq_ok.mp started
  unfold Settings.check at valid
  split at valid
  · cases valid
  · rename_i sound
    cases valid
    split at done
    · cases done
    · cases done
      exact ⟨settings, [], sound, .start⟩

theorem calculate_reached (reached : c.Reached) (data : Option Json)
    (answered : status (calculate c data).2 = 200 ∨ status (calculate c data).2 = 400) :
    (calculate c data).1.Reached := by
  cases data with
  | some data => exact (handled_calculate reached data).reached reached answered
  | none => exact reached

theorem reset_reports (c : Calculator) : Reports c.reset (reset c) := by
  have empty : c.reset.1.Steady := steady_of_empty rfl rfl rfl
  exact afterStep_reports empty (supplied_of_none rfl) fun _ => true

theorem Framework.Reached.calculator (reached : F.Reached c) (documented : F.Documented) :
    c.Reached := by
  induction reached with
  | start _ started => exact reached_of_start started
  | @request c request _ answered before =>
      rcases documented.respond_cases c request with same | ⟨_, rfl | rfl, state, sent⟩
      · rw [same]
        exact before
      · rw [sent] at answered
        rw [state]
        exact calculate_reached before _ answered
      · rw [sent] at answered
        rw [state]
        have admits : c.Admits .reset := trivial
        exact (reset_reports c).reached before admits rfl answered
  | @fire c timer _ started before =>
      obtain ⟨next, done⟩ := fire_ok before timer
      have acted : c.act (.fire timer) = (next, .ok .nothing) :=
        Step.answering_eq_ok.mpr ⟨(), done, rfl⟩
      have admits : c.Admits (.fire timer) := started
      rw [done]
      exact before.act admits acted

theorem Reports.status_cases {step : Step Reply} {answer : Step Response}
    (reports : Reports step answer) :
    (status answer.2 = 200 ∨ status answer.2 = 400 ∨ status answer.2 = 500) ∧
      (status answer.2 = 500 ↔ (step.2.isOk → answer.1.HasLongCount)) := by
  obtain ⟨state, ⟨status, ok, short⟩ | ⟨status, broken⟩⟩ := reports
  · rw [state, status]
    exact ⟨Or.inl rfl, iff_of_false (by decide) fun long => short (long ok)⟩
  · rw [state, status]
    refine ⟨Or.inr (Or.inr rfl), iff_of_true rfl fun ok => ?_⟩
    exact not_not.mp fun short => broken ⟨ok, short⟩

theorem press_broken_iff (reached : c.Reached) (key : Key) :
    ((c.press key).2.isOk → (c.press key).1.HasLongCount) ↔
      key = .equals ∧ c.IsStuck ∨ (c.press key).1.HasLongCount := by
  rw [press_isOk_iff reached key]
  constructor
  · intro broken
    by_cases stuck : key = .equals ∧ c.IsStuck
    · exact Or.inl stuck
    · right
      by_cases written : (c.press key).1.terms.CountsWritten
      · exact broken ⟨stuck, written⟩
      · exact Or.inl written
  · rintro (stuck | long) answered
    · exact absurd stuck answered.1
    · exact long

theorem Handled.status_cases {data : Json} {answer : Step Response}
    (handled : Handled c data answer) (reached : c.Reached) :
    (status answer.2 = 200 ∨ status answer.2 = 400 ∨ status answer.2 = 500) ∧
      (status answer.2 = 500 ↔ AsksInfinity data ∨ key? data = some .equals ∧ c.IsStuck ∨
        AsksStep data ∧ answer.1.HasLongCount) := by
  cases handled with
  | refused noKey noDenominator finite _ status =>
      rw [status]
      refine ⟨Or.inr (Or.inl rfl), iff_of_false (by decide) ?_⟩
      simp [noKey, noDenominator, finite, AsksStep]
  | infinite asks state =>
      rw [state]
      exact ⟨Or.inr (Or.inr rfl), iff_of_true rfl (Or.inl asks)⟩
  | pressed key asked finite reports =>
      obtain ⟨known, failed⟩ := reports.status_cases
      refine ⟨known, failed.trans ?_⟩
      rw [reports.1, press_broken_iff reached key]
      simp [asked, finite, AsksStep]
  | turned denominator noKey asked finite ok reports =>
      obtain ⟨known, failed⟩ := reports.status_cases
      refine ⟨known, failed.trans ?_⟩
      simp [noKey, asked, finite, ok, AsksStep]

/-- A payload that is posted is answered with status 200, 400 or 500. The last means that it asks for
an infinite denominator or for an equals sign that is stuck, or for a step that leads to a count too
long to be written. -/
theorem posted_fails_iff (documented : F.Documented) (reached : F.Reached c)
    (posted : F.route request = .ok .calculate) :
    let answer := F.respond c request
    (answer.2.status = 200 ∨ answer.2.status = 400 ∨ answer.2.status = 500) ∧
      (answer.2.status = 500 ↔ ∃ data, F.body? request = some data ∧
        (AsksInfinity data ∨ key? data = some .equals ∧ c.IsStuck ∨
          AsksStep data ∧ answer.1.HasLongCount)) := by
  have run := reached.calculator documented
  obtain ⟨state, sent⟩ := documented.respond_of_posted c posted
  simp only [state, sent]
  cases F.body? request with
  | none =>
      refine ⟨Or.inr (Or.inl rfl), iff_of_false (by change 400 ≠ 500; decide) ?_⟩
      rintro ⟨data, value, _⟩
      cases value
  | some data => simpa using (handled_calculate run data).status_cases run

/-! An infinite denominator -/

/-- Requests that each post a text, and no others. -/
def postedTexts : Framework String where
  route _ := .ok .calculate
  body? text := (Json.read text.length text).toOption
  getJson text := .ok (Json.read text.length text).toOption
  deliver
    | _, .ok response => response
    | _, .error _ => { status := 500 }

theorem postedTexts_documented : postedTexts.Documented where
  silent _ := rfl
  returned _ _ := rfl
  uncaught _ _ := rfl

theorem reached_fresh : F.Reached (fresh {}) := by
  have settings : Settings.ofEnvironment [] = .ok {} := by decide +kernel
  have started : Calculator.start {} = .ok (fresh {}) := by decide +kernel
  exact .start settings started

def infiniteDenominator : String := "\x7b\"action\": \"denominator\", \"value\": Infinity\x7d"

theorem infiniteDenominator_asks :
    ∃ data, postedTexts.body? infiniteDenominator = some data ∧ AsksInfinity data := by
  have asks : (postedTexts.body? infiniteDenominator).any (fun data => decide (AsksInfinity data)) :=
    by decide +kernel
  obtain ⟨data, found, asks⟩ := (Option.any_eq_true _ _).mp asks
  exact ⟨data, found, of_decide_eq_true asks⟩

/-- From a fresh calculator, with a payload that asks for an infinite denominator. -/
theorem infinite_denominator_fails :
    postedTexts.Documented ∧ postedTexts.Reached (fresh {}) ∧
      postedTexts.route infiniteDenominator = .ok .calculate ∧
      (∃ data, postedTexts.body? infiniteDenominator = some data ∧ AsksInfinity data) ∧
      (postedTexts.respond (fresh {}) infiniteDenominator).2.status = 500 := by
  obtain ⟨data, found, asks⟩ := infiniteDenominator_asks
  have failed := (posted_fails_iff postedTexts_documented reached_fresh rfl).2.mpr
    ⟨data, found, Or.inl asks⟩
  exact ⟨postedTexts_documented, reached_fresh, rfl, ⟨data, found, asks⟩, failed⟩

/-- A payload that can be read is answered with a failure. -/
theorem posted_payload_fails :
    ∃ (F : Framework String) (c : Calculator) (request : String) (data : Json), F.Documented ∧
      F.Reached c ∧ F.route request = .ok .calculate ∧ F.body? request = some data ∧
      (F.respond c request).2.status = 500 := by
  obtain ⟨data, found, _⟩ := infiniteDenominator_asks
  exact ⟨postedTexts, fresh {}, infiniteDenominator, data, postedTexts_documented, reached_fresh,
    rfl, found, by decide +kernel⟩

end FeetInches.Api
