import FeetInches.Proofs.Calculator.Timers
import FeetInches.Proofs.Numeral.NotANumber

namespace FeetInches

open Numeral

namespace Binary64

def IsPositive (x : Binary64) : Prop := (zero false).lt x

instance (x : Binary64) : Decidable x.IsPositive := inferInstanceAs (Decidable (_ = true))

theorem le_eq_false_iff (x y : Binary64) : x.le y = false ↔ y.lt x ∨ x = .nan ∨ y = .nan := by
  have ordered (defined : x ≠ .nan ∧ y ≠ .nan) : x.eq y = (!x.lt y && !y.lt x) := by
    cases x <;> cases y <;> first | rfl | simp at defined
  have asymmetric (less : y.lt x) : x.lt y = false := by
    cases x <;> cases y <;> simp_all [lt]
    omega
  by_cases nan : x = .nan ∨ y = .nan
  · rcases nan with rfl | rfl
    · simp [le, eq, lt]
    · cases x <;> simp [le, eq, lt]
  · rw [not_or] at nan
    simp only [le, ordered nan, nan, or_false]
    cases less : y.lt x with
    | true => simp [asymmetric less]
    | false => simp

theorem isPositive_or_nan_iff (x : Binary64) :
    x.IsPositive ∨ x = .nan ↔ x.le (zero false) = false := by
  rw [le_eq_false_iff, IsPositive]
  simp [zero]

theorem not_isPositive_nan : ¬ IsPositive .nan := by decide

end Binary64

namespace Settings

def timeout (s : Settings) : TimerRole → Binary64
  | .mode => s.modeTimeout
  | .banner => s.bannerTimeout

structure Accepted (s : Settings) : Prop where
  denominator : s.denominator ∈ padDenominators
  historySize : 1 ≤ s.historySize
  timeouts : ∀ role, (s.timeout role).IsPositive ∨ s.timeout role = .nan

theorem fault?_eq_none_iff (s : Settings) : s.fault? = none ↔ s.Accepted := by
  have timeouts : (∀ role, (s.timeout role).IsPositive ∨ s.timeout role = .nan) ↔
      ¬ (s.modeTimeout.le (.zero false) || s.bannerTimeout.le (.zero false)) := by
    simp only [Binary64.isPositive_or_nan_iff, Bool.or_eq_true, not_or, Bool.not_eq_true]
    constructor
    · exact fun positive => ⟨positive .mode, positive .banner⟩
    · rintro ⟨mode, banner⟩ role
      cases role
      · exact mode
      · exact banner
  unfold fault?
  constructor
  · intro accepted
    split at accepted
    · cases accepted
    · rename_i known
      split at accepted
      · cases accepted
      · rename_i size
        split at accepted
        · cases accepted
        · rename_i positive
          exact ⟨Decidable.not_not.mp known, by omega, timeouts.mpr positive⟩
  · intro accepted
    have size := accepted.historySize
    rw [if_neg (not_not_intro accepted.denominator), if_neg (by omega),
      if_neg (timeouts.mp accepted.timeouts)]

theorem check_eq_ok_iff {s t : Settings} : s.check = .ok t ↔ s.Accepted ∧ t = s := by
  rw [← fault?_eq_none_iff]
  unfold check
  cases s.fault? with
  | none => simp [eq_comm]
  | some fault => simp

end Settings

/-! Environments -/

def TimerRole.variable : TimerRole → String
  | .mode => "ERROR_MODE_TIMEOUT"
  | .banner => "ERROR_BANNER_TIMEOUT"

def Environment.SaysNotANumber (env : Environment) (role : TimerRole) : Prop :=
  ∃ text, env.get? role.variable = some text ∧ text.SaysNotANumber

namespace Settings

variable {env : Environment} {settings : Settings}

theorem ofEnvironment_eq_ok (accepted : ofEnvironment env = .ok settings) :
    settings.Accepted ∧ ∀ role : TimerRole,
      env.readOr role.variable readReal (timeout {} role) = .ok (settings.timeout role) := by
  obtain ⟨denominator, _, more⟩ := bind_eq_ok.mp accepted
  obtain ⟨historySize, _, more⟩ := bind_eq_ok.mp more
  obtain ⟨modeTimeout, mode, more⟩ := bind_eq_ok.mp more
  obtain ⟨bannerTimeout, banner, more⟩ := bind_eq_ok.mp more
  obtain ⟨autoRecover, _, more⟩ := bind_eq_ok.mp more
  obtain ⟨inOrder, rfl⟩ := check_eq_ok_iff.mp more
  refine ⟨inOrder, fun role => ?_⟩
  cases role
  · exact mode
  · exact banner

theorem timeout_eq_nan_iff (accepted : ofEnvironment env = .ok settings) (role : TimerRole) :
    settings.timeout role = .nan ↔ env.SaysNotANumber role := by
  have read := (ofEnvironment_eq_ok accepted).2 role
  unfold Environment.readOr at read
  unfold Environment.SaysNotANumber
  cases given : env.get? role.variable with
  | none =>
      rw [given] at read
      have default : timeout {} role ≠ .nan := by
        cases role <;> exact Binary64.nearest_ne_nan _ _ _
      simpa [← Except.ok.inj read] using default
  | some text =>
      rw [given] at read
      simp only [Option.some.injEq, exists_eq_left', ← readReal_eq_nan_iff, read, Except.ok.injEq]

theorem timeout_isPositive_iff (accepted : ofEnvironment env = .ok settings) (role : TimerRole) :
    (settings.timeout role).IsPositive ↔ ¬ env.SaysNotANumber role := by
  rw [← timeout_eq_nan_iff accepted]
  constructor
  · intro positive nan
    rw [nan] at positive
    exact Binary64.not_isPositive_nan positive
  · exact ((ofEnvironment_eq_ok accepted).1.timeouts role).resolve_right

end Settings

/-! Timers -/

namespace Calculator

/-- The settings are the given ones, and every timer waits as long as they say. -/
structure OnTime (settings : Settings) (c : Calculator) : Prop where
  kept : c.settings = settings
  delays : ∀ timer ∈ c.started, timer.delay = settings.timeout timer.role

namespace OnTime

variable {settings : Settings} {c d : Calculator}

theorem fresh (settings : Settings) : OnTime settings (fresh settings) :=
  ⟨rfl, by simp [Calculator.fresh]⟩

theorem same (onTime : OnTime settings c) (same : c.SameTimers d) : OnTime settings d := by
  refine ⟨same.settings.trans onTime.kept, ?_⟩
  rw [same.started]
  exact onTime.delays

theorem cancelTimers (onTime : OnTime settings c) : OnTime settings c.cancelTimers :=
  ⟨onTime.kept, onTime.delays⟩

theorem rejecting (onTime : OnTime settings c) (error : CalcError) :
    OnTime settings (c.rejecting error) := by
  obtain ⟨same, _, _, started⟩ := c.rejecting_timers error
  refine ⟨same.trans onTime.kept, fun timer member => ?_⟩
  rw [started] at member
  rcases List.mem_append.mp member with old | new
  · exact onTime.delays timer old
  · split at new
    · simp only [recoveryTimers, List.mem_cons, List.not_mem_nil, or_false] at new
      rcases new with rfl | rfl
      · rw [← onTime.kept]
        rfl
      · rw [← onTime.kept]
        rfl
    · cases new

theorem afterCall (onTime : OnTime settings c) (call : Call) :
    OnTime settings (c.afterCall call) := by
  rcases c.timers_afterCall call with same | same | ⟨before, error, same, rejected⟩
  · exact onTime.same same
  · exact onTime.cancelTimers.same same
  · rw [rejected]
    exact (onTime.cancelTimers.same same).rejecting error

theorem after (onTime : OnTime settings c) (calls : List Call) :
    OnTime settings (c.after calls) := by
  induction calls generalizing c with
  | nil => exact onTime
  | cons call rest ih => exact ih (onTime.afterCall call)

end OnTime

theorem start_eq_ok {settings : Settings} {c : Calculator} (started : start settings = .ok c) :
    settings.Accepted ∧ c = fresh settings := by
  obtain ⟨checked, inOrder, more⟩ := bind_eq_ok.mp started
  obtain ⟨accepted, rfl⟩ := Settings.check_eq_ok_iff.mp inOrder
  split at more
  · cases more
  · cases more
    exact ⟨accepted, rfl⟩

/-- Settings that an environment gives have a denominator of the inches pad and room for history. A
timeout of theirs is positive unless its variable holds the word for no number, and so are the
delays of all timers that are ever started with them, whatever calls were made and whatever came of
them. -/
theorem delays_positive_unless_nan {env : Environment} {settings : Settings}
    (accepted : Settings.ofEnvironment env = .ok settings) :
    settings.denominator ∈ padDenominators ∧ 1 ≤ settings.historySize ∧
    (∀ role, (settings.timeout role).IsPositive ↔ ¬ env.SaysNotANumber role) ∧
    ∀ c, start settings = .ok c → ∀ calls, ∀ timer ∈ (c.after calls).started,
      timer.delay = settings.timeout timer.role ∧
        (timer.delay.IsPositive ↔ ¬ env.SaysNotANumber timer.role) := by
  have inOrder := (Settings.ofEnvironment_eq_ok accepted).1
  have positive := Settings.timeout_isPositive_iff accepted
  refine ⟨inOrder.denominator, inOrder.historySize, positive, ?_⟩
  intro c started calls timer member
  obtain ⟨_, rfl⟩ := start_eq_ok started
  have delay := ((OnTime.fresh settings).after calls).delays timer member
  refine ⟨delay, ?_⟩
  rw [delay]
  exact positive timer.role

/-- The rejection of an operator, with half a second and forever as the timeouts. -/
theorem delays_half_second_and_forever :
    let env : Environment :=
      [("IMPERIAL_CALC_ERROR_MODE_TIMEOUT", "0.5"), ("IMPERIAL_CALC_ERROR_BANNER_TIMEOUT", "inf")]
    ∃ settings c, Settings.ofEnvironment env = .ok settings ∧ start settings = .ok c ∧
      let timers := (c.after [.user (.press (.operator .plus)) rfl]).started
      timers.map Timer.delay = [.nearest false oneUnits 2, .infinite false] ∧
        ∀ timer ∈ timers, timer.delay.IsPositive := by
  intro env
  let settings : Settings :=
    { modeTimeout := .nearest false oneUnits 2, bannerTimeout := .infinite false }
  have accepted : Settings.ofEnvironment env = .ok settings := by decide +kernel
  have number (role : TimerRole) : ¬ env.SaysNotANumber role := by
    rw [← Settings.timeout_eq_nan_iff accepted]
    cases role <;> decide +kernel
  refine ⟨settings, fresh settings, accepted, by decide +kernel, by decide +kernel, ?_⟩
  intro timer member
  obtain ⟨_, _, _, delays⟩ := delays_positive_unless_nan accepted
  have started : start settings = .ok (fresh settings) := by decide +kernel
  exact (delays (fresh settings) started _ timer member).2.mpr (number timer.role)

/-- A timeout that is not a number is accepted, and the timer that gets it has no positive delay. -/
theorem nan_timeout_accepted :
    ∃ settings c,
      Settings.ofEnvironment [("IMPERIAL_CALC_ERROR_MODE_TIMEOUT", "nan")] = .ok settings ∧
      start settings = .ok c ∧ ¬ settings.modeTimeout.IsPositive ∧
      ∃ timer ∈ (c.after [.user (.press (.operator .plus)) rfl]).started,
        ¬ timer.delay.IsPositive := by
  let settings : Settings := { modeTimeout := .nan }
  refine ⟨settings, fresh settings, by decide +kernel, by decide +kernel, by decide, ?_⟩
  exact ⟨⟨.nan, .mode, 1⟩, by decide +kernel, by decide⟩

end Calculator

end FeetInches
