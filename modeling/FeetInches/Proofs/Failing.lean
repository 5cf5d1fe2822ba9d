import FeetInches.Fault
/-!
Computations that can fail, taken apart: one that succeeds has succeeded in each of its steps, and
what holds of the errors and of the values of its steps holds of the whole.
-/

namespace FeetInches

variable {ε δ α β : Type}

/-- The computation fails only with an error of `P`, and gives only a value of `Q`. -/
def Settles (P : ε → Prop) (Q : α → Prop) : Except ε α → Prop
  | .ok value => Q value
  | .error error => P error

theorem bind_eq_ok {x : Except ε α} {f : α → Except ε β} {result : β} :
    (x >>= f) = .ok result ↔ ∃ value, x = .ok value ∧ f value = .ok result := by
  cases x with
  | error error => simp [Bind.bind, Except.bind]
  | ok value => simp [Bind.bind, Except.bind]

theorem map_eq_ok {x : Except ε α} {f : α → β} {result : β} :
    f <$> x = .ok result ↔ ∃ value, x = .ok value ∧ f value = result := by
  cases x <;> simp [Functor.map, Except.map]

theorem settles_bind {P : ε → Prop} {Q : α → Prop} {R : β → Prop} {x : Except ε α}
    {f : α → Except ε β} (first : Settles P Q x) (next : ∀ value, Q value → Settles P R (f value)) :
    Settles P R (x >>= f) := by
  cases x with
  | error error => exact first
  | ok value => exact next value first

theorem settles_map {P : ε → Prop} {Q : β → Prop} {x : Except ε α} {f : α → β}
    (settles : Settles P (fun value => Q (f value)) x) : Settles P Q (f <$> x) := by
  cases x with
  | error error => exact settles
  | ok value => exact settles

theorem settles_mapError {P : δ → Prop} {Q : α → Prop} {x : Except ε α} {rename : ε → δ}
    (settles : Settles (fun error => P (rename error)) Q x) :
    Settles P Q (x.mapError rename) := by
  cases x with
  | error error => exact settles
  | ok value => exact settles

theorem settles_mono {P P' : ε → Prop} {Q Q' : α → Prop} {x : Except ε α} (settles : Settles P Q x)
    (errors : ∀ error, P error → P' error) (values : ∀ value, Q value → Q' value) :
    Settles P' Q' x := by
  cases x with
  | error error => exact errors error settles
  | ok value => exact values value settles

theorem settles_true {P : ε → Prop} (any : ∀ error, P error) (x : Except ε α) :
    Settles P (fun _ => True) x := by
  cases x with
  | error error => exact any error
  | ok value => exact trivial

end FeetInches
