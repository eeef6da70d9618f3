/-!
# Results of steps that may fail

When steps that are put together succeed, and what holds of a result or of a failure.
-/

namespace DialogGrid

section
variable {ε ε' α β : Type}

/-! ## Success -/

theorem bind_eq_ok {step : Except ε α} {next : α → Except ε β} {b : β} :
    (step >>= next) = .ok b ↔ ∃ a, step = .ok a ∧ next a = .ok b := by
  cases step with
  | ok a => simp [bind, Except.bind]
  | error e => simp [bind, Except.bind]

theorem map_eq_ok {f : α → β} {step : Except ε α} {b : β} : step.map f = .ok b ↔ ∃ a, step = .ok a ∧ f a = b := by
  cases step with
  | ok a => simp [Except.map]
  | error e => simp [Except.map]

theorem mapError_eq_ok {f : ε → ε'} {step : Except ε α} {a : α} : step.mapError f = .ok a ↔ step = .ok a := by
  cases step with
  | ok a' =>
    show (Except.ok a' : Except ε' α) = .ok a ↔ _
    rw [Except.ok.injEq, Except.ok.injEq]
  | error e =>
    show (Except.error (f e) : Except ε' α) = .ok a ↔ _
    simp only [reduceCtorEq]

theorem toOption_eq_some {step : Except ε α} {a : α} : step.toOption = some a ↔ step = .ok a := by
  cases step with
  | ok a' => simp [Except.toOption]
  | error e => simp [Except.toOption]

/-! ## Assertions -/

/-- What holds of the result of a step, or else of its failure. -/
def Ensures (failed : ε → Prop) (done : α → Prop) : Except ε α → Prop
  | .ok a => done a
  | .error e => failed e

theorem ensures_iff {failed : ε → Prop} {done : α → Prop} {step : Except ε α} :
    Ensures failed done step ↔ (∀ a, step = .ok a → done a) ∧ ∀ e, step = .error e → failed e := by
  cases step with
  | ok a => simp [Ensures]
  | error e => simp [Ensures]

theorem Ensures.bind {failed : ε → Prop} {done : α → Prop} {done' : β → Prop} {step : Except ε α}
    {next : α → Except ε β} (first : Ensures failed done step)
    (second : ∀ a, done a → Ensures failed done' (next a)) : Ensures failed done' (step >>= next) := by
  cases step with
  | ok a => exact second a first
  | error e => exact first

theorem Ensures.map {failed : ε → Prop} {done : α → Prop} {done' : β → Prop} {step : Except ε α} {f : α → β}
    (first : Ensures failed done step) (second : ∀ a, done a → done' (f a)) : Ensures failed done' (step.map f) := by
  cases step with
  | ok a => exact second a first
  | error e => exact first

theorem Ensures.mapError {failed : ε → Prop} {failed' : ε' → Prop} {done : α → Prop} {step : Except ε α}
    {told : ε → ε'} (first : Ensures failed done step) (second : ∀ e, failed e → failed' (told e)) :
    Ensures failed' done (step.mapError told) := by
  cases step with
  | ok a => exact first
  | error e => exact second e first

end

end DialogGrid
