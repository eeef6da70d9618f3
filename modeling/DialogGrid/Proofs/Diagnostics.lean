import DialogGrid.Diagnostic
import Mathlib.Data.List.Forall2

/-!
# What diagnostics report

Independent steps are gathered to the results of all of them, or else to one problem for each step that
fails, in the order of the steps (`Diagnostics.gather_eq_ok_iff`, `Diagnostics.gather_eq_error_iff`).
-/

namespace DialogGrid

/-- A diagnostic of some severity under a code, which points at one place. -/
structure Diagnostic.Reports (x : Diagnostic) (severity : Severity) (code : Text) (span : Span) : Prop where
  severity : x.severity = severity
  code : x.code.map Code.text = some code
  place : x.labels.map (·.span) = [span]

namespace Diagnostics

section
variable {β : Type}

private theorem gather_cons_ok (b : β) (results : List (Except Diagnostic β)) :
    gather (.ok b :: results) = (gather results).map (b :: ·) := by
  have problems : (Except.ok b :: results).filterMap gather.problem? = results.filterMap gather.problem? := rfl
  rw [gather, gather, problems]
  split
  · rfl
  · rfl

private theorem gather_cons_error (d : Diagnostic) (results : List (Except Diagnostic β)) :
    gather (.error d :: results) = .error (d :: results.filterMap gather.problem?) :=
  rfl

end

variable {α β : Type} {step : α → Except Diagnostic β}

/-- Steps are gathered to results exactly if each of them gives its result. -/
theorem gather_eq_ok_iff {as : List α} {bs : List β} :
    gather (as.map step) = .ok bs ↔ List.Forall₂ (fun a b => step a = .ok b) as bs := by
  induction as generalizing bs with
  | nil => simp [gather, eq_comm]
  | cons a rest ih =>
    rw [List.map_cons]
    cases result : step a with
    | error d =>
      rw [gather_cons_error]
      cases bs <;> simp [result]
    | ok b =>
      rw [gather_cons_ok]
      cases bs with
      | nil => cases gather (rest.map step) <;> simp [Except.map]
      | cons c more =>
        rw [List.forall₂_cons, ← ih, result]
        cases gather (rest.map step) <;> simp [Except.map]

theorem exists_gather_ok_iff {as : List α} :
    (∃ bs, gather (as.map step) = .ok bs) ↔ ∀ a ∈ as, ∃ b, step a = .ok b := by
  simp only [gather_eq_ok_iff]
  induction as with
  | nil => simp
  | cons a rest ih => simp [List.forall₂_cons_left_iff, ← ih]

private theorem forall₂_problems {failing : α → Bool} (fails : ∀ a, failing a = true ↔ ∃ d, step a = .error d)
    (as : List α) :
    List.Forall₂ (fun a d => step a = .error d) (as.filter failing) ((as.map step).filterMap gather.problem?) := by
  induction as with
  | nil => exact .nil
  | cons a rest ih =>
    rw [List.map_cons]
    cases result : step a with
    | error d =>
      rw [List.filter_cons_of_pos ((fails a).mpr ⟨d, result⟩)]
      exact .cons result ih
    | ok b =>
      have passes : ¬ failing a = true := by
        rw [fails, result]
        rintro ⟨d, ⟨⟩⟩
      rw [List.filter_cons_of_neg passes]
      exact ih

/-- Steps are gathered to problems exactly if some of them fail, and the problems are theirs. -/
theorem gather_eq_error_iff {failing : α → Bool} (fails : ∀ a, failing a = true ↔ ∃ d, step a = .error d)
    {as : List α} {ds : List Diagnostic} :
    gather (as.map step) = .error ds ↔
      ds ≠ [] ∧ List.Forall₂ (fun a d => step a = .error d) (as.filter failing) ds := by
  have unique : Relator.RightUnique fun a d => step a = .error d := fun a d d' one other =>
    Except.error.inj (one.symm.trans other)
  have told : List.Forall₂ (fun a d => step a = .error d) (as.filter failing) ds ↔
      (as.map step).filterMap gather.problem? = ds := by
    constructor
    · exact fun all => unique.forall₂ (forall₂_problems fails as) all
    · rintro rfl
      exact forall₂_problems fails as
  rw [told, gather]
  cases (as.map step).filterMap gather.problem? with
  | nil => simp [eq_comm]
  | cons d more =>
    rw [Except.error.injEq]
    constructor
    · rintro rfl
      exact ⟨List.cons_ne_nil d more, rfl⟩
    · exact And.right

end Diagnostics

end DialogGrid
