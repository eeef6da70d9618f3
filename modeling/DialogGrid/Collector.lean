import DialogGrid.Diagnostic

/-!
# Collecting diagnostics

Steps that may report something run one after another with one collector, which keeps the
diagnostics in the order in which they arise and counts the errors as they come in. A step goes
on after an error: whether there was one is only asked at the end, of the count.
-/

namespace DialogGrid

/-- The diagnostics so far, and how many of them are errors. -/
structure Collector where
  diagnostics : List Diagnostic := []
  errors : Nat := 0
  errors_eq : errors = diagnostics.countP Diagnostic.isError := by rfl
  deriving DecidableEq, Repr

namespace Collector

def empty : Collector := {}

/-- The collector with one more diagnostic. -/
def emit (c : Collector) (d : Diagnostic) : Collector where
  diagnostics := c.diagnostics ++ [d]
  errors := if d.isError then c.errors + 1 else c.errors
  errors_eq := by
    rw [List.countP_append, ← c.errors_eq, List.countP_singleton]
    split <;> simp_all

def hasErrors (c : Collector) : Bool := 0 < c.errors

/-- Ends the collection: the warnings if no error was counted, otherwise all diagnostics. -/
def finish (c : Collector) : Except (List Diagnostic) (List Diagnostic) :=
  if c.hasErrors then .error c.diagnostics else .ok c.diagnostics

/-- The count says nothing that the diagnostics do not say. -/
@[ext] theorem ext {c c' : Collector} (diagnostics : c.diagnostics = c'.diagnostics) : c = c' := by
  have errors : c.errors = c'.errors := by rw [c.errors_eq, c'.errors_eq, diagnostics]
  cases c
  cases c'
  simp_all

@[simp] theorem diagnostics_empty : empty.diagnostics = [] := rfl

@[simp] theorem diagnostics_emit (c : Collector) (d : Diagnostic) :
    (c.emit d).diagnostics = c.diagnostics ++ [d] := rfl

/-- The count is zero exactly if no error was collected. -/
theorem hasErrors_eq (c : Collector) : c.hasErrors = Diagnostics.hasErrors c.diagnostics := by
  rw [Bool.eq_iff_iff]
  simp [hasErrors, Diagnostics.hasErrors, c.errors_eq, List.countP_pos_iff]

theorem finish_eq (c : Collector) : c.finish = Diagnostics.settle c.diagnostics := by
  rw [finish, hasErrors_eq, Diagnostics.settle]

end Collector

/-! ## Steps that report -/

/-- A step that may report diagnostics. -/
abbrev Collecting (α : Type) := StateM Collector α

namespace Collecting

def emit (d : Diagnostic) : Collecting Unit := modify (·.emit d)

/-- The result of a step that starts with an empty collector, and what it reports. -/
def alone {α : Type} (step : Collecting α) : α × List Diagnostic :=
  let (result, collected) := step.run .empty
  (result, collected.diagnostics)

end Collecting

end DialogGrid
