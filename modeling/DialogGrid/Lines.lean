import DialogGrid.Text

/-!
# Lines

A text is split into lines at its line feeds; each line knows the byte offset of its start.
-/

namespace DialogGrid

/-- A line without its line feed. -/
structure Line where
  start : Nat
  text : Text
  deriving DecidableEq, Repr

namespace Line

/-- Lines that follow each other from byte `start` on, with a line feed between two of them. -/
def consecutive (start : Nat) : List Text → List Line
  | [] => []
  | t :: rest => ⟨start, t⟩ :: consecutive (start + t.byteSize + 1) rest

end Line

/-- The lines of a text that begins at byte `start`. -/
def Text.lines (t : Text) (start : Nat := 0) : List Line := Line.consecutive start (t.splitOn '\n')

end DialogGrid
