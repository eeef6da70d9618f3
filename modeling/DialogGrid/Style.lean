import DialogGrid.Blank

/-!
# Style flags

The style of a control is a list of flags separated by bars. Flags are kept in their normal
form, with single spaces between words, in the order in which they are written, so a style
reads the same however it is spaced.
-/

namespace DialogGrid

structure Style where
  flags : List Text := []
  deriving DecidableEq, Repr

namespace Style

/-- The flag without blanks around it, and with single spaces between its words. -/
def normalFlag (t : Text) : Text := [' '].intercalate t.words

/-- Reads flags separated by bars; an empty flag is no flag. -/
def parse (t : Text) : Style := ⟨((t.splitOn '|').map normalFlag).filter (· ≠ [])⟩

/-- The flags with bars between them. -/
def text (s : Style) : Text := (lit " | ").intercalate s.flags

def contains (s : Style) (flag : Text) : Bool := s.flags.contains flag

/-- A control is shown unless its style says otherwise. -/
def isVisible (s : Style) : Bool := !s.contains (lit "NOT WS_VISIBLE")

end Style

end DialogGrid
