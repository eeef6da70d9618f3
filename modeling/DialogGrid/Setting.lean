import DialogGrid.Text

/-!
# Settings

A value as a settings file gives it. Sections are tables; a section may also be a list, which
then holds its fields in order. Whoever reads a setting says what it should be: reading fails
on another kind of value, and a field that is missing takes its default.
-/

namespace DialogGrid

inductive Setting where
  | missing
  | switch (on : Bool)
  | integer (value : Int)
  | float (value : Float)
  | text (value : Text)
  | list (values : List Setting)
  | table (fields : List (Text × Setting))
  deriving Inhabited

namespace Setting

/-- A number, be it whole or not. A whole number must fit in 64 bits, with or without a sign. -/
def number? : Setting → Option Float
  | integer n => if -Int.pow 2 63 ≤ n ∧ n < Int.pow 2 64 then some (Float.ofInt n) else none
  | float x => some x
  | _ => none

def text? : Setting → Option Text
  | text t => some t
  | _ => none

/-- A text, or nothing where the value is given as missing. -/
def optionalText? : Setting → Option (Option Text)
  | missing => some none
  | text t => some (some t)
  | _ => none

def texts? : Setting → Option (List Text)
  | list values => values.mapM text?
  | _ => none

/-- The fields of a section by name. A list gives the fields in the order of `names` and may end
early; what it holds beyond them is left alone where `surplus` allows that, and refused elsewhere. -/
def section? (surplus : Bool) (names : List Text) : Setting → Option (List (Text × Setting))
  | table fields => some fields
  | list values => if surplus ∨ values.length ≤ names.length then some (names.zip values) else none
  | _ => none

/-- Reads a field of a section; a field that is not there has its default. -/
def field {α : Type} (fields : List (Text × Setting)) (name : Text) (read : Setting → Option α) (default : α) :
    Option α :=
  match fields.lookup name with
  | some value => read value
  | none => some default

end Setting

end DialogGrid
