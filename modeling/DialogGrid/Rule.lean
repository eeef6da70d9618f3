import DialogGrid.Directive
import DialogGrid.Grid

/-!
# Rules

Rules adjust single directives before they are read as elements and their markup afterwards. They
apply in order, each to what the rules before it made. The standard rule gives drop-down lists
the height of one row, since a script gives them the height of their opened list.
-/

namespace DialogGrid

/-- A rule: which directives it is about, and what it makes of them and of their markup. -/
structure Rule where
  applies : Directive → Bool
  adjust : Directive → Directive := fun d => d
  adjustMarkup : Text → Directive → Text := fun markup _ => markup

/-- The height of one row in dialog units, rounded up. -/
def rowHeight (r : Ratios) : Nat := (Binary64.ofFloat r.row).ceil cellLimit

/-- Gives a drop-down list the height of one row. -/
def dropDownHeight (r : Ratios) : Rule where
  applies d := d.isNamed (lit "COMBOBOX")
  adjust d := d.setArg 4 (Text.ofNat (rowHeight r))

/-- The rules that apply unless others are given. -/
def standardRules (r : Ratios) : List Rule := [dropDownHeight r]

namespace Rules

/-- The directive as the rules leave it. -/
def adjust (rules : List Rule) (d : Directive) : Directive :=
  rules.foldl (fun d rule => if rule.applies d then rule.adjust d else d) d

/-- The markup as the rules for a directive leave it. -/
def adjustMarkup (rules : List Rule) (markup : Text) (d : Directive) : Text :=
  rules.foldl (fun markup rule => if rule.applies d then rule.adjustMarkup markup d else markup) markup

end Rules

end DialogGrid
