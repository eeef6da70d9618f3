import DialogGrid.Grid

/-!
# Widgets

A widget is written as one child of the grid: an object with its properties, its list items if
it has any, and the layout that puts it into its cell. What has no widget leaves a comment.
-/

namespace DialogGrid

/-- A property of an object. A translatable one holds text for the user. -/
structure Property where
  name : Text
  value : Text
  translatable : Bool := false
  deriving DecidableEq, Repr

structure Widget where
  objectClass : Text
  id : Text
  properties : List Property := []
  items : List Text := []
  cell : Cell
  deriving DecidableEq, Repr

/-- A line of markup, indented by a number of spaces. -/
def markupLine (indent : Nat) (content : Text) : Text := List.replicate indent ' ' ++ content ++ lit "\n"

namespace Property

/-- A property that is switched on or off. -/
def flag (name : Text) (value : Bool) : Property := ⟨name, if value then lit "True" else lit "False", false⟩

def markup (p : Property) : Text :=
  lit "<property name=\"" ++ p.name ++ lit "\"" ++ (if p.translatable then lit " translatable=\"yes\"" else [])
    ++ lit ">" ++ p.value ++ lit "</property>"

end Property

namespace Widget

/-- The lines of the items, numbered in order. -/
def itemLines (first : Nat) : List Text → Text
  | [] => []
  | item :: rest =>
    markupLine 14 (lit "<item id=\"" ++ Text.ofNat first ++ lit "\" translatable=\"yes\">" ++ item ++ lit "</item>")
      ++ itemLines (first + 1) rest

/-- The properties that place a widget in the grid. -/
def layout (c : Cell) : List Property :=
  [⟨lit "column", Text.ofNat c.column, false⟩, ⟨lit "column-span", Text.ofNat c.columnSpan, false⟩,
    ⟨lit "row", Text.ofNat c.row, false⟩, ⟨lit "row-span", Text.ofNat c.rowSpan, false⟩]

/-- The widget as a child of the grid. -/
def markup (w : Widget) : Text :=
  markupLine 8 (lit "<child>")
    ++ markupLine 10 (lit "<object class=\"" ++ w.objectClass ++ lit "\" id=\"" ++ w.id ++ lit "\">")
    ++ w.properties.flatMap (fun p => markupLine 12 p.markup)
    ++ (if w.items = [] then []
      else markupLine 12 (lit "<items>") ++ itemLines 0 w.items ++ markupLine 12 (lit "</items>"))
    ++ markupLine 12 (lit "<layout>")
    ++ (layout w.cell).flatMap (fun p => markupLine 14 p.markup)
    ++ markupLine 12 (lit "</layout>")
    ++ markupLine 10 (lit "</object>")
    ++ markupLine 8 (lit "</child>")

end Widget

/-- The comment that stands for a control without a widget. -/
def placeholder (t : Text) : Text := markupLine 8 (lit "<!-- " ++ t ++ lit " -->")

end DialogGrid
