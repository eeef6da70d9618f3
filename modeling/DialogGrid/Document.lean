import DialogGrid.Widget

/-!
# Interface documents

The window around the grid, and the document around the window.
-/

namespace DialogGrid

/-- The first line of a document. -/
def documentHead : Text := lit "<?xml version=\"1.0\" encoding=\"UTF-8\"?>\n"

/-- A window whose only child is a grid that holds the fragments. -/
def windowMarkup (id : Text) (title? : Option Text) (fragments : List Text) : Text :=
  markupLine 2 (lit "<object class=\"GtkWindow\" id=\"" ++ id ++ lit "\">")
    ++ (match title? with
      | some title => markupLine 4 (Property.markup ⟨lit "title", title, false⟩)
      | none => [])
    ++ markupLine 4 (Property.flag (lit "can-focus") false).markup
    ++ markupLine 4 (lit "<child>")
    ++ markupLine 6 (lit "<object class=\"GtkGrid\">")
    ++ markupLine 8 (Property.flag (lit "visible") true).markup
    ++ markupLine 8 (Property.flag (lit "can-focus") false).markup
    ++ markupLine 8 (Property.flag (lit "column-homogeneous") false).markup
    ++ fragments.flatten
    ++ markupLine 6 (lit "</object>")
    ++ markupLine 4 (lit "</child>")
    ++ markupLine 2 (lit "</object>")

/-- The interface document that holds a window. -/
def documentMarkup (window : Text) : Text :=
  documentHead ++ lit "<interface>\n" ++ markupLine 2 (lit "<requires lib=\"gtk\" version=\"4.0\"/>")
    ++ window ++ lit "</interface>\n"

end DialogGrid
