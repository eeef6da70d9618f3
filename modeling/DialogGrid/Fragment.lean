import DialogGrid.Collector
import DialogGrid.Rule
import DialogGrid.Schema
import DialogGrid.SymbolTable
import DialogGrid.Widget

/-!
# Fragments

A directive becomes a fragment of the interface: nothing if it breaks its schema, which is an
error, a comment if it has no widget, and otherwise a widget. What is to be said about it goes
to a collector that all directives of a dialog share.
-/

namespace DialogGrid

/-- What the fragments of a dialog are built with. -/
structure Builder where
  symbols : SymbolTable
  idLead : Text
  grid : Grid
  rules : List Rule

/-- A piece of the interface and the diagnostics that came with it. -/
structure Fragment where
  markup : Text := []
  diagnostics : List Diagnostic := []
  deriving DecidableEq, Repr

namespace SymbolTable

/-- The warning about a symbol that is not in the table. -/
def unknown (name : Text) (span : Span) : Diagnostic where
  severity := .warning
  code := some .unknownSymbol
  message := lit "`" ++ name ++ lit "` is not defined in the symbol table"
  labels := [⟨span, lit "used verbatim as widget id", true⟩]
  help := some (lit "pass the header that defines it with `--header` or `--defines`")

/-- The identifier of the widget for a symbol: its value after `idLead`. A symbol that is not in
the table is used as it is, with a warning. -/
def resolving (s : SymbolTable) (idLead name : Text) (span : Span) : Collecting Text :=
  match s.get? name with
  | some value => return idLead ++ value
  | none => do
    Collecting.emit (unknown name span)
    return name

/-- The identifier for a symbol, and the warnings about it. -/
def resolve (s : SymbolTable) (idLead name : Text) (span : Span) : Text × List Diagnostic :=
  (s.resolving idLead name span).alone

end SymbolTable

/-- What a widget shows and how it behaves, before its identifier and its cell are known. The
function gives the items, which may repeat the identifier. -/
structure Template where
  objectClass : Text
  id : Text
  rect : Rect
  properties : List Property
  items : Text → List Text := fun _ => []

/-- The properties of a button of any kind. -/
def buttonProperties (text : Text) (visible : Bool) : List Property :=
  [⟨lit "label", text, true⟩, .flag (lit "visible") visible, .flag (lit "can-focus") true,
    .flag (lit "receives-default") true]

/-- The class of the object for a generic control. Only buttons have one: a plain push button,
whose style is empty or just a tab stop, and a check box. -/
def controlObject? (windowClass : Text) (style : Style) : Option Text :=
  if !isButtonClass windowClass then none
  else if style.flags = [] ∨ style.flags = [lit "WS_TABSTOP"] then some (lit "GtkButton")
  else if style.contains (lit "BS_AUTOCHECKBOX") then some (lit "GtkCheckButton")
  else none

namespace Element

/-- The widget for an element, if there is one. -/
def template? (e : Element) : Option Template :=
  let visible := Property.flag (lit "visible") e.isVisible
  match e with
  | label text id rect _ align =>
    some ⟨lit "GtkLabel", id, rect, [⟨lit "label", text, false⟩, ⟨lit "halign", align.text, false⟩, visible],
      fun _ => []⟩
  | comboBox id rect _ =>
    some ⟨lit "GtkComboBoxText", id, rect, [visible, .flag (lit "can-focus") false], fun resolved => [resolved]⟩
  | pushButton text id rect _ _ =>
    some ⟨lit "GtkButton", id, rect, buttonProperties text e.isVisible, fun _ => []⟩
  | editText id rect style =>
    some ⟨lit "GtkTextView", id, rect,
      [visible, .flag (lit "can-focus") true, .flag (lit "editable") style.isEditable], fun _ => []⟩
  | control text id windowClass rect style =>
    (controlObject? windowClass style).map fun objectClass =>
      ⟨objectClass, id, rect, buttonProperties text e.isVisible, fun _ => []⟩
  | unsupported _ _ => none

/-- The comment in place of an element without a widget, and the warning about it. -/
def replacement (e : Element) (span : Span) : Collecting Text :=
  let labels := [⟨span, lit "replaced by a placeholder comment", true⟩]
  match e with
  | control _ _ windowClass _ style => do
    Collecting.emit {
      severity := .warning
      code := some .noWidget
      message :=
        lit "`CONTROL` of class `" ++ windowClass ++ lit "` with style `" ++ style.text ++ lit "` has no widget"
      labels }
    return placeholder (lit "UNSUPPORTED CONTROL STYLE OF '" ++ windowClass ++ lit "'")
  | unsupported name _ => do
    Collecting.emit {
      severity := .warning
      code := some .unsupported
      message := lit "`" ++ name ++ lit "` elements are not supported"
      labels }
    return placeholder (lit "UNSUPPORTED ELEMENT <" ++ name ++ lit ">")
  | _ => return []

end Element

namespace Builder

/-- The markup for an element that stands at a span. -/
def place (b : Builder) (e : Element) (span : Span) : Collecting Text :=
  match e.template? with
  | none => e.replacement span
  | some template => do
    let id ← b.symbols.resolving b.idLead template.id span
    let widget : Widget :=
      ⟨template.objectClass, id, template.properties, template.items id, b.grid.cell template.rect⟩
    return widget.markup

/-- The markup for a directive. Rules adjust the directive first and its markup last, but not
the nothing that a broken directive leaves. -/
def translate (b : Builder) (d : Directive) : Collecting Text :=
  let d := Rules.adjust b.rules d
  match Element.ofDirective d with
  | .error e => do
    Collecting.emit (e.diagnostic d)
    return []
  | .ok element => do
    let markup ← b.place element d.span
    return Rules.adjustMarkup b.rules markup d

/-- The fragment for a directive that stands alone. -/
def fragment (b : Builder) (d : Directive) : Fragment :=
  let (markup, diagnostics) := (b.translate d).alone
  ⟨markup, diagnostics⟩

end Builder

end DialogGrid
