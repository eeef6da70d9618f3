import DialogGrid.Proofs.Report
import Mathlib.Data.List.Basic

/-!
# What the symbols decide

The symbol table gives widgets their identifiers. Whether a dialog is converted, and what is reported
besides identifiers that are not in the table, is the same for every table
(`Converter.interfaceOf_symbols`). The table is asked only for the identifiers of directives that become
widgets, so two tables that agree on those give the same document and the same report.
-/

namespace DialogGrid

open Collecting

/-! ## Directives -/

/-- A warning about an identifier that is not in the symbol table. -/
def Diagnostic.isUnknownSymbol (d : Diagnostic) : Bool := d.code == some .unknownSymbol

/-- The widget that a directive becomes, as far as the symbols have no say in it. A directive that breaks
its schema or that a comment stands for becomes none. -/
def Rules.template? (rules : List Rule) (d : Directive) : Option Template :=
  match Element.ofDirective (Rules.adjust rules d) with
  | .ok e => e.template?
  | .error _ => none

/-- The warning about the identifier of a directive that becomes a widget, if the table lacks it. -/
def SymbolTable.missing? (s : SymbolTable) (rules : List Rule) (d : Directive) : Option Diagnostic :=
  match Rules.template? rules d with
  | some t => if s.get? t.id = none then some (unknown t.id (Rules.adjust rules d).span) else none
  | none => none

theorem SymbolTable.alone_resolving (s : SymbolTable) (idLead name : Text) (span : Span) :
    (s.resolving idLead name span).alone =
      match s.get? name with
      | some value => (idLead ++ value, [])
      | none => (name, [unknown name span]) := by
  unfold resolving
  cases s.get? name with
  | some value => rfl
  | none => rfl

private theorem Element.isUnknownSymbol_replacement (e : Element) (span : Span) :
    ∀ d ∈ (e.replacement span).alone.2, d.isUnknownSymbol = false := by
  intro d reported
  cases e with
  | control text id windowClass rect style =>
    obtain rfl := List.mem_singleton.mp reported
    rfl
  | unsupported name args =>
    obtain rfl := List.mem_singleton.mp reported
    rfl
  | _ => cases reported

private theorem SchemaError.isUnknownSymbol_diagnostic (e : SchemaError) (d : Directive) :
    (e.diagnostic d).isUnknownSymbol = false := by
  cases e <;> rfl

namespace Builder

/-- The same builder with other symbols. -/
def withSymbols (b : Builder) (s : SymbolTable) : Builder := { b with symbols := s }

/-- The fragment for a directive that becomes a widget, once its identifier is known. -/
def widgetFragment (b : Builder) (d : Directive) (t : Template) (id : Text) (warnings : List Diagnostic) : Fragment :=
  let widget : Widget := ⟨t.objectClass, id, t.properties, t.items id, b.grid.cell t.rect⟩
  ⟨Rules.adjustMarkup b.rules widget.markup (Rules.adjust b.rules d), warnings⟩

/-- A directive that becomes a widget is asked about in the table, and nothing else is reported about it. -/
theorem fragment_template {b : Builder} {d : Directive} {t : Template} (template : Rules.template? b.rules d = some t) :
    b.fragment d =
      let resolved := b.symbols.resolve b.idLead t.id (Rules.adjust b.rules d).span
      b.widgetFragment d t resolved.1 resolved.2 := by
  unfold Rules.template? at template
  cases read : Element.ofDirective (Rules.adjust b.rules d) with
  | error e =>
    rw [read] at template
    cases template
  | ok e =>
    rw [read] at template
    rw [fragment_eq, alone_translate_of_ok read, alone_place_of_template template]
    rfl

/-- A directive that becomes no widget is not asked about in the table. -/
theorem fragment_withSymbols {b : Builder} {d : Directive} (none : Rules.template? b.rules d = none)
    (s : SymbolTable) :
    (b.withSymbols s).fragment d = b.fragment d ∧ ∀ x ∈ (b.fragment d).diagnostics, x.isUnknownSymbol = false := by
  unfold Rules.template? at none
  cases read : Element.ofDirective (Rules.adjust b.rules d) with
  | error e =>
    rw [fragment_eq, fragment_eq, alone_translate_of_error read,
      alone_translate_of_error (b := b.withSymbols s) (d := d) read]
    refine ⟨rfl, ?_⟩
    intro x reported
    obtain rfl := List.mem_singleton.mp reported
    exact e.isUnknownSymbol_diagnostic _
  | ok e =>
    rw [read] at none
    rw [fragment_eq, fragment_eq, alone_translate_of_ok read,
      alone_translate_of_ok (b := b.withSymbols s) (d := d) read]
    dsimp only
    rw [place_of_replacement none, place_of_replacement none]
    exact ⟨rfl, e.isUnknownSymbol_replacement _⟩

/-- An identifier is warned about exactly if it is that of a widget and the table lacks it. -/
theorem unknownSymbol_fragment (b : Builder) (d : Directive) :
    (b.fragment d).diagnostics.filter Diagnostic.isUnknownSymbol = (b.symbols.missing? b.rules d).toList := by
  unfold SymbolTable.missing?
  cases template : Rules.template? b.rules d with
  | none =>
    obtain ⟨-, others⟩ := fragment_withSymbols template b.symbols
    simpa using others
  | some t =>
    rw [fragment_template template, SymbolTable.resolve, SymbolTable.alone_resolving]
    cases known : b.symbols.get? t.id with
    | some value => simp [widgetFragment, known]
    | none => simp [widgetFragment, known, Diagnostic.isUnknownSymbol, SymbolTable.unknown]

/-- What else is reported about a directive does not depend on the table. -/
theorem others_fragment (b : Builder) (s : SymbolTable) (d : Directive) :
    ((b.withSymbols s).fragment d).diagnostics.filter (!·.isUnknownSymbol) =
      (b.fragment d).diagnostics.filter (!·.isUnknownSymbol) := by
  cases template : Rules.template? b.rules d with
  | none =>
    obtain ⟨same, -⟩ := fragment_withSymbols template s
    rw [same]
  | some t =>
    have nothing : ∀ b : Builder, Rules.template? b.rules d = some t →
        (b.fragment d).diagnostics.filter (!·.isUnknownSymbol) = [] := by
      intro b template
      rw [fragment_template template, SymbolTable.resolve, SymbolTable.alone_resolving]
      cases b.symbols.get? t.id with
      | some value => rfl
      | none => rfl
    rw [nothing b template, nothing (b.withSymbols s) template]

/-- Two tables that agree on the identifier of the widget that a directive becomes, if it becomes one, give the
same fragment. -/
theorem fragment_congr {b : Builder} {d : Directive} {s : SymbolTable}
    (agree : ∀ t ∈ Rules.template? b.rules d, s.get? t.id = b.symbols.get? t.id) :
    (b.withSymbols s).fragment d = b.fragment d := by
  cases template : Rules.template? b.rules d with
  | none =>
    obtain ⟨same, -⟩ := fragment_withSymbols template s
    exact same
  | some t =>
    have template' : Rules.template? (b.withSymbols s).rules d = some t := template
    have resolved : s.resolve b.idLead t.id (Rules.adjust b.rules d).span =
        b.symbols.resolve b.idLead t.id (Rules.adjust b.rules d).span := by
      rw [SymbolTable.resolve, SymbolTable.resolve, SymbolTable.alone_resolving, SymbolTable.alone_resolving,
        agree t template]
    rw [fragment_template template, fragment_template template', ← resolved]
    rfl

end Builder

/-! ## Conversion of a dialog -/

namespace Converter

/-- The same converter with other symbols. -/
def withSymbols (c : Converter) (s : SymbolTable) : Converter := { c with symbols := s }

/-- What is reported about a dialog, be it converted or not. -/
def reported : Except Failure Conversion → List Diagnostic
  | .ok r => r.warnings
  | .error (.script ds _) => ds
  | .error _ => []

theorem reported_interfaceOf (c : Converter) (source : Text) (dialog : Dialog) {grid : Grid}
    (accepted : Grid.ofRatios c.config.ratios = .ok grid) :
    reported (c.interfaceOf source dialog) = (dialog.body.map (c.builder grid).fragment).flatMap (·.diagnostics) := by
  rw [c.interfaceOf_eq source dialog accepted]
  dsimp only
  split
  · rfl
  · rfl

/-- A dialog is converted exactly if every directive of its body follows its schema. -/
theorem exists_interfaceOf_iff (c : Converter) (source : Text) (dialog : Dialog) {grid : Grid}
    (accepted : Grid.ofRatios c.config.ratios = .ok grid) :
    (∃ r, c.interfaceOf source dialog = .ok r) ↔ dialog.body.filterMap (c.builder grid).schemaError? = [] := by
  rw [c.interfaceOf_eq source dialog accepted, ← Builder.errors_body, List.filter_eq_nil_iff]
  dsimp only
  split
  · next broken =>
    rw [Diagnostics.hasErrors, List.any_eq_true] at broken
    obtain ⟨d, member, isError⟩ := broken
    constructor
    · rintro ⟨r, ⟨⟩⟩
    · intro clean
      exact absurd isError (clean d member)
  · next clean =>
    rw [Diagnostics.hasErrors, List.any_eq_true] at clean
    constructor
    · intro _ d member isError
      exact clean ⟨d, member, isError⟩
    · intro _
      exact ⟨_, rfl⟩

/-- Whatever the symbols are, a dialog is converted or it is not, with the same report but for identifiers that are
not in the table: of those, each that a widget has is reported, where the directive stands in the body. Two
tables that agree on the identifiers of all widgets give the same document and the same report, or the same
failure. -/
theorem interfaceOf_symbols (c : Converter) (source : Text) (dialog : Dialog) (s t : SymbolTable) :
    let run (table : SymbolTable) := (c.withSymbols table).interfaceOf source dialog
    ((∃ r, run s = .ok r) ↔ ∃ r, run t = .ok r) ∧
      (reported (run s)).filter (!·.isUnknownSymbol) = (reported (run t)).filter (!·.isUnknownSymbol) ∧
      (∀ grid, Grid.ofRatios c.config.ratios = .ok grid →
        (reported (run s)).filter Diagnostic.isUnknownSymbol = dialog.body.filterMap (s.missing? c.rules)) ∧
      ((∀ d ∈ dialog.body, ∀ widget ∈ Rules.template? c.rules d, s.get? widget.id = t.get? widget.id) →
        run s = run t) := by
  intro run
  cases accepted : Grid.ofRatios c.config.ratios with
  | error e =>
    have refused : ∀ table, run table = .error (.configuration e.message) := by
      intro table
      show (c.withSymbols table).interfaceOf source dialog = _
      have ratios : Grid.ofRatios (c.withSymbols table).config.ratios = .error e := accepted
      rw [interfaceOf, ratios]
      rfl
    rw [refused s, refused t]
    simp
  | ok grid =>
    have outcome : ∀ table, run table = _ := fun table =>
      (c.withSymbols table).interfaceOf_eq source dialog accepted
    have report : ∀ table, reported (run table) = _ := fun table =>
      (c.withSymbols table).reported_interfaceOf source dialog accepted
    have builder : ∀ table, (c.withSymbols table).builder grid = (c.builder grid).withSymbols table := fun _ => rfl
    refine ⟨?_, ?_, ?_, ?_⟩
    · -- The errors are those of the schemas, which know no symbols.
      show (∃ r, (c.withSymbols s).interfaceOf source dialog = .ok r) ↔
        ∃ r, (c.withSymbols t).interfaceOf source dialog = .ok r
      rw [(c.withSymbols s).exists_interfaceOf_iff source dialog accepted,
        (c.withSymbols t).exists_interfaceOf_iff source dialog accepted]
      rfl
    · rw [report s, report t, builder, builder, List.flatMap_map, List.flatMap_map, List.filter_flatMap,
        List.filter_flatMap]
      simp only [Builder.others_fragment]
    · rintro _ ⟨⟩
      rw [report s, builder, List.flatMap_map, List.filter_flatMap]
      simp only [Builder.unknownSymbol_fragment]
      exact (List.filterMap_eq_flatMap_toList _ _).symm
    · intro agree
      have fragments : dialog.body.map ((c.builder grid).withSymbols s).fragment =
          dialog.body.map ((c.builder grid).withSymbols t).fragment := by
        refine List.map_congr_left fun d member => ?_
        have same : ((c.builder grid).withSymbols t).withSymbols s = (c.builder grid).withSymbols s := rfl
        rw [← same]
        exact Builder.fragment_congr (agree d member)
      rw [outcome s, outcome t, builder, builder, fragments]
      rfl

/-- A label whose symbol both tables know, a directive without a widget, whose symbol only one of them knows, and a
button whose symbol neither knows. -/
theorem interfaceOf_symbols_spare :
    let c : Converter := {}
    let place : Span := .ofBounds 0 0
    let rect := [lit "8", lit "6", lit "22", lit "8"]
    let dialog : Dialog := ⟨lit "IDD", [],
      [⟨lit "LTEXT", lit "\"A\"" :: lit "IDC_A" :: rect, place⟩, ⟨lit "ICON", lit "IDI_A" :: lit "IDC_B" :: rect, place⟩,
        ⟨lit "PUSHBUTTON", lit "\"C\"" :: lit "IDC_C" :: rect, place⟩], place⟩
    let s : SymbolTable := ⟨[(lit "IDC_A", lit "1"), (lit "IDC_B", lit "2")]⟩
    let t : SymbolTable := ⟨[(lit "IDC_A", lit "1")]⟩
    let run (table : SymbolTable) := (c.withSymbols table).interfaceOf [] dialog
    (∀ d ∈ dialog.body, ∀ widget ∈ Rules.template? c.rules d, s.get? widget.id = t.get? widget.id) ∧
      run s = run t ∧ (∃ r, run s = .ok r) ∧
      (reported (run s)).filter Diagnostic.isUnknownSymbol = [SymbolTable.unknown (lit "IDC_C") place] := by
  intro c place rect dialog s t run
  have agree : ∀ d ∈ dialog.body, ∀ widget ∈ Rules.template? c.rules d, s.get? widget.id = t.get? widget.id := by
    decide +kernel
  obtain ⟨-, -, missing, same⟩ := interfaceOf_symbols c [] dialog s t
  have converted : ∃ r, run s = .ok r := by
    refine ((c.withSymbols s).exists_interfaceOf_iff [] dialog Grid.ofRatios_default).mpr ?_
    decide +kernel
  refine ⟨agree, same agree, converted, ?_⟩
  show (reported ((c.withSymbols s).interfaceOf [] dialog)).filter _ = _
  rw [missing _ Grid.ofRatios_default]
  decide +kernel

end Converter

end DialogGrid
