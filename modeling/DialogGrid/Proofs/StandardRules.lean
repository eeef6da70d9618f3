import DialogGrid.Proofs.Results
import DialogGrid.Proofs.Translation

/-!
# The standard rules

The standard rules overwrite the height of a drop-down list before it is read. The number that they write is a coordinate,
so a valid directive stays valid (`Element.Documented.withHeight`), and its widget changes in the number of its rows and
nowhere else (`Builder.fragment_setHeight`). All other directives are translated as without rules
(`Builder.fragment_standardRules`), and so a dialog that is converted without rules is converted with them.
-/

namespace DialogGrid

/-! ## Row spans -/

/-- How many rows a height spans. -/
def Grid.rowSpan (g : Grid) (height : Int32) : Nat := (g.cell ⟨0, 0, 0, height⟩).rowSpan

private theorem Grid.rowSpan_cell (g : Grid) (rect : Rect) : (g.cell rect).rowSpan = g.rowSpan rect.height := rfl

private theorem Grid.cell_withHeight (g : Grid) (rect : Rect) (height : Int32) :
    let cell := g.cell ⟨rect.x, rect.y, rect.width, height⟩
    cell.column = (g.cell rect).column ∧ cell.columnSpan = (g.cell rect).columnSpan ∧ cell.row = (g.cell rect).row := by
  simp only [cell, Cell.ofSpans, and_self]

/-- The line that says how many rows a widget spans. -/
def rowSpanLine (rows : Nat) : Text :=
  markupLine 14 (lit "<property name=\"row-span\">" ++ Text.ofNat rows ++ lit "</property>")

namespace Widget

/-- The lines behind the row span of a widget. -/
def ending : Text := markupLine 12 (lit "</layout>") ++ markupLine 10 (lit "</object>") ++ markupLine 8 (lit "</child>")

/-- The lines before the row span of a widget. -/
def opening (w : Widget) : Text :=
  markupLine 8 (lit "<child>")
    ++ markupLine 10 (lit "<object class=\"" ++ w.objectClass ++ lit "\" id=\"" ++ w.id ++ lit "\">")
    ++ w.properties.flatMap (fun p => markupLine 12 p.markup)
    ++ (if w.items = [] then []
      else markupLine 12 (lit "<items>") ++ itemLines 0 w.items ++ markupLine 12 (lit "</items>"))
    ++ markupLine 12 (lit "<layout>")
    ++ ((layout w.cell).take 3).flatMap fun p => markupLine 14 p.markup

theorem markup_eq (w : Widget) : w.markup = w.opening ++ rowSpanLine w.cell.rowSpan ++ ending := by
  have last : (⟨lit "row-span", Text.ofNat w.cell.rowSpan, false⟩ : Property).markup =
      lit "<property name=\"row-span\">" ++ Text.ofNat w.cell.rowSpan ++ lit "</property>" := rfl
  simp only [markup, opening, ending, layout, rowSpanLine, last, List.flatMap_cons, List.flatMap_nil, List.take_succ_cons,
    List.take_zero, List.append_assoc, List.append_nil]

end Widget

/-- Markup of a widget that is the same as other markup except that it spans some number of rows. -/
def Respans (rows : Nat) (markup markup' : Text) : Prop :=
  ∃ opening own, markup = opening ++ rowSpanLine own ++ Widget.ending ∧
    markup' = opening ++ rowSpanLine rows ++ Widget.ending

/-- A widget in another cell that differs in the number of rows only. -/
theorem Widget.respans_markup (w : Widget) {cell : Cell} (column : cell.column = w.cell.column)
    (columnSpan : cell.columnSpan = w.cell.columnSpan) (row : cell.row = w.cell.row) :
    Respans cell.rowSpan w.markup { w with cell }.markup := by
  refine ⟨w.opening, w.cell.rowSpan, w.markup_eq, ?_⟩
  rw [markup_eq]
  simp only [opening, layout, column, columnSpan, row, List.take_succ_cons, List.take_zero]

/-! ## Heights -/

namespace Text

theorem digits_ofNat (n : Nat) : (ofNat n).Digits n := natural?_eq_some_iff.mp (natural?_ofNat n)

theorem numeral_ofNat {n : Nat} (inside : n ≤ 2147483647) : (ofNat n).Numeral (Int32.ofNat n).toInt := by
  rw [Int32.toInt_ofNat_of_lt (by omega)]
  exact .bare (digits_ofNat n)

end Text

/-- What is documented about drop-down lists. -/
def Form.dropDown : Form := ⟨.comboBox, lit "COMBOBOX", 5, 7, 1, 5⟩

theorem Form.dropDown_listed : dropDown ∈ all := by decide

namespace Element

variable {d : Directive} {e : Element}

theorem ofDirective_dropDown_iff (named : d.isNamed (lit "COMBOBOX") = true) :
    ofDirective d = .ok e ↔ Documented .comboBox d.args e :=
  mapError_eq_ok.symm.trans ((Form.reads Form.dropDown_listed named).eq_ok_iff Form.dropDown_listed)

private theorem Documented.withHeight {args : List Text} (documented : Documented .comboBox args e) :
    ∃ id rect style, e = .comboBox id rect style ∧ ∀ (height : Int32) (text : Text), text.Numeral height.toInt →
      Documented .comboBox (args.set 4 text) (.comboBox id ⟨rect.x, rect.y, rect.width, height⟩ style) := by
  cases documented with
  | @comboBox id x y width _ more rect placed few =>
    refine ⟨id, rect, .leading more, rfl, fun height text written => .comboBox ?_ few⟩
    simp only [Rect.WrittenAs, List.forall₂_cons] at placed ⊢
    exact ⟨placed.1, placed.2.1, placed.2.2.1, written, .nil⟩

end Element

/-! ## Rules -/

theorem standardRules_keepName (r : Ratios) (d : Directive) :
    let adjusted := Rules.adjust (standardRules r) d
    adjusted.name = d.name ∧ adjusted.args.length = d.args.length := by
  dsimp only
  rw [adjust_standardRules]
  split
  · exact ⟨rfl, List.length_set⟩
  · exact ⟨rfl, rfl⟩

theorem adjust_standardRules_twice (r : Ratios) (d : Directive) :
    Rules.adjust (standardRules r) (Rules.adjust (standardRules r) d) = Rules.adjust (standardRules r) d := by
  by_cases named : d.isNamed (lit "COMBOBOX") = true
  · have once : Rules.adjust (standardRules r) d = d.setArg 4 (Text.ofNat (rowHeight r)) := by
      rw [adjust_standardRules, if_pos named]
    have named' : (d.setArg 4 (Text.ofNat (rowHeight r))).isNamed (lit "COMBOBOX") = true := named
    rw [once, adjust_standardRules, if_pos named']
    simp [Directive.setArg]
  · have once : Rules.adjust (standardRules r) d = d := by rw [adjust_standardRules, if_neg named]
    rw [once, once]

theorem getElem?_adjust_standardRules (r : Ratios) (d : Directive) {i : Nat}
    (other : ¬ (d.isNamed (lit "COMBOBOX") = true ∧ i = 4)) :
    (Rules.adjust (standardRules r) d).args[i]? = d.args[i]? := by
  rw [adjust_standardRules]
  split
  · next named => exact List.getElem?_set_ne fun here => other ⟨named, here.symm⟩
  · rfl

/-! ## Fragments -/

/-- The widget of a drop-down list, which lists its own identifier. -/
def Style.dropDown (s : Style) (id : Text) (cell : Cell) : Widget :=
  ⟨lit "GtkComboBoxText", id, [.flag (lit "visible") s.isVisible, .flag (lit "can-focus") false], [id], cell⟩

namespace Builder

variable {b : Builder} {d : Directive} {r : Ratios}

/-- The same builder without rules. -/
def plain (b : Builder) : Builder := { b with rules := [] }

/-- Rules that leave the markup alone do no more than they do to the directive. -/
theorem fragment_eq_plain (keeps : ∀ rule ∈ b.rules, rule.KeepsMarkup) (d : Directive) :
    b.fragment d = b.plain.fragment (Rules.adjust b.rules d) := by
  have unchanged : Rules.adjust b.plain.rules (Rules.adjust b.rules d) = Rules.adjust b.rules d := rfl
  cases read : Element.ofDirective (Rules.adjust b.rules d) with
  | error e =>
    rw [fragment_eq, fragment_eq, alone_translate_of_error read, alone_translate_of_error (unchanged ▸ read), unchanged]
  | ok e =>
    rw [fragment_eq, fragment_eq, alone_translate_of_ok read, alone_translate_of_ok (unchanged ▸ read), unchanged,
      Rules.adjustMarkup_eq keeps]
    rfl

theorem plain_fragment_dropDown (b : Builder) {id : Text} {rect : Rect} {style : Style}
    (read : Element.ofDirective d = .ok (.comboBox id rect style)) :
    let identified := b.symbols.resolve b.idLead id d.span
    b.plain.fragment d = ⟨(style.dropDown identified.1 (b.grid.cell rect)).markup, identified.2⟩ := by
  have unchanged : Rules.adjust b.plain.rules d = d := rfl
  rw [fragment_eq, alone_translate_of_ok (unchanged ▸ read), unchanged, alone_place_of_template rfl]
  rfl

theorem plain_fragment_valid_iff :
    (∀ x ∈ (b.plain.fragment d).diagnostics, x.isError = false) ↔ ∃ e, Element.ofDirective d = .ok e := by
  have errors := b.plain.errors_fragment d
  rw [schemaError?, show Rules.adjust b.plain.rules d = d from rfl] at errors
  constructor
  · intro valid
    rw [List.filter_eq_nil_iff.mpr fun x member => by simp [valid x member]] at errors
    cases read : Element.ofDirective d with
    | error e =>
      rw [read] at errors
      cases errors
    | ok e => exact ⟨e, rfl⟩
  · rintro ⟨e, read⟩ x member
    rw [read] at errors
    exact Bool.eq_false_iff.mpr (List.filter_eq_nil_iff.mp errors x member)

/-- A drop-down list that is valid stays so with another height. It is reported as before, and it is shown as before
except that it spans as many rows as that height does. -/
theorem fragment_setHeight (b : Builder) (named : d.isNamed (lit "COMBOBOX") = true) {height : Int32} {text : Text}
    (written : text.Numeral height.toInt) (valid : ∀ x ∈ (b.plain.fragment d).diagnostics, x.isError = false) :
    let before := b.plain.fragment d
    let after := b.plain.fragment (d.setArg 4 text)
    after.diagnostics = before.diagnostics ∧ Respans (b.grid.rowSpan height) before.markup after.markup := by
  dsimp only
  obtain ⟨e, read⟩ := plain_fragment_valid_iff.mp valid
  obtain ⟨id, rect, style, rfl, withHeight⟩ := ((Element.ofDirective_dropDown_iff named).mp read).withHeight
  have named' : (d.setArg 4 text).isNamed (lit "COMBOBOX") = true := named
  have read' := (Element.ofDirective_dropDown_iff named').mpr (withHeight height text written)
  rw [b.plain_fragment_dropDown read, b.plain_fragment_dropDown read']
  obtain ⟨column, columnSpan, row⟩ := b.grid.cell_withHeight rect height
  rw [← b.grid.rowSpan_cell ⟨rect.x, rect.y, rect.width, height⟩]
  exact ⟨rfl, Widget.respans_markup (style.dropDown _ (b.grid.cell rect)) column columnSpan row⟩

/-- With the standard rules a valid directive is reported as without them, and it is shown so too but for the row span of
a drop-down list. -/
theorem fragment_standardRules (b : Builder) (inside : rowHeight r ≤ 2147483647)
    (valid : ∀ x ∈ (b.plain.fragment d).diagnostics, x.isError = false) :
    let before := b.plain.fragment d
    let after := { b with rules := standardRules r : Builder }.fragment d
    after.diagnostics = before.diagnostics ∧
      if d.isNamed (lit "COMBOBOX") then Respans (b.grid.rowSpan (.ofNat (rowHeight r))) before.markup after.markup
      else after.markup = before.markup := by
  have adjusted : { b with rules := standardRules r : Builder }.fragment d =
      b.plain.fragment (Rules.adjust (standardRules r) d) := fragment_eq_plain (standardRules_keepMarkup r) d
  dsimp only
  rw [adjusted, adjust_standardRules]
  by_cases named : d.isNamed (lit "COMBOBOX") = true
  · rw [if_pos named, if_pos named]
    exact b.fragment_setHeight named (Text.numeral_ofNat inside) valid
  · rw [if_neg named, if_neg named]
    exact ⟨rfl, rfl⟩

end Builder

/-! ## Dialogs -/

namespace Converter

/-- A dialog that is converted without rules is converted with the standard rules too, if the height of one row is a
coordinate: with the same warnings, and with fragments that are the same but for the number of rows that a drop-down list
spans, which is the one for that height. To apply the rules to a directive twice is to apply them once, and they change
no part of it except the fifth argument of a drop-down list. -/
theorem interfaceOf_standardRules (c : Converter) (source : Text) (dialog : Dialog) :
    let r := c.config.ratios
    let plain : Converter := { c with rules := [] }
    let standard : Converter := { c with rules := standardRules r }
    (∀ grid, Grid.ofRatios r = .ok grid → rowHeight r ≤ 2147483647 →
      let before (d : Directive) : Text := ((plain.builder grid).fragment d).markup
      let after (d : Directive) : Text := ((standard.builder grid).fragment d).markup
      let document (fragment : Directive → Text) : Text :=
        documentMarkup (windowMarkup c.config.dialog.windowId dialog.caption? (dialog.body.map fragment))
      ∀ conversion, plain.interfaceOf source dialog = .ok conversion →
        conversion.document = document before ∧
          standard.interfaceOf source dialog = .ok ⟨document after, conversion.warnings⟩ ∧
          ∀ d ∈ dialog.body, if d.isNamed (lit "COMBOBOX")
            then Respans (grid.rowSpan (.ofNat (rowHeight r))) (before d) (after d) else after d = before d) ∧
    ∀ d : Directive,
      let adjusted := Rules.adjust (standardRules r) d
      Rules.adjust (standardRules r) adjusted = adjusted ∧ adjusted.name = d.name ∧ adjusted.span = d.span ∧
        adjusted.args.length = d.args.length ∧
        ∀ i, ¬ (d.isNamed (lit "COMBOBOX") = true ∧ i = 4) → adjusted.args[i]? = d.args[i]? := by
  intro r plain standard
  constructor
  · intro grid accepted inside before after document conversion converted
    rw [plain.interfaceOf_eq source dialog accepted] at converted
    dsimp only at converted
    split at converted
    · cases converted
    · next clean =>
      have valid : ∀ d ∈ dialog.body, ∀ x ∈ ((plain.builder grid).fragment d).diagnostics, x.isError = false := by
        simpa [Diagnostics.hasErrors] using clean
      have each := fun d member => (c.builder grid).fragment_standardRules (r := r) inside (valid d member)
      have report : (dialog.body.map (standard.builder grid).fragment).flatMap (·.diagnostics) =
          (dialog.body.map (plain.builder grid).fragment).flatMap (·.diagnostics) := by
        rw [List.flatMap_map, List.flatMap_map]
        exact List.flatMap_congr fun d member => (each d member).1
      obtain rfl := Except.ok.inj converted
      refine ⟨?_, ?_, fun d member => (each d member).2⟩
      · rw [List.map_map]
        rfl
      · rw [standard.interfaceOf_eq source dialog accepted]
        dsimp only
        rw [report, if_neg clean, List.map_map]
        rfl
  · intro d adjusted
    obtain ⟨name, count⟩ := standardRules_keepName r d
    exact ⟨adjust_standardRules_twice r d, name, standardRules_keepSpan r d, count,
      fun i other => getElem?_adjust_standardRules r d other⟩

/-- A drop-down list that is ten rows high next to a label spans a single row with the standard rules. -/
theorem interfaceOf_standardRules_tenRows :
    let c : Converter := { symbols := ⟨[(lit "IDC_A", lit "7"), (lit "IDC_B", lit "8")]⟩ }
    let plain : Converter := { c with rules := [] }
    let standard : Converter := { c with rules := standardRules c.config.ratios }
    let grid : Grid := ⟨.finite 4503599627370496 (-49), .finite 4503599627370496 (-50), .finite 5629499534213120 (-44)⟩
    let place : Span := .ofBounds 0 0
    let label : Directive := ⟨lit "LTEXT", [lit "\"A\"", lit "IDC_A", lit "8", lit "6", lit "22", lit "8"], place⟩
    let dropDown : Directive := ⟨lit "ComboBox", [lit "IDC_B", lit "8", lit "30", lit "196", lit "3200"], place⟩
    let dialog : Dialog := ⟨lit "IDD", [], [label, dropDown], place⟩
    Grid.ofRatios c.config.ratios = .ok grid ∧ rowHeight c.config.ratios ≤ 2147483647 ∧
      ∃ conversion, plain.interfaceOf [] dialog = .ok conversion ∧
        Respans 1 ((plain.builder grid).fragment dropDown).markup ((standard.builder grid).fragment dropDown).markup := by
  intro c plain standard grid place label dropDown dialog
  have accepted : Grid.ofRatios c.config.ratios = .ok grid := Grid.ofRatios_default
  have inside : rowHeight c.config.ratios ≤ 2147483647 := by decide +kernel
  have converted := plain.interfaceOf_eq [] dialog accepted
  dsimp only at converted
  rw [if_neg (by decide +kernel)] at converted
  obtain ⟨whole, -⟩ := interfaceOf_standardRules c [] dialog
  obtain ⟨-, -, each⟩ := whole grid accepted inside _ converted
  have respans := each dropDown (by simp [dialog])
  rw [if_pos (by decide), show grid.rowSpan (.ofNat (rowHeight c.config.ratios)) = 1 by decide +kernel] at respans
  exact ⟨accepted, inside, _, converted, respans⟩

end Converter

end DialogGrid
