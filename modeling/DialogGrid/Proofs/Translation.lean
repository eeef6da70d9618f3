import DialogGrid.Proofs.Nesting
import DialogGrid.Proofs.Schemas
import DialogGrid.Proofs.Symbols

/-!
# What becomes of a directive

A directive leaves nothing and an error, or a comment and a warning, or a widget (`Builder.Outcome`). The
directive decides which, once the rules have adjusted it, and `Builder.Becomes` says what is written and what is
reported in each case. Only for a widget are the symbols asked (`SymbolTable.Identifies`), and only once.
-/

namespace DialogGrid

open Collecting

/-! ## Outcomes -/

/-- The identifier for a name, and what is reported about it at a span. -/
inductive SymbolTable.Identifies (s : SymbolTable) (idLead : Text) (span : Span) : Text → Text → List Diagnostic → Prop
  | known {name value : Text} (defined : s.get? name = some value) :
      Identifies s idLead span name (idLead ++ value) []
  | unknown {name : Text} {x : Diagnostic} (undefined : s.get? name = none)
      (told : x.Reports .warning (lit "W001") span) : Identifies s idLead span name name [x]

/-- A style says whether its control is shown. -/
def Style.visibility (s : Style) : Property :=
  ⟨lit "visible", if s.flags.contains (lit "NOT WS_VISIBLE") then lit "False" else lit "True", false⟩

/-- A style says whether its text can be changed. -/
def Style.editability (s : Style) : Property :=
  ⟨lit "editable", if s.flags.contains (lit "ES_READONLY") then lit "False" else lit "True", false⟩

/-- The properties of a button. Its text is for the user. -/
def Style.ofButton (s : Style) (text : Text) : List Property :=
  [⟨lit "label", text, true⟩, s.visibility, ⟨lit "can-focus", lit "True", false⟩,
    ⟨lit "receives-default", lit "True", false⟩]

/-- The style of a push button: no flags, or a tab stop and nothing else. -/
def Style.IsPlain (s : Style) : Prop := s.flags = [] ∨ s.flags = [lit "WS_TABSTOP"]

namespace Element

/-- The widget that shows an element with some name and rectangle, under an identifier and in a cell. -/
inductive ShownBy (id : Text) (cell : Cell) : Element → Text → Rect → Widget → Prop
  | label {text name : Text} {rect : Rect} {style : Style} {align : Align} :
      ShownBy id cell (label text name rect style align) name rect
        ⟨lit "GtkLabel", id, [⟨lit "label", text, false⟩, ⟨lit "halign", align.text, false⟩, style.visibility], [], cell⟩
  | comboBox {name : Text} {rect : Rect} {style : Style} :
      ShownBy id cell (comboBox name rect style) name rect
        ⟨lit "GtkComboBoxText", id, [style.visibility, ⟨lit "can-focus", lit "False", false⟩], [id], cell⟩
  | pushButton {text name : Text} {rect : Rect} {style : Style} {isDefault : Bool} :
      ShownBy id cell (pushButton text name rect style isDefault) name rect
        ⟨lit "GtkButton", id, style.ofButton text, [], cell⟩
  | editText {name : Text} {rect : Rect} {style : Style} :
      ShownBy id cell (editText name rect style) name rect
        ⟨lit "GtkTextView", id, [style.visibility, ⟨lit "can-focus", lit "True", false⟩, style.editability], [], cell⟩
  | button {text name windowClass : Text} {rect : Rect} {style : Style}
      (named : windowClass.sameLetters (lit "button") = true) (plain : style.IsPlain) :
      ShownBy id cell (control text name windowClass rect style) name rect
        ⟨lit "GtkButton", id, style.ofButton text, [], cell⟩
  | checkBox {text name windowClass : Text} {rect : Rect} {style : Style}
      (named : windowClass.sameLetters (lit "button") = true) (checked : lit "BS_AUTOCHECKBOX" ∈ style.flags) :
      ShownBy id cell (control text name windowClass rect style) name rect
        ⟨lit "GtkCheckButton", id, style.ofButton text, [], cell⟩

end Element

namespace Builder

/-- What can become of a directive. -/
inductive Outcome where
  | broken
  | unsupported
  | noWidget
  | widget
  deriving DecidableEq, Repr

/-- The markup and the diagnostics of a directive at a span, by what it is read as. A comment repeats the name or the
window class, and a widget is written as a child of the grid with one object in it. -/
inductive Becomes (b : Builder) (span : Span) : Outcome → Except Diagnostic Element → Text → List Diagnostic → Prop
  | broken {x : Diagnostic} (told : x.Reports .error (lit "E102") span ∨ x.Reports .error (lit "E103") span) :
      Becomes b span .broken (.error x) [] [x]
  | unsupported {name : Text} {args : List Text} {x : Diagnostic} (told : x.Reports .warning (lit "W003") span) :
      Becomes b span .unsupported (.ok (.unsupported name args))
        (markupLine 8 (lit "<!-- UNSUPPORTED ELEMENT <" ++ name ++ lit "> -->")) [x]
  | noWidget {text name windowClass : Text} {rect : Rect} {style : Style} {x : Diagnostic}
      (none : windowClass.sameLetters (lit "button") = false ∨ ¬ style.IsPlain ∧ lit "BS_AUTOCHECKBOX" ∉ style.flags)
      (told : x.Reports .warning (lit "W002") span) :
      Becomes b span .noWidget (.ok (.control text name windowClass rect style))
        (markupLine 8 (lit "<!-- UNSUPPORTED CONTROL STYLE OF '" ++ windowClass ++ lit "' -->")) [x]
  | widget {e : Element} {name id : Text} {rect : Rect} {w : Widget} {reported : List Diagnostic}
      (shown : e.ShownBy id (b.grid.cell rect) name rect w)
      (identified : b.symbols.Identifies b.idLead span name id reported) :
      Becomes b span .widget (.ok e) (w.node.markup 8) reported

end Builder

/-! ## Elements -/

private theorem Style.visibility_eq (s : Style) : .flag (lit "visible") s.isVisible = s.visibility := by
  unfold Property.flag isVisible contains visibility
  cases s.flags.contains (lit "NOT WS_VISIBLE") with
  | true => rfl
  | false => rfl

private theorem Style.editability_eq (s : Style) : .flag (lit "editable") s.isEditable = s.editability := by
  unfold Property.flag isEditable contains editability
  cases s.flags.contains (lit "ES_READONLY") with
  | true => rfl
  | false => rfl

private theorem Style.ofButton_eq (s : Style) (text : Text) : buttonProperties text s.isVisible = s.ofButton text := by
  rw [buttonProperties, s.visibility_eq]
  rfl

private theorem controlObject?_cases (windowClass : Text) (style : Style) :
    (controlObject? windowClass style = some (lit "GtkButton") ∧
        windowClass.sameLetters (lit "button") = true ∧ style.IsPlain) ∨
      (controlObject? windowClass style = some (lit "GtkCheckButton") ∧
        windowClass.sameLetters (lit "button") = true ∧ lit "BS_AUTOCHECKBOX" ∈ style.flags) ∨
      (controlObject? windowClass style = none ∧
        (windowClass.sameLetters (lit "button") = false ∨ ¬ style.IsPlain ∧ lit "BS_AUTOCHECKBOX" ∉ style.flags)) := by
  unfold controlObject? isButtonClass Style.contains
  cases named : windowClass.sameLetters (lit "button") with
  | false => exact .inr (.inr ⟨rfl, .inl rfl⟩)
  | true =>
    by_cases plain : style.IsPlain
    · exact .inl ⟨if_pos plain, rfl, plain⟩
    · by_cases checked : lit "BS_AUTOCHECKBOX" ∈ style.flags
      · exact .inr (.inl ⟨(if_neg plain).trans (if_pos (List.contains_iff_mem.mpr checked)), rfl, checked⟩)
      · have absent := checked ∘ List.contains_iff_mem.mp
        exact .inr (.inr ⟨(if_neg plain).trans (if_neg absent), .inr ⟨plain, checked⟩⟩)

namespace Element

variable {e : Element}

theorem shownBy_of_template {t : Template} (template : e.template? = some t) (id : Text) (cell : Cell) :
    e.ShownBy id cell t.id t.rect ⟨t.objectClass, id, t.properties, t.items id, cell⟩ := by
  cases e with
  | label text name rect style align =>
    cases template
    rw [isVisible, style.visibility_eq]
    exact .label
  | comboBox name rect style =>
    cases template
    rw [isVisible, style.visibility_eq]
    exact .comboBox
  | pushButton text name rect style isDefault =>
    cases template
    rw [isVisible, style.ofButton_eq]
    exact .pushButton
  | editText name rect style =>
    cases template
    rw [isVisible, style.visibility_eq, style.editability_eq]
    exact .editText
  | control text name windowClass rect style =>
    obtain ⟨objectClass, found, rfl⟩ := Option.map_eq_some_iff.mp template
    rw [isVisible, style.ofButton_eq]
    rcases controlObject?_cases windowClass style with ⟨push, named, plain⟩ | ⟨check, named, checked⟩ | ⟨none, -⟩
    · obtain rfl := Option.some.inj (push.symm.trans found)
      exact .button named plain
    · obtain rfl := Option.some.inj (check.symm.trans found)
      exact .checkBox named checked
    · cases none.symm.trans found
  | unsupported name args => cases template

private theorem ShownBy.not_noWidget {id name text name' windowClass : Text} {cell : Cell} {rect rect' : Rect}
    {style : Style} {w : Widget} (shown : ShownBy id cell (control text name' windowClass rect' style) name rect w) :
    ¬ (windowClass.sameLetters (lit "button") = false ∨ ¬ style.IsPlain ∧ lit "BS_AUTOCHECKBOX" ∉ style.flags) := by
  cases shown with
  | button named plain => simp [named, plain]
  | checkBox named checked => simp [named, checked]

private theorem noWidget_of_template {text name windowClass : Text} {rect : Rect} {style : Style}
    (none : (control text name windowClass rect style).template? = none) :
    windowClass.sameLetters (lit "button") = false ∨ ¬ style.IsPlain ∧ lit "BS_AUTOCHECKBOX" ∉ style.flags := by
  have unknown : controlObject? windowClass style = Option.none := Option.map_eq_none_iff.mp none
  rcases controlObject?_cases windowClass style with ⟨push, -⟩ | ⟨check, -⟩ | ⟨-, reason⟩
  · cases unknown.symm.trans push
  · cases unknown.symm.trans check
  · exact reason

end Element

/-! ## Directives -/

theorem SymbolTable.identifies_resolve (s : SymbolTable) (idLead name : Text) (span : Span) :
    s.Identifies idLead span name (s.resolve idLead name span).1 (s.resolve idLead name span).2 := by
  rw [resolve, alone_resolving]
  cases defined : s.get? name with
  | some value => exact .known defined
  | none => exact .unknown defined ⟨rfl, rfl, rfl⟩

/-- The standard rules write the height of a row into a drop-down list and change nothing else. -/
theorem adjust_standardRules (r : Ratios) (d : Directive) : Rules.adjust (standardRules r) d =
    if d.isNamed (lit "COMBOBOX") then d.setArg 4 (Text.ofNat (rowHeight r)) else d := rfl

theorem standardRules_keepSpan (r : Ratios) (d : Directive) : (Rules.adjust (standardRules r) d).span = d.span := by
  rw [adjust_standardRules]
  split
  · rfl
  · rfl

namespace Builder

variable {b : Builder}

/-- What a directive is read as decides its outcome. -/
theorem Becomes.outcome_unique {span : Span} {outcome outcome' : Outcome} {read : Except Diagnostic Element}
    {markup markup' : Text} {reported reported' : List Diagnostic}
    (becomes : b.Becomes span outcome read markup reported) (other : b.Becomes span outcome' read markup' reported') :
    outcome' = outcome := by
  cases becomes with
  | broken told =>
    cases other
    rfl
  | unsupported told =>
    cases other with
    | unsupported told' => rfl
    | widget shown identified => cases shown
  | noWidget none told =>
    cases other with
    | noWidget none' told' => rfl
    | widget shown identified => exact absurd none shown.not_noWidget
  | widget shown identified =>
    cases other with
    | unsupported told' => cases shown
    | noWidget none told' => exact absurd none shown.not_noWidget
    | widget shown' identified' => rfl

private theorem placeholder_eq (front t back : Text) :
    placeholder (front ++ t ++ back) = markupLine 8 (lit "<!-- " ++ front ++ t ++ (back ++ lit " -->")) := by
  rw [placeholder]
  simp only [List.append_assoc]

theorem becomes_place (b : Builder) (e : Element) (span : Span) :
    ∃ outcome, b.Becomes span outcome (.ok e) (b.place e span).alone.1 (b.place e span).alone.2 := by
  cases template : e.template? with
  | some t =>
    rw [alone_place_of_template template, ← Widget.markup_node]
    exact ⟨.widget, .widget (Element.shownBy_of_template template _ _) (b.symbols.identifies_resolve b.idLead t.id span)⟩
  | none =>
    rw [place_of_replacement template]
    cases e with
    | control text name windowClass rect style =>
      have comment : ((Element.control text name windowClass rect style).replacement span).alone.1 =
          markupLine 8 (lit "<!-- UNSUPPORTED CONTROL STYLE OF '" ++ windowClass ++ lit "' -->") :=
        placeholder_eq (lit "UNSUPPORTED CONTROL STYLE OF '") windowClass (lit "'")
      rw [comment]
      exact ⟨.noWidget, .noWidget (Element.noWidget_of_template template) ⟨rfl, rfl, rfl⟩⟩
    | unsupported name args =>
      have comment : ((Element.unsupported name args).replacement span).alone.1 =
          markupLine 8 (lit "<!-- UNSUPPORTED ELEMENT <" ++ name ++ lit "> -->") :=
        placeholder_eq (lit "UNSUPPORTED ELEMENT <") name (lit ">")
      rw [comment]
      exact ⟨.unsupported, .unsupported ⟨rfl, rfl, rfl⟩⟩
    | _ => cases template

/-- The markup and the report of a directive whose markup no rule changes. -/
theorem becomes_translate (keeps : ∀ rule ∈ b.rules, rule.KeepsMarkup) (d : Directive) :
    let adjusted := Rules.adjust b.rules d
    ∃ outcome, b.Becomes adjusted.span outcome (adjusted.report (Element.ofDirective adjusted))
      (b.translate d).alone.1 (b.translate d).alone.2 := by
  intro adjusted
  cases read : Element.ofDirective adjusted with
  | error e =>
    rw [alone_translate_of_error read]
    refine ⟨.broken, .broken ?_⟩
    cases e with
    | notInteger field raw => exact .inr ⟨rfl, rfl, rfl⟩
    | _ => exact .inl ⟨rfl, rfl, rfl⟩
  | ok e =>
    rw [alone_translate_of_ok read, Rules.adjustMarkup_eq keeps]
    exact b.becomes_place e adjusted.span

/-- Whatever was collected before, it is kept, and a directive has exactly one of four outcomes, which is decided by what
it is read as once the rules have adjusted it: nothing and an error, a comment and a warning for a keyword or for a
control that has no widget, or one widget, with a warning exactly if its identifier is not in the table. -/
theorem translate_outcome (b : Builder) (r : Ratios) (rules : b.rules = standardRules r ∨ b.rules = []) (d : Directive)
    (collected : Collector) :
    let adjusted := Rules.adjust b.rules d
    let run := (b.translate d).run collected
    ∃ reported, run.2.diagnostics = collected.diagnostics ++ reported ∧
      ∃! outcome, b.Becomes d.span outcome (adjusted.report (Element.ofDirective adjusted)) run.1 reported := by
  intro adjusted run
  have keeps : ∀ rule ∈ b.rules, rule.KeepsMarkup := by
    rcases rules with standard | none
    · rw [standard]
      exact standardRules_keepMarkup r
    · simp [none]
  have place : adjusted.span = d.span := by
    rcases rules with standard | none
    · rw [← standardRules_keepSpan r d, ← standard]
    · show (Rules.adjust b.rules d).span = d.span
      rw [none]
      rfl
  obtain ⟨markup, diagnostics⟩ := b.independent_translate d collected
  obtain ⟨outcome, becomes⟩ := becomes_translate keeps d
  rw [show (Rules.adjust b.rules d).span = d.span from place] at becomes
  refine ⟨(b.translate d).alone.2, diagnostics, outcome, ?_, fun other becomes' => becomes.outcome_unique becomes'⟩
  rw [show run.1 = (b.translate d).alone.1 from markup]
  exact becomes

private theorem Becomes.exists_label {span : Span} {outcome : Outcome} {text name markup : Text} {rect : Rect}
    {style : Style} {align : Align} {reported : List Diagnostic}
    (becomes : b.Becomes span outcome (.ok (.label text name rect style align)) markup reported) :
    ∃ id, b.symbols.Identifies b.idLead span name id reported ∧
      markup = (Widget.mk (lit "GtkLabel") id
        [⟨lit "label", text, false⟩, ⟨lit "halign", align.text, false⟩, style.visibility] []
        (b.grid.cell rect)).node.markup 8 := by
  cases becomes with
  | widget shown identified =>
    cases shown
    exact ⟨_, identified, rfl⟩

/-- A label whose name is in the table, one whose name is not and which is hidden, and a static control, which is reported
as one without a widget, and not for its name, which is not in the table either. -/
theorem translate_outcome_controls :
    let b : Builder :=
      ⟨.ofPairs [(lit "IDC_A", lit "7")], lit "ID_", ⟨.finite 1 0, .finite 1 0, .finite 1 0⟩, []⟩
    let rect := [lit "8", lit "6", lit "22", lit "8"]
    let known : Directive := ⟨lit "LTEXT", lit "\"A\"" :: lit "IDC_A" :: rect, .ofBounds 3 9⟩
    let unknown : Directive :=
      ⟨lit "rtext", lit "\"B\"" :: lit "IDC_B" :: rect ++ [lit "WS_GROUP | NOT  WS_VISIBLE"], .ofBounds 3 9⟩
    let static : Directive :=
      ⟨lit "Control", [lit "\"Logo\"", lit "IDC_LOGO", lit "\"Static\"", lit "SS_BITMAP"] ++ rect, .ofBounds 3 9⟩
    let label (id text align visible : Text) : Widget := ⟨lit "GtkLabel", id,
      [⟨lit "label", text, false⟩, ⟨lit "halign", align, false⟩, ⟨lit "visible", visible, false⟩], [],
      { column := 8, row := 6, columnSpan := 22, rowSpan := 8 }⟩
    b.rules = [] ∧
      (((b.translate known).run .empty).2.diagnostics = [] ∧ ((b.translate known).run .empty).1 =
        (label (lit "ID_7") (lit "A") (lit "start") (lit "True")).node.markup 8) ∧
      (∃ x, ((b.translate unknown).run .empty).2.diagnostics = [x] ∧ x.Reports .warning (lit "W001") unknown.span ∧
        ((b.translate unknown).run .empty).1 =
          (label (lit "IDC_B") (lit "B") (lit "end") (lit "False")).node.markup 8) ∧
      ∃ x, ((b.translate static).run .empty).2.diagnostics = [x] ∧ x.Reports .warning (lit "W002") static.span ∧
        ((b.translate static).run .empty).1 =
          markupLine 8 (lit "<!-- UNSUPPORTED CONTROL STYLE OF 'Static' -->") := by
  intro b rect known unknown static label
  have cell : b.grid.cell ⟨8, 6, 22, 8⟩ = { column := 8, row := 6, columnSpan := 22, rowSpan := 8 } := by
    decide +kernel
  refine ⟨rfl, ?_, ?_, ?_⟩
  · obtain ⟨reported, diagnostics, outcome, becomes, -⟩ := translate_outcome b {} (.inr rfl) known .empty
    have read : known.report (Element.ofDirective known) =
        .ok (.label (lit "A") (lit "IDC_A") ⟨8, 6, 22, 8⟩ ⟨[]⟩ .start) := by decide
    rw [show Rules.adjust b.rules known = known from rfl, read] at becomes
    obtain ⟨id, identified, markup⟩ := becomes.exists_label
    rw [diagnostics, markup, cell]
    have defined : b.symbols.get? (lit "IDC_A") = some (lit "7") := by decide
    cases identified with
    | known defined' =>
      obtain rfl := Option.some.inj (defined.symm.trans defined')
      exact ⟨rfl, rfl⟩
    | unknown undefined => cases defined.symm.trans undefined
  · obtain ⟨reported, diagnostics, outcome, becomes, -⟩ := translate_outcome b {} (.inr rfl) unknown .empty
    have read : unknown.report (Element.ofDirective unknown) =
        .ok (.label (lit "B") (lit "IDC_B") ⟨8, 6, 22, 8⟩ ⟨[lit "WS_GROUP", lit "NOT WS_VISIBLE"]⟩ .finish) := by decide
    rw [show Rules.adjust b.rules unknown = unknown from rfl, read] at becomes
    obtain ⟨id, identified, markup⟩ := becomes.exists_label
    rw [diagnostics, markup, cell]
    have undefined : b.symbols.get? (lit "IDC_B") = none := by decide
    cases identified with
    | known defined => cases undefined.symm.trans defined
    | unknown undefined' told => exact ⟨_, rfl, told, rfl⟩
  · obtain ⟨reported, diagnostics, outcome, becomes, -⟩ := translate_outcome b {} (.inr rfl) static .empty
    have read : static.report (Element.ofDirective static) =
        .ok (.control (lit "Logo") (lit "IDC_LOGO") (lit "Static") ⟨8, 6, 22, 8⟩ ⟨[lit "SS_BITMAP"]⟩) := by decide
    rw [show Rules.adjust b.rules static = static from rfl, read] at becomes
    have other : ¬ (lit "Static").sameLetters (lit "button") = true := by decide
    generalize ((b.translate static).run .empty).1 = markup at becomes ⊢
    rw [diagnostics]
    cases becomes with
    | @noWidget _ _ _ _ _ x none told => exact ⟨x, rfl, told, rfl⟩
    | widget shown identified =>
      cases shown with
      | button named plain => exact absurd named other
      | checkBox named checked => exact absurd named other

end Builder

end DialogGrid
