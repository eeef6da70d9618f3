import DialogGrid.Proofs.LineEndings
import DialogGrid.Proofs.Translation
import Mathlib.Logic.Relation

/-!
# Spellings without a meaning

The letter case of a keyword, the order and the spacing of style flags, the extended style and the word for a default
button say nothing about a dialog (`Directive.Respells`). Directives that differ in them alone are read as elements that
differ in the order of flags alone (`Directive.Alike.ofDirective`), and these have the same widget or the same comment. So a
directive can be respelled any number of times without an effect on its markup or on what is reported where
(`Builder.translate_respelled`).
-/

namespace DialogGrid

/-! ## Respelling -/

/-- One way to respell a directive under a documented keyword. -/
inductive Directive.Respells : Directive → Directive → Prop
  | keyword {d : Directive} {f : Form} {name : Text} (listed : f ∈ Form.all) (named : d.isNamed f.name = true)
      (same : name.sameLetters d.name = true) : Respells d { d with name }
  | style {d : Directive} {f : Form} {raw : Text} (listed : f ∈ Form.all) (named : d.isNamed f.name = true)
      (same : (Style.parse raw).flags.Perm (Style.parse (d.args.getD f.styleAt [])).flags) :
      Respells d (d.setArg f.styleAt raw)
  | extendedStyle {d : Directive} {f : Form} {raw : Text} (listed : f ∈ Form.all) (named : d.isNamed f.name = true) :
      Respells d (d.setArg (f.most - 1) raw)
  | defaultButton {d : Directive} {name : Text} (named : d.isNamed (lit "PUSHBUTTON") = true)
      (default : name.sameLetters (lit "DEFPUSHBUTTON") = true) : Respells d { d with name }

/-- What a diagnostic says apart from its words: how severe the problem is, which rule it breaks and where it is. -/
def Diagnostic.outline (x : Diagnostic) : Severity × Option Text × List Span :=
  (x.severity, x.code.map Code.text, x.labels.map (·.span))

/-- The same style but for the order of its flags. -/
def Style.Alike (s s' : Style) : Prop := s'.flags.Perm s.flags

/-- Elements of one kind that differ in the order of their flags alone, or in which button is the default. -/
inductive Element.Alike : Element → Element → Prop
  | label {text id : Text} {rect : Rect} {style style' : Style} {align : Align} (same : style.Alike style') :
      Alike (label text id rect style align) (label text id rect style' align)
  | comboBox {id : Text} {rect : Rect} {style style' : Style} (same : style.Alike style') :
      Alike (comboBox id rect style) (comboBox id rect style')
  | pushButton {text id : Text} {rect : Rect} {style style' : Style} {isDefault isDefault' : Bool}
      (same : style.Alike style') :
      Alike (pushButton text id rect style isDefault) (pushButton text id rect style' isDefault')
  | editText {id : Text} {rect : Rect} {style style' : Style} (same : style.Alike style') :
      Alike (editText id rect style) (editText id rect style')
  | control {text id windowClass : Text} {rect : Rect} {style style' : Style} (same : style.Alike style') :
      Alike (control text id windowClass rect style) (control text id windowClass rect style')

/-- The same keyword, or the two keywords of push buttons. -/
inductive Keyword.Alike : Keyword → Keyword → Prop
  | refl (k : Keyword) : Alike k k
  | defaultButton : Alike .pushButton .defPushButton

/-- Directives under keywords that are alike, with the same arguments but for the style, whose flags may change their
order, and the extended style. -/
structure Directive.Alike (d d' : Directive) (k k' : Keyword) : Prop where
  span : d'.span = d.span
  found : Keyword.ofName? d.name = some k
  found' : Keyword.ofName? d'.name = some k'
  keywords : k.Alike k'
  count : d'.args.length = d.args.length
  others : ∀ i, i ≠ k.schema.styleAt → i ≠ k.schema.fields.length - 1 → d'.args.getD i [] = d.args.getD i []
  style : (Style.parse (d.args.getD k.schema.styleAt [])).Alike (.parse (d'.args.getD k.schema.styleAt []))

/-! ## Elements -/

namespace Style.Alike

variable {s s' : Style}

theorem contains (same : s.Alike s') (flag : Text) : s'.contains flag = s.contains flag := by
  rw [Bool.eq_iff_iff, Style.contains, Style.contains, List.contains_iff_mem, List.contains_iff_mem]
  exact List.Perm.mem_iff same

theorem isVisible (same : s.Alike s') : s'.isVisible = s.isVisible := by
  rw [Style.isVisible, Style.isVisible, same.contains]

theorem isEditable (same : s.Alike s') : s'.isEditable = s.isEditable := by
  rw [Style.isEditable, Style.isEditable, same.contains]

theorem controlObject? (same : s.Alike s') (windowClass : Text) :
    controlObject? windowClass s' = DialogGrid.controlObject? windowClass s := by
  have flags : s'.flags.Perm s.flags := same
  have none : s'.flags = [] ↔ s.flags = [] :=
    ⟨fun h => List.nil_perm.mp (h ▸ flags), fun h => List.perm_nil.mp (h ▸ flags)⟩
  have single : ∀ flag, s'.flags = [flag] ↔ s.flags = [flag] := fun flag =>
    ⟨fun h => List.perm_singleton.mp (h ▸ flags.symm), fun h => List.perm_singleton.mp (h ▸ flags)⟩
  simp only [DialogGrid.controlObject?, same.contains, none, single]

end Style.Alike

namespace Element.Alike

variable {e e' : Element}

/-- Elements that are alike have the same widget. -/
theorem template? (alike : e.Alike e') : e'.template? = e.template? := by
  cases alike with
  | label same | comboBox same | pushButton same =>
    simp only [Element.template?, Element.isVisible, same.isVisible]
  | editText same => simp only [Element.template?, Element.isVisible, same.isVisible, same.isEditable]
  | control same => simp only [Element.template?, Element.isVisible, same.isVisible, same.controlObject?]

/-- Elements that are alike leave the same comment, and what is reported about them differs in words alone. -/
theorem replacement (alike : e.Alike e') (span : Span) :
    (e'.replacement span).alone.1 = (e.replacement span).alone.1 ∧
      (e'.replacement span).alone.2.map Diagnostic.outline = (e.replacement span).alone.2.map Diagnostic.outline := by
  cases alike with
  | control same => exact ⟨rfl, rfl⟩
  | _ => exact ⟨rfl, rfl⟩

end Element.Alike

/-! ## Keywords -/

namespace Keyword

private theorem sameLetters_of_ofName? {k : Keyword} {name : Text} (found : ofName? name = some k) :
    name.sameLetters k.name = true := by
  have holds := List.find?_some found
  exact holds

theorem Alike.schema {k k' : Keyword} (alike : k.Alike k') :
    k'.schema = k.schema ∧ k'.name.sameLetters (lit "COMBOBOX") = k.name.sameLetters (lit "COMBOBOX") := by
  cases alike with
  | refl => exact ⟨rfl, rfl⟩
  | defaultButton => exact ⟨rfl, by decide⟩

end Keyword

/-! ## Directives -/

namespace Directive

private theorem getD_setArg (d : Directive) (index i : Nat) (value : Text) :
    (d.setArg index value).args.getD i [] = if i = index ∧ i < d.args.length then value else d.args.getD i [] := by
  rw [setArg, List.getD_eq_getElem?_getD, List.getD_eq_getElem?_getD, List.getElem?_set]
  by_cases here : index = i
  · subst here
    by_cases inside : index < d.args.length
    · simp [inside]
    · simp [inside]
  · simp [here, Ne.symm here]

private theorem getD_setArg_of_ne (d : Directive) {index i : Nat} (apart : i ≠ index) (value : Text) :
    (d.setArg index value).args.getD i [] = d.args.getD i [] := by
  rw [getD_setArg, if_neg fun here => apart here.1]

private theorem exists_keyword {d : Directive} {f : Form} (listed : f ∈ Form.all) (named : d.isNamed f.name = true) :
    ∃ k : Keyword, k.Follows f ∧ Keyword.ofName? d.name = some k := by
  obtain ⟨k, follows⟩ := Keyword.exists_follows listed
  exact ⟨k, follows, Keyword.ofName?_of_sameLetters (by rw [follows.name]; exact named)⟩

theorem Alike.refl {d : Directive} {k : Keyword} (found : Keyword.ofName? d.name = some k) : d.Alike d k k where
  span := rfl
  found := found
  found' := found
  keywords := .refl k
  count := rfl
  others _ _ _ := rfl
  style := List.Perm.refl _

/-- A directive that is respelled is like the one before. -/
theorem Respells.alike {d d' : Directive} (respells : d.Respells d') : ∃ k k', d.Alike d' k k' := by
  cases respells with
  | @keyword f name listed named same =>
    obtain ⟨k, follows, found⟩ := exists_keyword listed named
    have found' : Keyword.ofName? name = some k := Keyword.ofName?_of_sameLetters
      ((Text.sameLetters_congr same k.name).trans (Keyword.sameLetters_of_ofName? found))
    exact ⟨k, k, { Alike.refl found with found' }⟩
  | @style f raw listed named same =>
    obtain ⟨k, follows, found⟩ := exists_keyword listed named
    refine ⟨k, k, rfl, found, found, .refl k, List.length_set, fun i notStyle _ => ?_, ?_⟩
    · rw [← follows.styleAt]
      exact d.getD_setArg_of_ne notStyle raw
    · rw [follows.styleAt, getD_setArg]
      split
      · exact same
      · exact List.Perm.refl _
  | @extendedStyle f raw listed named =>
    obtain ⟨k, follows, found⟩ := exists_keyword listed named
    have apart : k.schema.styleAt ≠ k.schema.fields.length - 1 := by cases k <;> decide
    refine ⟨k, k, rfl, found, found, .refl k, List.length_set, fun i _ notExtended => ?_, ?_⟩
    · rw [← follows.most]
      exact d.getD_setArg_of_ne notExtended raw
    · rw [← follows.most, d.getD_setArg_of_ne apart]
      exact List.Perm.refl _
  | @defaultButton name named default =>
    have found : Keyword.ofName? d.name = some .pushButton := Keyword.ofName?_of_sameLetters named
    have found' : Keyword.ofName? name = some .defPushButton := Keyword.ofName?_of_sameLetters default
    exact ⟨.pushButton, .defPushButton, { Alike.refl found with found', keywords := .defaultButton }⟩

end Directive

namespace Directive.Alike

variable {d d' : Directive} {k k' : Keyword}

theorem adjust (alike : d.Alike d' k k') (r : Ratios) :
    (Rules.adjust (standardRules r) d).Alike (Rules.adjust (standardRules r) d') k k' := by
  have named : d'.isNamed (lit "COMBOBOX") = d.isNamed (lit "COMBOBOX") :=
    calc d'.isNamed (lit "COMBOBOX")
      _ = k'.name.sameLetters (lit "COMBOBOX") :=
        Text.sameLetters_congr (Keyword.sameLetters_of_ofName? alike.found') _
      _ = k.name.sameLetters (lit "COMBOBOX") := alike.keywords.schema.2
      _ = d.isNamed (lit "COMBOBOX") :=
        (Text.sameLetters_congr (Keyword.sameLetters_of_ofName? alike.found) _).symm
  rw [adjust_standardRules, adjust_standardRules, named]
  split
  · have apart : k.schema.styleAt ≠ 4 := by cases k <;> decide
    refine ⟨alike.span, alike.found, alike.found', alike.keywords, ?_, fun i notStyle notExtended => ?_, ?_⟩
    · simpa [setArg] using alike.count
    · rw [getD_setArg, getD_setArg, alike.count, alike.others i notStyle notExtended]
    · rw [d.getD_setArg_of_ne apart, d'.getD_setArg_of_ne apart]
      exact alike.style
  · exact alike

theorem rect (alike : d.Alike d' k k') : k.schema.rect d'.args = k.schema.rect d.args := by
  have coordinate : ∀ i < 4, ∀ field,
      Schema.coordinate d'.args (k.schema.rectAt + i) field = Schema.coordinate d.args (k.schema.rectAt + i) field := by
    intro i inside field
    have apart : k.schema.rectAt + i ≠ k.schema.styleAt ∧ k.schema.rectAt + i ≠ k.schema.fields.length - 1 := by
      cases k <;> simp [Keyword.schema, Schema.ofText, Schema.ofId, Schema.ofControl] <;> omega
    rw [Schema.coordinate, Schema.coordinate, alike.others _ apart.1 apart.2]
  have first := coordinate 0 (by omega)
  rw [Nat.add_zero] at first
  simp only [Schema.rect, first, coordinate 1 (by omega), coordinate 2 (by omega), coordinate 3 (by omega)]

theorem element (alike : d.Alike d' k k') (r : Rect) {s s' : Style} (same : s.Alike s') :
    (k.element d.args r s).Alike (k'.element d'.args r s') := by
  have arg : ∀ i, i ≠ k.schema.styleAt ∧ i ≠ k.schema.fields.length - 1 → d'.args.getD i [] = d.args.getD i [] :=
    fun i other => alike.others i other.1 other.2
  cases alike.keywords with
  | defaultButton =>
    simp only [Keyword.element, arg 0 (by decide), arg 1 (by decide)]
    exact .pushButton same
  | refl =>
    cases k with
    | ltext | rtext | ctext =>
      simp only [Keyword.element, arg 0 (by decide), arg 1 (by decide)]
      exact .label same
    | pushButton | defPushButton =>
      simp only [Keyword.element, arg 0 (by decide), arg 1 (by decide)]
      exact .pushButton same
    | comboBox =>
      simp only [Keyword.element, arg 0 (by decide)]
      exact .comboBox same
    | editText =>
      simp only [Keyword.element, arg 0 (by decide)]
      exact .editText same
    | control =>
      simp only [Keyword.element, arg 0 (by decide), arg 1 (by decide), arg 2 (by decide)]
      exact .control same

/-- Directives that are alike break their schema in one way, or they are elements that are alike. -/
theorem ofDirective (alike : d.Alike d' k k') :
    Matching (fun e e' => e' = e) Element.Alike (Element.ofDirective d) (Element.ofDirective d') := by
  rw [Element.ofDirective, Element.ofDirective, alike.found, alike.found']
  dsimp only
  rw [alike.keywords.schema.1, alike.count, alike.rect]
  cases k.schema.checkCount d.args.length with
  | error e => exact rfl
  | ok _ =>
    cases k.schema.rect d.args with
    | error e => exact rfl
    | ok r => exact alike.element r alike.style

end Directive.Alike

namespace Builder

variable {b : Builder}

theorem place_alike {e e' : Element} (alike : e.Alike e') (span : Span) :
    (b.place e' span).alone.1 = (b.place e span).alone.1 ∧
      (b.place e' span).alone.2.map Diagnostic.outline = (b.place e span).alone.2.map Diagnostic.outline := by
  unfold place
  rw [alike.template?]
  cases e.template? with
  | none => exact alike.replacement span
  | some t => exact ⟨rfl, rfl⟩

theorem translate_alike (r : Ratios) (standard : b.rules = standardRules r) {d d' : Directive} {k k' : Keyword}
    (alike : d.Alike d' k k') :
    (b.translate d').alone.1 = (b.translate d).alone.1 ∧
      (b.translate d').alone.2.map Diagnostic.outline = (b.translate d).alone.2.map Diagnostic.outline := by
  have keeps : ∀ rule ∈ b.rules, rule.KeepsMarkup := standard ▸ standardRules_keepMarkup r
  have adjusted : (Rules.adjust b.rules d).Alike (Rules.adjust b.rules d') k k' := standard ▸ alike.adjust r
  have readings := adjusted.ofDirective
  cases read : Element.ofDirective (Rules.adjust b.rules d) with
  | error e =>
    rw [read] at readings
    cases read' : Element.ofDirective (Rules.adjust b.rules d') with
    | error e' =>
      rw [read'] at readings
      obtain rfl : e' = e := readings
      rw [alone_translate_of_error read, alone_translate_of_error read']
      refine ⟨rfl, ?_⟩
      cases e' <;> simp [Diagnostic.outline, SchemaError.diagnostic, SchemaError.diagnostic.argumentCount, adjusted.span]
    | ok e' =>
      rw [read'] at readings
      exact readings.elim
  | ok e =>
    rw [read] at readings
    obtain ⟨e', read', same⟩ := readings.exists_ok
    rw [alone_translate_of_ok read, alone_translate_of_ok read', Rules.adjustMarkup_eq keeps, Rules.adjustMarkup_eq keeps,
      adjusted.span]
    exact place_alike same _

/-- However often a directive is respelled, the standard rules let it leave the same markup, whatever the symbols and the
grid are and whatever was collected before, and the same is reported about it in the same places but for the words. -/
theorem translate_respelled (b : Builder) (r : Ratios) (standard : b.rules = standardRules r) {d d' : Directive}
    (respelled : Relation.ReflTransGen Directive.Respells d d') (collected : Collector) :
    let run (d : Directive) := (b.translate d).run collected
    (run d').1 = (run d).1 ∧
      ∃ reported reported', (run d).2.diagnostics = collected.diagnostics ++ reported ∧
        (run d').2.diagnostics = collected.diagnostics ++ reported' ∧
        reported'.map Diagnostic.outline = reported.map Diagnostic.outline := by
  intro run
  have same : (b.translate d').alone.1 = (b.translate d).alone.1 ∧
      (b.translate d').alone.2.map Diagnostic.outline = (b.translate d).alone.2.map Diagnostic.outline := by
    induction respelled with
    | refl => exact ⟨rfl, rfl⟩
    | tail _ last ih =>
      obtain ⟨k, k', alike⟩ := last.alike
      obtain ⟨markup, reported⟩ := translate_alike r standard alike
      exact ⟨markup.trans ih.1, reported.trans ih.2⟩
  obtain ⟨markup, diagnostics⟩ := b.independent_translate d collected
  obtain ⟨markup', diagnostics'⟩ := b.independent_translate d' collected
  exact ⟨(markup'.trans same.1).trans markup.symm, _, _, diagnostics, diagnostics', same.2⟩

/-- A check box in other letters, with its flags the other way round and an extended style of its own. -/
theorem translate_respelled_checkBox :
    let b : Builder := ⟨{}, lit "ID_", ⟨.finite 1 0, .finite 1 0, .finite 1 0⟩, standardRules {}⟩
    let box (name style extended : Text) : Directive :=
      ⟨name, [lit "\"Loop\"", lit "IDC_LOOP", lit "\"Button\"", style, lit "8", lit "6", lit "22", lit "8", extended],
        .ofBounds 3 9⟩
    let d := box (lit "CONTROL") (lit "BS_AUTOCHECKBOX | NOT WS_VISIBLE") (lit "0")
    let d' := box (lit "Control") (lit "NOT  WS_VISIBLE||BS_AUTOCHECKBOX") (lit "WS_EX_TRANSPARENT")
    b.rules = standardRules {} ∧ Relation.ReflTransGen Directive.Respells d d' ∧
      ((b.translate d').run .empty).1 = ((b.translate d).run .empty).1 := by
  intro b box d d'
  let f : Form := ⟨.control, lit "CONTROL", 8, 9, 4, 3⟩
  have listed : f ∈ Form.all := by decide
  have keyword : d.Respells (box (lit "Control") (lit "BS_AUTOCHECKBOX | NOT WS_VISIBLE") (lit "0")) :=
    .keyword listed (by decide) (by decide)
  have style : (box (lit "Control") (lit "BS_AUTOCHECKBOX | NOT WS_VISIBLE") (lit "0")).Respells
      (box (lit "Control") (lit "NOT  WS_VISIBLE||BS_AUTOCHECKBOX") (lit "0")) :=
    .style listed (by decide) (by decide)
  have extended : (box (lit "Control") (lit "NOT  WS_VISIBLE||BS_AUTOCHECKBOX") (lit "0")).Respells d' :=
    .extendedStyle listed (by decide)
  have respelled := (Relation.ReflTransGen.single keyword).tail style |>.tail extended
  obtain ⟨markup, -⟩ := translate_respelled b {} rfl respelled .empty
  exact ⟨rfl, respelled, markup⟩

end Builder

end DialogGrid
