import DialogGrid.Converter
import DialogGrid.Proofs.Results

/-!
# Reports of a conversion

The body directives of a dialog are translated one after another with one collector. No step
looks at what was collected before it or takes anything away (`Independent`), so the document
and the report of a whole body are those of its directives, each translated on its own
(`Independent.mapM`).
-/

namespace DialogGrid

/-! ## Steps that do not depend on what was collected -/

namespace Collecting

variable {α β : Type}

/-- A step that keeps all that was collected before, and whose result and reports are the ones it
has alone. -/
def Independent (step : Collecting α) : Prop :=
  ∀ collected : Collector,
    (step.run collected).1 = step.alone.1 ∧
      (step.run collected).2.diagnostics = collected.diagnostics ++ step.alone.2

private theorem alone_pure (a : α) : (pure a : Collecting α).alone = (a, []) := rfl

theorem independent_pure (a : α) : Independent (pure a : Collecting α) := by
  intro collected
  exact ⟨rfl, by rw [alone_pure, List.append_nil]; rfl⟩

private theorem independent_emit (d : Diagnostic) : Independent (emit d) := by
  intro collected
  exact ⟨rfl, rfl⟩

private theorem Independent.run_bind {step : Collecting α} {next : α → Collecting β} (first : Independent step)
    (second : ∀ a, Independent (next a)) (collected : Collector) :
    ((step >>= next).run collected).1 = (next step.alone.1).alone.1 ∧
      ((step >>= next).run collected).2.diagnostics =
        collected.diagnostics ++ (step.alone.2 ++ (next step.alone.1).alone.2) := by
  obtain ⟨result, reports⟩ := first collected
  obtain ⟨laterResult, laterReports⟩ := second (step.run collected).1 (step.run collected).2
  have unfolded : (step >>= next).run collected =
      (next (step.run collected).1).run (step.run collected).2 := rfl
  rw [unfolded, laterResult, laterReports, result, reports, List.append_assoc]
  exact ⟨rfl, rfl⟩

theorem Independent.alone_bind {step : Collecting α} {next : α → Collecting β} (first : Independent step)
    (second : ∀ a, Independent (next a)) :
    (step >>= next).alone =
      ((next step.alone.1).alone.1, step.alone.2 ++ (next step.alone.1).alone.2) := by
  obtain ⟨result, reports⟩ := first.run_bind second .empty
  exact Prod.ext result reports

theorem Independent.bind {step : Collecting α} {next : α → Collecting β} (first : Independent step)
    (second : ∀ a, Independent (next a)) : Independent (step >>= next) := by
  intro collected
  rw [first.alone_bind second]
  exact first.run_bind second collected

/-- Independent steps over a list: every result, and every report in the order of the list. -/
theorem Independent.mapM {step : α → Collecting β} (each : ∀ a, Independent (step a)) (as : List α) :
    Independent (as.mapM step) ∧
      (as.mapM step).alone = (as.map fun a => (step a).alone.1, as.flatMap fun a => (step a).alone.2) := by
  induction as with
  | nil =>
    rw [List.mapM_nil]
    exact ⟨independent_pure [], rfl⟩
  | cons a rest ih =>
    obtain ⟨restIndependent, restAlone⟩ := ih
    have last : ∀ b, Independent (rest.mapM step >>= fun bs => (pure (b :: bs) : Collecting (List β))) :=
      fun b => restIndependent.bind fun bs => independent_pure (b :: bs)
    rw [List.mapM_cons]
    refine ⟨(each a).bind last, ?_⟩
    rw [(each a).alone_bind last, restIndependent.alone_bind fun bs => independent_pure _, restAlone,
      alone_pure, List.append_nil]
    rfl

end Collecting

open Collecting

/-! ## Translation of a directive -/

theorem SymbolTable.independent_resolving (s : SymbolTable) (idLead name : Text) (span : Span) :
    Independent (s.resolving idLead name span) := by
  unfold SymbolTable.resolving
  split
  · exact independent_pure _
  · exact (independent_emit _).bind fun _ => independent_pure _

private theorem Element.independent_replacement (e : Element) (span : Span) : Independent (e.replacement span) := by
  cases e with
  | control text id windowClass rect style => exact (independent_emit _).bind fun _ => independent_pure _
  | unsupported name args => exact (independent_emit _).bind fun _ => independent_pure _
  | _ => exact independent_pure _

namespace Builder

theorem independent_place (b : Builder) (e : Element) (span : Span) : Independent (b.place e span) := by
  unfold place
  split
  · exact e.independent_replacement span
  · exact (b.symbols.independent_resolving _ _ span).bind fun _ => independent_pure _

theorem independent_translate (b : Builder) (d : Directive) : Independent (b.translate d) := by
  unfold translate
  dsimp only
  split
  · exact (independent_emit _).bind fun _ => independent_pure _
  · exact (b.independent_place _ _).bind fun _ => independent_pure _

/-- The markup of an element with a widget, and what is reported about it, once its identifier is resolved. -/
theorem alone_place_of_template {b : Builder} {e : Element} {t : Template} (template : e.template? = some t) (span : Span) :
    let resolved := b.symbols.resolve b.idLead t.id span
    let widget : Widget := ⟨t.objectClass, resolved.1, t.properties, t.items resolved.1, b.grid.cell t.rect⟩
    (b.place e span).alone = (widget.markup, resolved.2) := by
  unfold place
  rw [template]
  dsimp only
  rw [(b.symbols.independent_resolving _ _ span).alone_bind fun _ => independent_pure _, alone_pure, List.append_nil]
  rfl

theorem place_of_replacement {b : Builder} {e : Element} (none : e.template? = none) (span : Span) :
    b.place e span = e.replacement span := by
  rw [place, none]

theorem alone_translate_of_error {b : Builder} {d : Directive} {e : SchemaError}
    (read : Element.ofDirective (Rules.adjust b.rules d) = .error e) :
    (b.translate d).alone = ([], [e.diagnostic (Rules.adjust b.rules d)]) := by
  unfold translate
  dsimp only
  rw [read]
  rfl

/-- A directive that is read as an element leaves what the element does, and the rules have the last word. -/
theorem alone_translate_of_ok {b : Builder} {d : Directive} {e : Element}
    (read : Element.ofDirective (Rules.adjust b.rules d) = .ok e) :
    let adjusted := Rules.adjust b.rules d
    let placed := (b.place e adjusted.span).alone
    (b.translate d).alone = (Rules.adjustMarkup b.rules placed.1 adjusted, placed.2) := by
  unfold translate
  dsimp only
  rw [read]
  dsimp only
  rw [(b.independent_place _ _).alone_bind fun _ => independent_pure _, alone_pure, List.append_nil]

theorem fragment_eq (b : Builder) (d : Directive) : b.fragment d = ⟨(b.translate d).alone.1, (b.translate d).alone.2⟩ :=
  rfl

/-- The error of a directive that breaks its schema once the rules have adjusted it. -/
def schemaError? (b : Builder) (d : Directive) : Option Diagnostic :=
  match Element.ofDirective (Rules.adjust b.rules d) with
  | .error e => some (e.diagnostic (Rules.adjust b.rules d))
  | .ok _ => none

private theorem isError_of_mem_place (b : Builder) (e : Element) (span : Span) :
    ∀ d ∈ (b.place e span).alone.2, d.isError = false := by
  intro d reported
  cases template : e.template? with
  | none =>
    rw [place_of_replacement template] at reported
    cases e with
    | control text id windowClass rect style =>
      obtain rfl := List.mem_singleton.mp reported
      rfl
    | unsupported name args =>
      obtain rfl := List.mem_singleton.mp reported
      rfl
    | _ => cases reported
  | some t =>
    rw [alone_place_of_template template, SymbolTable.resolve] at reported
    unfold SymbolTable.resolving at reported
    cases known : b.symbols.get? t.id with
    | some value =>
      rw [known] at reported
      cases reported
    | none =>
      rw [known] at reported
      obtain rfl := List.mem_singleton.mp reported
      rfl

/-- A directive gives rise to one error if it breaks its schema, and to none otherwise. -/
theorem errors_fragment (b : Builder) (d : Directive) :
    (b.fragment d).diagnostics.filter Diagnostic.isError = (b.schemaError? d).toList := by
  rw [fragment_eq, schemaError?]
  cases read : Element.ofDirective (Rules.adjust b.rules d) with
  | error e =>
    rw [alone_translate_of_error read]
    cases e <;> rfl
  | ok element =>
    rw [alone_translate_of_ok read]
    simpa using b.isError_of_mem_place element (Rules.adjust b.rules d).span

/-- The errors about a body, in order: one for each directive that breaks its schema. -/
theorem errors_body (b : Builder) (body : List Directive) :
    ((body.map b.fragment).flatMap (·.diagnostics)).filter Diagnostic.isError = body.filterMap b.schemaError? := by
  induction body with
  | nil => rfl
  | cons d rest ih =>
    rw [List.map_cons, List.flatMap_cons, List.filter_append, ih, b.errors_fragment, List.filterMap_cons]
    cases b.schemaError? d <;> rfl

/-- The markup and the report of a body, from any collector on, are those of its directives. -/
theorem translate_body (b : Builder) (body : List Directive) (collected : Collector) :
    ((body.mapM b.translate).run collected).1 = (body.map b.fragment).map (·.markup) ∧
      ((body.mapM b.translate).run collected).2.diagnostics =
        collected.diagnostics ++ (body.map b.fragment).flatMap (·.diagnostics) := by
  obtain ⟨independent, alone⟩ := Independent.mapM b.independent_translate body
  have result := independent collected
  rw [alone] at result
  rw [List.map_map, List.flatMap_map]
  exact result

end Builder

/-! ## Conversion of a dialog -/

theorem Grid.ofRatios_default :
    Grid.ofRatios {} = .ok ⟨.finite 4503599627370496 (-49), .finite 4503599627370496 (-50),
      .finite 5629499534213120 (-44)⟩ :=
  toOption_eq_some.mp (by decide +kernel)

namespace Converter

/-- The conversion of a dialog whose grid is accepted, told by its directives one by one. -/
theorem interfaceOf_eq (c : Converter) (source : Text) (dialog : Dialog) {grid : Grid}
    (accepted : Grid.ofRatios c.config.ratios = .ok grid) :
    c.interfaceOf source dialog =
      let fragments := dialog.body.map (c.builder grid).fragment
      let report := fragments.flatMap (·.diagnostics)
      if Diagnostics.hasErrors report then .error (.script report source)
      else .ok ⟨documentMarkup (windowMarkup c.config.dialog.windowId dialog.caption?
        (fragments.map (·.markup))), report⟩ := by
  obtain ⟨markup, diagnostics⟩ := (c.builder grid).translate_body dialog.body .empty
  have finished := Collector.finish_eq ((dialog.body.mapM (c.builder grid).translate).run .empty).2
  rw [diagnostics] at finished
  have unfolded : c.interfaceOf source dialog =
      (((dialog.body.mapM (c.builder grid).translate).run .empty).2.finish.mapError fun ds => .script ds source) >>=
        fun warnings => .ok ⟨documentMarkup (windowMarkup c.config.dialog.windowId dialog.caption?
          ((dialog.body.mapM (c.builder grid).translate).run .empty).1), warnings⟩ := by
    unfold interfaceOf
    rw [accepted]
    rfl
  rw [unfolded, finished, markup, Diagnostics.settle, Collector.diagnostics_empty, List.nil_append]
  dsimp only
  split <;> rfl

/-- A dialog whose grid is accepted is converted exactly if no directive of its body, each taken
on its own, gives rise to an error. The document then holds their fragments in order, and the
report is in any case all their diagnostics in order, with one error for each directive that
breaks its schema. A body made of two parts gives the fragments and the report of the one and
then of the other. -/
theorem interfaceOf_reports (c : Converter) (source : Text) (dialog : Dialog) (grid : Grid)
    (accepted : Grid.ofRatios c.config.ratios = .ok grid) :
    let b := c.builder grid
    let fragments := dialog.body.map b.fragment
    let report := fragments.flatMap (·.diagnostics)
    let document := documentMarkup
      (windowMarkup c.config.dialog.windowId dialog.caption? (fragments.map (·.markup)))
    ((∃ conversion, c.interfaceOf source dialog = .ok conversion) ↔
        ∀ f ∈ fragments, ∀ d ∈ f.diagnostics, d.severity ≠ .error) ∧
      (∀ conversion, c.interfaceOf source dialog = .ok conversion → conversion = ⟨document, report⟩) ∧
      (∀ failure, c.interfaceOf source dialog = .error failure → failure = .script report source) ∧
      report.filter Diagnostic.isError = dialog.body.filterMap b.schemaError? ∧
      ∀ front back : List Directive,
        let run (body : List Directive) := (body.mapM b.translate).run .empty
        (run (front ++ back)).1 = (run front).1 ++ (run back).1 ∧
          (run (front ++ back)).2.diagnostics = (run front).2.diagnostics ++ (run back).2.diagnostics := by
  intro b fragments report document
  have outcome : c.interfaceOf source dialog =
      if Diagnostics.hasErrors report then .error (.script report source) else .ok ⟨document, report⟩ :=
    c.interfaceOf_eq source dialog accepted
  have errors : Diagnostics.hasErrors report = false ↔
      ∀ f ∈ fragments, ∀ d ∈ f.diagnostics, d.severity ≠ .error := by
    simp [report, Diagnostics.hasErrors, Diagnostic.isError]
  refine ⟨?_, ?_, ?_, b.errors_body dialog.body, ?_⟩
  · rw [outcome, ← errors]
    cases Diagnostics.hasErrors report <;> simp
  · intro conversion converted
    rw [outcome] at converted
    split at converted
    · cases converted
    · exact (Except.ok.inj converted).symm
  · intro failure refused
    rw [outcome] at refused
    split at refused
    · exact (Except.error.inj refused).symm
    · cases refused
  · intro front back run
    obtain ⟨frontMarkup, frontReport⟩ := b.translate_body front .empty
    obtain ⟨backMarkup, backReport⟩ := b.translate_body back .empty
    obtain ⟨wholeMarkup, wholeReport⟩ := b.translate_body (front ++ back) .empty
    show ((front ++ back).mapM b.translate |>.run .empty).1 = _ ∧ _
    rw [wholeMarkup, wholeReport, frontMarkup, frontReport, backMarkup, backReport]
    simp

/-- A body with a warning, a broken directive and another warning: all three are reported. -/
theorem interfaceOf_reports_mixed :
    let c : Converter := {}
    let grid : Grid := ⟨.finite 4503599627370496 (-49), .finite 4503599627370496 (-50), .finite 5629499534213120 (-44)⟩
    let place : Span := .ofBounds 0 0
    let label : Directive := ⟨lit "LTEXT", [lit "\"A\"", lit "IDC_A", lit "8", lit "6", lit "22", lit "8"], place⟩
    let dialog : Dialog := ⟨lit "IDD", [], [label, ⟨lit "COMBOBOX", [], place⟩, ⟨lit "ICON", [], place⟩], place⟩
    Grid.ofRatios c.config.ratios = .ok grid ∧
      ∃ report, c.interfaceOf [] dialog = .error (.script report []) ∧
        report.map (·.code) = [some .unknownSymbol, some .argumentCount, some .unsupported] := by
  intro c grid place label dialog
  have accepted : Grid.ofRatios c.config.ratios = .ok grid := Grid.ofRatios_default
  obtain ⟨converted, -, refused, -⟩ := interfaceOf_reports c [] dialog grid accepted
  cases outcome : c.interfaceOf [] dialog with
  | ok conversion =>
    have clean := converted.mp ⟨conversion, outcome⟩
    exact absurd clean (by decide +kernel)
  | error failure =>
    exact ⟨accepted, _, congrArg Except.error (refused failure outcome), by decide +kernel⟩

end Converter

end DialogGrid
