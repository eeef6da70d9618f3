import DialogGrid.Proofs.Report

/-!
# Moving a directive

Where a directive stands matters only for where the diagnostics about it point. A directive whose
span is moved in any way gives the same markup and the same diagnostics, with their labels moved
alike (`Builder.fragment_moved`), provided that no rule looks at spans.
-/

namespace DialogGrid

variable (move : Span → Span)

def Label.moved (l : Label) : Label := { l with span := move l.span }

def Diagnostic.moved (d : Diagnostic) : Diagnostic := { d with labels := d.labels.map (Label.moved move) }

def Directive.moved (d : Directive) : Directive := { d with span := move d.span }

def Fragment.moved (f : Fragment) : Fragment := { f with diagnostics := f.diagnostics.map (Diagnostic.moved move) }

/-! ## Rules -/

/-- A rule that does not look at spans. -/
structure Rule.Unplaced (rule : Rule) : Prop where
  applies : ∀ move d, rule.applies (d.moved move) = rule.applies d
  adjust : ∀ move d, rule.adjust (d.moved move) = (rule.adjust d).moved move
  adjustMarkup : ∀ markup move d, rule.adjustMarkup markup (d.moved move) = rule.adjustMarkup markup d

theorem standardRules_unplaced (r : Ratios) : ∀ rule ∈ standardRules r, rule.Unplaced := by
  intro rule member
  obtain rfl := List.mem_singleton.mp member
  exact ⟨fun _ _ => rfl, fun _ _ => rfl, fun _ _ _ => rfl⟩

namespace Rules

theorem adjust_moved {rules : List Rule} (unplaced : ∀ rule ∈ rules, rule.Unplaced) (d : Directive) :
    adjust rules (d.moved move) = (adjust rules d).moved move := by
  induction rules generalizing d with
  | nil => rfl
  | cons rule rest ih =>
    have later := ih fun r member => unplaced r (List.mem_cons_of_mem rule member)
    have first := unplaced rule List.mem_cons_self
    have unfolded : ∀ d, adjust (rule :: rest) d = adjust rest (if rule.applies d then rule.adjust d else d) :=
      fun _ => rfl
    rw [unfolded, unfolded, first.applies, first.adjust]
    split
    · exact later _
    · exact later _

theorem adjustMarkup_moved {rules : List Rule} (unplaced : ∀ rule ∈ rules, rule.Unplaced) (markup : Text)
    (d : Directive) : adjustMarkup rules markup (d.moved move) = adjustMarkup rules markup d := by
  induction rules generalizing markup with
  | nil => rfl
  | cons rule rest ih =>
    have later := ih fun r member => unplaced r (List.mem_cons_of_mem rule member)
    have first := unplaced rule List.mem_cons_self
    have unfolded : ∀ d, adjustMarkup (rule :: rest) markup d =
        adjustMarkup rest (if rule.applies d then rule.adjustMarkup markup d else markup) d := fun _ => rfl
    rw [unfolded, unfolded, first.applies, first.adjustMarkup, later]

end Rules

/-! ## Steps that report -/

namespace Collecting

variable {α β : Type}

/-- Two steps with one result, of which the second reports what the first does, but elsewhere. -/
def Moved (step step' : Collecting α) : Prop :=
  step'.alone = (step.alone.1, step.alone.2.map (Diagnostic.moved move))

theorem Moved.pure (a : α) : Moved move (Pure.pure a : Collecting α) (Pure.pure a) := rfl

theorem Moved.bind {step step' : Collecting α} {next next' : α → Collecting β} (first : Moved move step step')
    (second : ∀ a, Moved move (next a) (next' a)) (independent : Independent step ∧ Independent step')
    (independentNext : ∀ a, Independent (next a) ∧ Independent (next' a)) :
    Moved move (step >>= next) (step' >>= next') := by
  unfold Moved at first second ⊢
  rw [independent.1.alone_bind fun a => (independentNext a).1, independent.2.alone_bind fun a => (independentNext a).2,
    first, second, List.map_append]

end Collecting

open Collecting

/-! ## Translation of a directive -/

private theorem SymbolTable.resolving_moved (s : SymbolTable) (idLead name : Text) (span : Span) :
    Moved move (s.resolving idLead name span) (s.resolving idLead name (move span)) := by
  unfold SymbolTable.resolving
  split
  · exact .pure move _
  · exact rfl

private theorem Element.replacement_moved (e : Element) (span : Span) :
    Moved move (e.replacement span) (e.replacement (move span)) := by
  cases e <;> exact rfl

private theorem SchemaError.diagnostic_moved (e : SchemaError) (d : Directive) :
    e.diagnostic (d.moved move) = (e.diagnostic d).moved move := by
  cases e <;> rfl

namespace Builder

theorem place_moved (b : Builder) (e : Element) (span : Span) :
    Moved move (b.place e span) (b.place e (move span)) := by
  unfold place
  split
  · exact e.replacement_moved move span
  · next template _ =>
    exact (b.symbols.resolving_moved move b.idLead template.id span).bind move (fun _ => .pure move _)
      ⟨b.symbols.independent_resolving _ _ _, b.symbols.independent_resolving _ _ _⟩
      fun _ => ⟨independent_pure _, independent_pure _⟩

theorem translate_moved {b : Builder} (unplaced : ∀ rule ∈ b.rules, rule.Unplaced) (d : Directive) :
    Moved move (b.translate d) (b.translate (d.moved move)) := by
  unfold translate
  dsimp only
  rw [Rules.adjust_moved move unplaced]
  have same : Element.ofDirective ((Rules.adjust b.rules d).moved move) =
      Element.ofDirective (Rules.adjust b.rules d) := rfl
  rw [same]
  cases Element.ofDirective (Rules.adjust b.rules d) with
  | error e =>
    dsimp only
    rw [SchemaError.diagnostic_moved]
    exact rfl
  | ok element =>
    refine (b.place_moved move element _).bind move (fun markup => ?_)
      ⟨b.independent_place _ _, b.independent_place _ _⟩ fun _ => ⟨independent_pure _, independent_pure _⟩
    rw [Rules.adjustMarkup_moved move unplaced]
    exact .pure move _

/-- The fragment of a moved directive is the same, with its diagnostics moved. -/
theorem fragment_moved {b : Builder} (unplaced : ∀ rule ∈ b.rules, rule.Unplaced) (d : Directive) :
    b.fragment (d.moved move) = (b.fragment d).moved move := by
  have moved := translate_moved move unplaced d
  unfold Moved at moved
  rw [fragment, moved]
  rfl

end Builder

end DialogGrid
