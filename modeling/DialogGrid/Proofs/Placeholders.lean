import DialogGrid.Proofs.StandardRules

/-!
# Placeholders

What has no widget leaves a line that repeats its name or its window class, as they stand in the script. The line is a
comment exactly if that text has no two dashes next to each other (`isComment_between_iff`).
-/

namespace DialogGrid

/-- A comment. No two dashes are next to each other between its marks. -/
def IsComment (t : Text) : Prop := ∃ content, t = lit "<!--" ++ content ++ lit "-->" ∧ ¬ lit "--" <:+: content

private theorem isComment_iff (content : Text) :
    IsComment (lit "<!--" ++ content ++ lit "-->") ↔ ¬ lit "--" <:+: content := by
  constructor
  · rintro ⟨content', same, undashed⟩
    obtain rfl := List.append_cancel_left (List.append_cancel_right same)
    exact undashed
  · exact fun undashed => ⟨content, rfl, undashed⟩

theorem isComment_between_iff {front back : Text} (before : '-' ∉ front) (t : Text) (behind : '-' ∉ back) :
    IsComment (lit "<!-- " ++ front ++ t ++ (back ++ lit " -->")) ↔ ¬ lit "--" <:+: t := by
  have whole : lit "<!-- " ++ front ++ t ++ (back ++ lit " -->") =
      lit "<!--" ++ (' ' :: front ++ t ++ (back ++ [' '])) ++ lit "-->" := by
    simp only [List.append_assoc, List.cons_append]
    rfl
  rw [whole, isComment_iff, dashed_between_iff (by simpa using before) (by simpa using behind)]

/-! ## What is repeated -/

private theorem keepsMarkup_of_rules {rules : List Rule} {r : Ratios} (either : rules = standardRules r ∨ rules = []) :
    ∀ rule ∈ rules, rule.KeepsMarkup := by
  rcases either with rfl | rfl
  · exact standardRules_keepMarkup r
  · simp

private theorem adjust_keepsRepeated {rules : List Rule} {r : Ratios} (either : rules = standardRules r ∨ rules = [])
    (d : Directive) :
    (Rules.adjust rules d).name = d.name ∧ (Rules.adjust rules d).args.getD 2 [] = d.args.getD 2 [] := by
  rcases either with rfl | rfl
  · refine ⟨(standardRules_keepName r d).1, ?_⟩
    rw [List.getD_eq_getElem?_getD, List.getD_eq_getElem?_getD, getElem?_adjust_standardRules r d (by omega)]
  · exact ⟨rfl, rfl⟩

namespace Element

variable {d : Directive}

private theorem name_of_unsupported {name : Text} {args : List Text}
    (read : ofDirective d = .ok (.unsupported name args)) : name = d.name := by
  unfold ofDirective at read
  split at read
  · cases read
    rfl
  · next k _ =>
    obtain ⟨-, -, read⟩ := bind_eq_ok.mp read
    obtain ⟨rect, -, read⟩ := bind_eq_ok.mp read
    cases k <;> cases read

private theorem unquotes_of_control {text name windowClass : Text} {rect : Rect} {style : Style}
    (read : ofDirective d = .ok (.control text name windowClass rect style)) :
    (d.args.getD 2 []).Unquotes windowClass := by
  unfold ofDirective at read
  split at read
  · cases read
  · next k _ =>
    obtain ⟨-, -, read⟩ := bind_eq_ok.mp read
    obtain ⟨rect, -, read⟩ := bind_eq_ok.mp read
    cases k with
    | control =>
      cases read
      exact Text.unquotes_unquote _
    | _ => cases read

end Element

namespace Builder

variable {b : Builder}

/-- Where the warning about an unsupported name is reported, and that about a control without a widget. -/
private theorem Becomes.placeholder_of_code {span : Span} {outcome : Outcome} {read : Except Diagnostic Element}
    {markup : Text} {reported : List Diagnostic} (becomes : b.Becomes span outcome read markup reported)
    {problem : Diagnostic} (member : problem ∈ reported) :
    (problem.code.map Code.text = some (lit "W003") → ∃ name args, read = .ok (.unsupported name args) ∧
        markup = markupLine 8 (lit "<!-- UNSUPPORTED ELEMENT <" ++ name ++ lit "> -->")) ∧
      (problem.code.map Code.text = some (lit "W002") → ∃ text name windowClass rect style,
        read = .ok (.control text name windowClass rect style) ∧
          markup = markupLine 8 (lit "<!-- UNSUPPORTED CONTROL STYLE OF '" ++ windowClass ++ lit "' -->")) := by
  have other : ∀ {severity : Severity} {code : Text}, problem.Reports severity code span →
      code ≠ lit "W003" ∧ code ≠ lit "W002" →
      problem.code.map Code.text ≠ some (lit "W003") ∧ problem.code.map Code.text ≠ some (lit "W002") := by
    intro severity code told apart
    rw [told.code]
    simpa using apart
  cases becomes with
  | broken told =>
    obtain rfl := List.mem_singleton.mp member
    have none := told.elim (fun count => other count (by decide)) fun coordinate => other coordinate (by decide)
    exact ⟨fun code => absurd code none.1, fun code => absurd code none.2⟩
  | unsupported told =>
    obtain rfl := List.mem_singleton.mp member
    refine ⟨fun _ => ⟨_, _, rfl, rfl⟩, fun code => ?_⟩
    exact absurd (Option.some.inj (told.code.symm.trans code)) (by decide)
  | noWidget none told =>
    obtain rfl := List.mem_singleton.mp member
    refine ⟨fun code => ?_, fun _ => ⟨_, _, _, _, _, rfl, rfl⟩⟩
    exact absurd (Option.some.inj (told.code.symm.trans code)) (by decide)
  | widget shown identified =>
    cases identified with
    | known defined => cases member
    | unknown undefined told =>
      obtain rfl := List.mem_singleton.mp member
      have none := other told (by decide)
      exact ⟨fun code => absurd code none.1, fun code => absurd code none.2⟩

/-- A directive that is replaced because of its name or because of its window class leaves one line. It is a comment
exactly if that name or class, whose quotes are taken off, has no two dashes next to each other. -/
theorem translate_placeholder (b : Builder) (r : Ratios) (rules : b.rules = standardRules r ∨ b.rules = []) (d : Directive)
    (collected : Collector) :
    let run := (b.translate d).run collected
    ∃ reported, run.2.diagnostics = collected.diagnostics ++ reported ∧ ∀ problem ∈ reported,
      (problem.code.map Code.text = some (lit "W003") →
        ∃ comment, run.1 = markupLine 8 comment ∧ comment = lit "<!-- UNSUPPORTED ELEMENT <" ++ d.name ++ lit "> -->" ∧
          (IsComment comment ↔ ¬ lit "--" <:+: d.name)) ∧
      (problem.code.map Code.text = some (lit "W002") →
        ∃ windowClass comment, (d.args.getD 2 []).Unquotes windowClass ∧ run.1 = markupLine 8 comment ∧
          comment = lit "<!-- UNSUPPORTED CONTROL STYLE OF '" ++ windowClass ++ lit "' -->" ∧
          (IsComment comment ↔ ¬ lit "--" <:+: windowClass)) := by
  intro run
  obtain ⟨markup, diagnostics⟩ := b.independent_translate d collected
  obtain ⟨name, windowClass⟩ := adjust_keepsRepeated rules d
  obtain ⟨outcome, becomes⟩ := becomes_translate (keepsMarkup_of_rules rules) d
  refine ⟨_, diagnostics, fun problem member => ?_⟩
  obtain ⟨unsupported, noWidget⟩ := becomes.placeholder_of_code member
  constructor
  · intro code
    obtain ⟨name', args, read, shown⟩ := unsupported code
    obtain rfl := (Element.name_of_unsupported (mapError_eq_ok.mp read)).trans name
    have before : '-' ∉ lit "UNSUPPORTED ELEMENT <" := by decide
    have behind : '-' ∉ lit ">" := by decide
    exact ⟨_, markup.trans shown, rfl, isComment_between_iff before d.name behind⟩
  · intro code
    obtain ⟨text, id, windowClass', rect, style, read, shown⟩ := noWidget code
    have unquotes := Element.unquotes_of_control (mapError_eq_ok.mp read)
    rw [windowClass] at unquotes
    have before : '-' ∉ lit "UNSUPPORTED CONTROL STYLE OF '" := by decide
    have behind : '-' ∉ lit "'" := by decide
    exact ⟨windowClass', _, unquotes, markup.trans shown, rfl, isComment_between_iff before windowClass' behind⟩

/-- A line of dashes is no directive, and what stands in for it is no comment. -/
theorem translate_placeholder_dashes :
    let b : Builder := ⟨{}, lit "ID_", ⟨.finite 1 0, .finite 1 0, .finite 1 0⟩, []⟩
    let d : Directive := ⟨lit "//----", [lit "Options"], .ofBounds 0 14⟩
    b.rules = [] ∧ ∃ comment, ((b.translate d).run .empty).1 = markupLine 8 comment ∧
      comment = lit "<!-- UNSUPPORTED ELEMENT <//----> -->" ∧ ¬ IsComment comment := by
  intro b d
  obtain ⟨reported, diagnostics, each⟩ := translate_placeholder b {} (.inr rfl) d .empty
  have codes : ((b.translate d).run .empty).2.diagnostics.map (·.code) = [some .unsupported] := by decide
  rw [diagnostics, Collector.diagnostics_empty, List.nil_append] at codes
  obtain ⟨problem, rfl, code⟩ := List.map_eq_singleton_iff.mp codes
  obtain ⟨unsupported, -⟩ := each problem List.mem_cons_self
  obtain ⟨comment, shown, repeated, isComment⟩ := unsupported (by rw [code]; rfl)
  have dashed : lit "--" <:+: d.name := by decide
  exact ⟨rfl, comment, shown, repeated, fun holds => isComment.mp holds dashed⟩

end Builder

end DialogGrid
