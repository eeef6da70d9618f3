import DialogGrid.Proofs.Positions
import DialogGrid.Proofs.Results

/-!
# Labels

The labels of all that is reported about a script point at stretches of it (`Converter.reports_located`): those about
a dialog that is not found, those about directives, and those about assets.
-/

namespace DialogGrid

/-- A diagnostic whose labels all point at stretches of the script. -/
def Diagnostic.Located (source : Text) (d : Diagnostic) : Prop := ∀ l ∈ d.labels, l.span.Slices source

/-- A failure that carries the script itself, if any, with diagnostics that point at stretches of it. -/
def Failure.Located (source : Text) : Failure → Prop
  | script ds carried => carried = source ∧ ∀ d ∈ ds, d.Located source
  | _ => True

/-! ## Dialogs -/

/-- A dialog that is read takes up a stretch of the script, and why none is read is reported at such stretches. -/
theorem Dialog.ensures_parse (source : Text) (index : Nat) (wanted? : Option Text) :
    Ensures (fun e => e.diagnostic.Located source) (Dialog.Located source) (parse source index wanted?) := by
  have whole : source.IsBoundary source.byteSize := by
    have bound := Text.isBoundary_byteSize source []
    rwa [List.append_nil] at bound
  have incomplete : ∀ {line id} (keyword : Text),
      declaration? source (source.boundary index) wanted? = some (line, id) →
        (ReadError.incomplete keyword line source.byteSize).diagnostic.Located source := by
    intro line id keyword declared l member
    rcases List.mem_cons.mp member with rfl | second
    · exact Span.slices_empty whole
    · obtain rfl := List.mem_singleton.mp second
      exact (slice?_declaration declared).2
  refine ensures_iff.mpr ⟨fun d parsed => located_of_parse parsed, ?_⟩
  intro e failed
  unfold parse at failed
  dsimp only at failed
  split at failed
  · cases failed
    intro l member
    obtain rfl := List.mem_singleton.mp member
    exact Span.slices_empty (source.isBoundary_boundary index)
  · next line id declared =>
    split at failed
    · cases failed
      exact incomplete _ declared
    · split at failed
      · cases failed
        exact incomplete _ declared
      · cases failed

theorem Dialog.ensures_locate (source anchor : Text) :
    Ensures (fun e => e.diagnostic.Located source) (fun _ => True) (locate source anchor) := by
  unfold locate
  split
  · exact trivial
  · intro l member
    obtain rfl := List.mem_singleton.mp member
    have whole := Span.slices_append [] source []
    simpa using whole

/-! ## Fragments -/

/-- All that is reported about a directive points at the directive. -/
theorem Builder.span_fragment {b : Builder} (unplaced : ∀ rule ∈ b.rules, rule.Unplaced) (d : Directive) :
    ∀ x ∈ (b.fragment d).diagnostics, ∀ l ∈ x.labels, l.span = d.span := by
  -- Moving everything to where the directive stands already makes no difference.
  have still : d.moved (fun _ => d.span) = d := rfl
  have moved := fragment_moved (fun _ => d.span) unplaced d
  rw [still] at moved
  intro x reported l member
  rw [moved] at reported
  obtain ⟨y, -, rfl⟩ := List.mem_map.mp reported
  obtain ⟨k, -, rfl⟩ := List.mem_map.mp member
  rfl

/-! ## Assets -/

private theorem Text.exists_of_afterLast? {t needle after : Text} (found : t.afterLast? needle = some after) :
    ∃ front, t = front ++ after := by
  induction t with
  | nil =>
    unfold afterLast? at found
    split at found
    · cases found
      exact ⟨[], rfl⟩
    · cases found
  | cons c rest ih =>
    unfold afterLast? at found
    split at found
    · next later =>
      cases found
      obtain ⟨front, split⟩ := ih later
      exact ⟨c :: front, by rw [split]; rfl⟩
    · split at found
      · cases found
        exact ⟨(c :: rest).take needle.length, (List.take_append_drop _ _).symm⟩
      · cases found

/-- What holds of each result holds of those that are gathered, or else of the problems. -/
theorem Diagnostics.ensures_gather {α : Type} {failed : Diagnostic → Prop} {done : α → Prop}
    {results : List (Except Diagnostic α)} (each : ∀ result ∈ results, Ensures failed done result) :
    Ensures (fun ds => ∀ d ∈ ds, failed d) (fun as => ∀ a ∈ as, done a) (gather results) := by
  unfold gather
  split
  · intro a member
    obtain ⟨result, inside, success⟩ := List.mem_filterMap.mp member
    have holds := each result inside
    cases result with
    | error e => cases success
    | ok b =>
      cases success
      exact holds
  · intro d member
    obtain ⟨result, inside, problem⟩ := List.mem_filterMap.mp member
    have holds := each result inside
    cases result with
    | error e =>
      cases problem
      exact holds
    | ok b => cases problem

namespace Asset

private theorem exists_lineSpan (line : Line) :
    ∃ lead visible blank, line.text = lead ++ (visible ++ blank) ∧
      lineSpan line =
        .ofBounds (line.start + lead.byteSize) (line.start + lead.byteSize + visible.byteSize) := by
  obtain ⟨blank, trimmed, -⟩ := Text.exists_trimEnd_append line.text
  obtain ⟨lead, led⟩ := List.dropWhile_suffix isBlank (l := line.text.trimEnd)
  have visible : lead ++ line.text.trimEnd.trimStart = line.text.trimEnd := led
  have size := congrArg Text.byteSize visible
  rw [Text.byteSize_append] at size
  refine ⟨lead, line.text.trimEnd.trimStart, blank, ?_, ?_⟩
  · rw [← List.append_assoc, visible, trimmed]
  · unfold lineSpan
    dsimp only
    rw [← size, Nat.add_sub_cancel, Nat.add_assoc]

private theorem slices_lineSpan {source marker : Text} {line : Line} (member : line ∈ sectionLines source marker) :
    (lineSpan line).Slices source := by
  obtain ⟨front, whole⟩ : ∃ front, source = front ++ (source.afterLast? marker).getD source := by
    cases found : source.afterLast? marker with
    | none => exact ⟨[], rfl⟩
    | some after => exact Text.exists_of_afterLast? found
  unfold sectionLines at member
  dsimp only at member
  generalize (source.afterLast? marker).getD source = part at whole member
  have start : source.byteSize - part.byteSize = front.byteSize := by
    rw [whole, Text.byteSize_append, Nat.add_sub_cancel]
  rw [start] at member
  obtain ⟨a, b, split, begins, -, -⟩ := Text.exists_append_of_mem_lines front member
  obtain ⟨lead, visible, blank, text, span⟩ := exists_lineSpan line
  have slices := Span.slices_append (a ++ lead) visible (blank ++ b)
  have here : a ++ lead ++ (visible ++ (blank ++ b)) = source := by
    rw [whole, split, text]
    simp
  rwa [here, Text.byteSize_append, ← begins, ← span] at slices

private theorem ensures_read (line : Line) : Ensures (fun _ => True) (fun a => a.span = lineSpan line) (read line) := by
  unfold read
  dsimp only
  split
  · exact trivial
  · split
    · exact rfl
    · exact trivial

/-- The assets that a script lists, and the lines that list none, are stretches of the script. -/
theorem ensures_scan (source marker : Text) :
    Ensures (fun ds => ∀ d ∈ ds, d.Located source) (fun assets => ∀ a ∈ assets, a.span.Slices source)
      (scan source marker) := by
  refine Diagnostics.ensures_gather ?_
  intro result among
  obtain ⟨line, entry, rfl⟩ := List.mem_map.mp among
  have slices : (lineSpan line).Slices source := slices_lineSpan (List.mem_filter.mp entry).1
  have told : ∀ e, (EntryError.diagnostic (lineSpan line) e).Located source := by
    intro e l label
    cases e with
    | kind found name =>
      obtain rfl := List.mem_singleton.mp label
      exact slices
    | location name =>
      obtain rfl := List.mem_singleton.mp label
      exact slices
  have stands : Ensures (fun _ => True) (fun a => a.span.Slices source) (read line) := by
    have placed := ensures_iff.mp (ensures_read line)
    exact ensures_iff.mpr ⟨fun a done => (placed.1 a done).symm ▸ slices, placed.2⟩
  exact stands.mapError fun e _ => told e

end Asset

/-- An asset outside the source folder is reported at the line that lists it. -/
theorem Manifest.ensures_ofAssets {source : Text} (sourceFolder resourceFolder : Text) {assets : List Asset}
    (listed : ∀ a ∈ assets, a.span.Slices source) :
    Ensures (fun ds => ∀ d ∈ ds, d.Located source) (fun _ => True) (ofAssets sourceFolder resourceFolder assets) := by
  have each : ∀ result ∈ assets.map (entry sourceFolder),
      Ensures (Diagnostic.Located source) (fun _ => True) result := by
    intro result among
    obtain ⟨a, inside, rfl⟩ := List.mem_map.mp among
    unfold entry
    split
    · exact trivial
    · intro l label
      obtain rfl := List.mem_singleton.mp label
      exact listed a inside
  exact (Diagnostics.ensures_gather each).map fun _ _ => trivial

/-! ## Conversions -/

namespace Converter

/-- The dialog that is found is a stretch of the script, and why none is found is reported at such stretches. -/
theorem ensures_findDialog (c : Converter) (source : Text) :
    Ensures (Failure.Located source) (Dialog.Located source) (c.findDialog source) := by
  have carried : ∀ e : Dialog.ReadError, e.diagnostic.Located source →
      Failure.Located source (.script [e.diagnostic] source) :=
    fun e located => ⟨rfl, by simpa using located⟩
  unfold findDialog
  dsimp only
  cases c.config.dialog.anchor? with
  | none => exact (Dialog.ensures_parse source _ _).mapError carried
  | some anchor =>
    exact ((Dialog.ensures_locate source anchor).bind fun index _ => Dialog.ensures_parse source index _).mapError carried

theorem ensures_interfaceOf {c : Converter} (unplaced : ∀ rule ∈ c.rules, rule.Unplaced) {source : Text}
    {dialog : Dialog} (body : ∀ x ∈ dialog.body, x.span.Slices source) :
    Ensures (Failure.Located source) (fun r => ∀ w ∈ r.warnings, w.Located source) (c.interfaceOf source dialog) := by
  cases accepted : Grid.ofRatios c.config.ratios with
  | error e =>
    rw [interfaceOf, accepted]
    exact trivial
  | ok grid =>
    have report : ∀ x ∈ (dialog.body.map (c.builder grid).fragment).flatMap (·.diagnostics), x.Located source := by
      intro x reported l member
      rw [List.flatMap_map] at reported
      obtain ⟨d, inside, here⟩ := List.mem_flatMap.mp reported
      rw [Builder.span_fragment unplaced d x here l member]
      exact body d inside
    rw [c.interfaceOf_eq source dialog accepted]
    dsimp only
    split
    · exact ⟨rfl, report⟩
    · exact report

theorem ensures_manifestOf (c : Converter) (source : Text) :
    Ensures (Failure.Located source) (fun _ => True) (c.manifestOf source) :=
  ((Asset.ensures_scan source _).bind fun _ listed => Manifest.ensures_ofAssets _ _ listed).mapError
    fun _ located => ⟨rfl, located⟩

theorem ensures_convert {c : Converter} (unplaced : ∀ rule ∈ c.rules, rule.Unplaced) (source : Text) :
    Ensures (Failure.Located source) (fun r => ∀ w ∈ r.warnings, w.Located source) (c.convert source) :=
  (c.ensures_findDialog source).bind fun _ located =>
    ensures_interfaceOf unplaced fun x member => (located.body x member).1.span

/-- Whatever a script holds, all that is reported about it points at stretches of it, which begin and end between
characters. A dialog that is read from any byte on is such a stretch, and so are the directives of its body, which
stand in it one behind the other. The search for its declaration and the reading of directives look at such
stretches only: each can be cut out of the script by its bytes. -/
theorem reports_located (config : Configuration) (symbols : SymbolTable) (source : Text) :
    let c : Converter := { config, symbols }
    (∀ f, c.findDialog source = .error f → f.Located source) ∧
      (∀ f, c.convert source = .error f → f.Located source) ∧
      (∀ r, c.convert source = .ok r → ∀ w ∈ r.warnings, w.Located source) ∧
      (∀ f, c.manifestOf source = .error f → f.Located source) ∧
      ∀ (index : Nat) (wanted? : Option Text),
        let start := source.boundary index
        (∀ d, Dialog.parse source index wanted? = .ok d → d.Located source) ∧
          (∀ e, Dialog.parse source index wanted? = .error e → e.diagnostic.Located source) ∧
          Dialog.search? source start wanted? = some ((Dialog.declaration? source start wanted?).map
            fun (line, id) => (line.start, id)) ∧
          (∀ line id, Dialog.declaration? source start wanted? = some (line, id) →
            ∃ behind, source.slice? line.start source.byteSize = some behind ∧
              behind.takeWhile (· != '\n') = line.text) ∧
          ∀ n, let c := (fun c => c.next.2)^[n] (Cursor.ofOffset source index)
            source.slice? c.offset source.byteSize = some c.rest := by
  intro c
  obtain ⟨-, unfound⟩ := ensures_iff.mp (c.ensures_findDialog source)
  have unplaced : ∀ rule ∈ c.rules, rule.Unplaced := standardRules_unplaced config.ratios
  obtain ⟨warned, failed⟩ := ensures_iff.mp (ensures_convert unplaced source)
  obtain ⟨-, unlisted⟩ := ensures_iff.mp (c.ensures_manifestOf source)
  refine ⟨unfound, failed, warned, unlisted, ?_⟩
  intro index wanted? start
  obtain ⟨parsed, unparsed⟩ := ensures_iff.mp (Dialog.ensures_parse source index wanted?)
  refine ⟨parsed, unparsed, Dialog.search?_eq (source.isBoundary_boundary index) wanted?, ?_, ?_⟩
  · exact fun line id declared => (Dialog.slice?_declaration declared).1
  · exact fun n => ((Cursor.stands_ofByte source index).stands_iterate n).slice?

/-- A dialog among characters of two bytes, read from a byte inside the last of them. -/
theorem reports_located_umlauts :
    let source := lit "Ä\nA DIALOG\nBEGIN\nÜ\nEND\nü"
    ∃ d, Dialog.parse source 26 none = .ok d ∧ d.span = .ofBounds 3 24 ∧
      d.body.map (·.span) = [.ofBounds 18 20] ∧ d.Located source := by
  intro source
  obtain ⟨-, -, -, -, parses⟩ := reports_located {} {} source
  obtain ⟨located, -⟩ := parses 26 none
  have first : Cursor.next ⟨3, lit "A DIALOG\nBEGIN\nÜ\nEND\nü"⟩ =
      (some ⟨['A'], [lit "DIALOG"], .ofBounds 3 11⟩, ⟨12, lit "BEGIN\nÜ\nEND\nü"⟩) := by decide +kernel
  have second : Cursor.next ⟨12, lit "BEGIN\nÜ\nEND\nü"⟩ =
      (some ⟨lit "BEGIN", [], .ofBounds 12 17⟩, ⟨18, lit "Ü\nEND\nü"⟩) := by decide +kernel
  have third : Cursor.next ⟨18, lit "Ü\nEND\nü"⟩ =
      (some ⟨lit "Ü", [], .ofBounds 18 20⟩, ⟨21, lit "END\nü"⟩) := by decide +kernel
  have fourth : Cursor.next ⟨21, lit "END\nü"⟩ =
      (some ⟨lit "END", [], .ofBounds 21 24⟩, ⟨25, lit "ü"⟩) := by decide +kernel
  have start : Cursor.ofOffset source 3 = ⟨3, lit "A DIALOG\nBEGIN\nÜ\nEND\nü"⟩ := rfl
  have parsed : Dialog.parse source 26 none = .ok {
      id := ['A'], header := [(['A'], [lit "DIALOG"])], body := [⟨lit "Ü", [], .ofBounds 18 20⟩]
      span := .ofBounds 3 24 } := by
    refine Dialog.parse_eq_ok.mpr ⟨⟨3, lit "A DIALOG"⟩, [⟨['A'], [lit "DIALOG"], .ofBounds 3 11⟩],
      ⟨lit "BEGIN", [], .ofBounds 12 17⟩, ⟨lit "END", [], .ofBounds 21 24⟩, Cursor.directives ⟨25, lit "ü"⟩,
      by decide +kernel, ?_, ⟨by decide, by decide, by decide, by decide, by decide, by decide⟩⟩
    rw [start, Cursor.directives_of_next first, Cursor.directives_of_next second, Cursor.directives_of_next third,
      Cursor.directives_of_next fourth]
    rfl
  exact ⟨_, parsed, rfl, rfl, located _ parsed⟩

end Converter

end DialogGrid
