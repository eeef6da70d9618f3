import DialogGrid.Proofs.Assets
import DialogGrid.Proofs.LineEndings
import DialogGrid.Proofs.Positions
import DialogGrid.Proofs.Segments
import DialogGrid.Proofs.Shape

/-!
# What is reported about assets

A line that holds ` RCDATA ` behind the last marker lists an asset (`Asset.Entry`), or it is reported for its word or
for its location (`Asset.Misses`). One such line is enough to fail a scan, and then all of them are reported
(`Asset.scan_ok_iff`, `Asset.forall₂_misses`). Of the assets of a scan, those that lie outside the source folder are reported
in the same way (`Manifest.ofAssets_cases`).
-/

namespace DialogGrid

/-! ## Entries -/

namespace Asset

/-- A name, the word, and a location in quotes, once its escapes are decoded. -/
def Entry (t name location : Text) : Prop := ∃ rest, Worded t name rest ∧ Escape.decode rest.trim = location.inQuotes

/-- A line that lists an asset. -/
def IsEntry (line : Text) : Prop := ∃ name location, Entry line.trim name location

/-- The stretch of a script that a line takes up without the blanks around it. -/
inductive Stands (source : Text) (line : Line) : Span → Prop
  | intro {front leading trailing back : Text}
      (whole : source = front ++ (leading ++ (line.text.trim ++ (trailing ++ back))))
      (start : front.byteSize = line.start) (text : line.text = leading ++ (line.text.trim ++ trailing))
      (blanksBefore : leading.IsBlank) (blanksAfter : trailing.IsBlank) :
      Stands source line
        (.ofBounds (Text.byteSize (front ++ leading)) (Text.byteSize (front ++ (leading ++ line.text.trim))))

/-- The asset that a line of a script lists. -/
structure Lists (source : Text) (line : Line) (a : Asset) : Prop where
  entry : Entry line.text.trim a.name a.location
  stands : Stands source line a.span

/-- What is reported about a line of a script that lists no asset: the word is another one, or the location is not in
quotes. -/
inductive Misses (source : Text) (line : Line) (x : Diagnostic) : Prop
  | kind {span : Span} (stands : Stands source line span) (other : ∀ name rest, ¬ Worded line.text.trim name rest)
      (told : x.Reports .error (lit "E120") span)
  | location {span : Span} {name rest : Text} (stands : Stands source line span)
      (worded : Worded line.text.trim name rest) (told : x.Reports .error (lit "E121") span)

/-- The lines of the part of a script that is looked through which hold the word between two spaces. -/
def candidates (source part : Text) : List Line :=
  (part.lines (source.byteSize - part.byteSize)).filter fun line => lit " RCDATA " <:+: line.text

end Asset

/-- The line of a manifest for an asset below a folder. -/
def Manifest.FiledAs (sourceFolder : Text) (a : Asset) (file : Text) : Prop :=
  ∃ path, a.location = sourceFolder ++ path ∧
    file = lit "    <file alias=\"" ++ a.name ++ lit "\">" ++ path ++ lit "</file>\n"

/-! ## Texts -/

namespace Text

private theorem cutAt_cases (t : Text) (p : Char → Bool) :
    t.cutAt p = (t, []) ∨ ∃ a c b, t = a ++ c :: b ∧ (∀ d ∈ a, p d = false) ∧ p c = true ∧ t.cutAt p = (a, b) := by
  cases back : t.dropWhile (!p ·) with
  | nil =>
    have whole := List.takeWhile_append_dropWhile (p := (!p ·)) (l := t)
    rw [back, List.append_nil] at whole
    exact .inl (by rw [cutAt, whole, back]; rfl)
  | cons c b =>
    have cut : t.span (!p ·) = (t.takeWhile (!p ·), c :: b) := by rw [List.span_eq_takeWhile_dropWhile, back]
    obtain ⟨split, before, here⟩ := of_span_eq_cons cut
    exact .inr ⟨_, c, b, split, by simpa using before, by simpa using here, by rw [cutAt, back]; rfl⟩

private theorem exists_last_of_infix {t needle : Text} (found : needle <:+: t) :
    ∃ before after, t = before ++ (needle ++ after) ∧
      ∀ front back, t = front ++ (needle ++ back) → front.length ≤ before.length := by
  induction t with
  | nil =>
    obtain rfl := List.infix_nil.mp found
    refine ⟨[], [], rfl, fun front back split => ?_⟩
    rw [(List.append_eq_nil_iff.mp split.symm).1]
  | cons c rest ih =>
    by_cases later : needle <:+: rest
    · obtain ⟨before, after, split, last⟩ := ih later
      refine ⟨c :: before, after, by rw [split]; rfl, fun front back split' => ?_⟩
      cases front with
      | nil => exact Nat.zero_le _
      | cons d front => exact Nat.succ_le_succ (last front back (List.cons.inj split').2)
    · obtain ⟨after, split⟩ := (List.infix_cons_iff.mp found).resolve_right later
      refine ⟨[], after, split.symm, fun front back split' => ?_⟩
      cases front with
      | nil => exact Nat.le_refl _
      | cons d front => exact absurd ⟨front, back, (List.append_assoc ..).trans (List.cons.inj split').2.symm⟩ later

private theorem trim_stays (t : Text) : t.trim.trimStart = t.trim ∧ t.trim.trimEnd = t.trim := by
  have trimmed := t.trim_trim
  have start : t.trim.trimStart = t.trim := by
    cases shown : t.trim with
    | nil => rfl
    | cons c rest =>
      rw [shown] at trimmed
      simp [trimStart, visible_of_trim_eq trimmed]
  refine ⟨start, ?_⟩
  rw [trim, start] at trimmed
  exact trimmed

end Text

/-! ## Lines -/

namespace Asset

theorem exists_part (source marker : Text) : ∃ part, Part source marker part := by
  by_cases found : marker <:+: source
  · obtain ⟨before, after, whole, last⟩ := Text.exists_last_of_infix found
    exact ⟨after, .marked before whole last⟩
  · exact ⟨source, .unmarked found rfl⟩

private theorem Part.exists_front {source marker part : Text} (isPart : Part source marker part) :
    ∃ front, source = front ++ part := by
  cases isPart with
  | marked before whole last => exact ⟨before ++ marker, by rw [whole, List.append_assoc]⟩
  | unmarked absent whole => exact ⟨[], whole.symm⟩

private theorem Part.candidates_eq {source marker part : Text} (isPart : Part source marker part) :
    (sectionLines source marker).filter isEntryLine = candidates source part := by
  rw [isPart.sectionLines_eq, candidates]
  refine List.filter_congr fun line _ => ?_
  rw [Bool.eq_iff_iff, isEntryLine, Text.hasInfix_iff, decide_eq_true_iff]

private theorem stands_lineSpan {source front back : Text} {line : Line} (whole : source = front ++ (line.text ++ back))
    (start : front.byteSize = line.start) : Stands source line (lineSpan line) := by
  obtain ⟨leading, trailing, text, blanksBefore, blanksAfter⟩ := line.text.exists_trim_append
  obtain ⟨startStays, endStays⟩ := line.text.trim_stays
  have split : ∀ {leading trailing : Text}, line.text = leading ++ (line.text.trim ++ trailing) →
      source = front ++ (leading ++ (line.text.trim ++ (trailing ++ back))) := by
    intro leading trailing text
    rw [whole]
    conv => lhs; rw [text]
    simp only [List.append_assoc]
  rw [List.append_assoc] at text
  by_cases invisible : line.text.trim.IsBlank
  · -- All of the line is blank, and its span is the empty one at its start.
    have nothing : line.text.trim = [] := startStays.symm.trans (Text.trimStart_eq_nil invisible)
    have blank : line.text.IsBlank := by
      rw [text, nothing, List.nil_append]
      exact fun c member => (List.mem_append.mp member).elim (blanksBefore c) (blanksAfter c)
    have span : lineSpan line =
        .ofBounds (Text.byteSize (front ++ [])) (Text.byteSize (front ++ ([] ++ line.text.trim))) := by
      simp [lineSpan, Text.trimEnd_eq_nil blank, nothing, start]
    have alone : line.text = [] ++ (line.text.trim ++ line.text) := by
      rw [nothing]
      rfl
    rw [span]
    exact .intro (split alone) start alone .nil blank
  · have trimmed : line.text.trimEnd = leading ++ line.text.trim := by
      conv => lhs; rw [text]
      rw [← List.append_assoc, Text.trimEnd_append_blank _ blanksAfter, Text.trimEnd_append _ invisible, endStays]
    have span : lineSpan line = .ofBounds (Text.byteSize (front ++ leading))
        (Text.byteSize (front ++ (leading ++ line.text.trim))) := by
      rw [lineSpan, trimmed, Text.trimStart_append_blank _ blanksBefore, startStays]
      simp only [Text.byteSize_append, Nat.add_sub_cancel, start]
    rw [span]
    exact .intro (split text) start text blanksBefore blanksAfter

private theorem stands_candidate {source marker part : Text} (isPart : Part source marker part) {line : Line}
    (listed : line ∈ candidates source part) : Stands source line (lineSpan line) := by
  obtain ⟨front, rfl⟩ := isPart.exists_front
  have member := (List.mem_filter.mp listed).1
  rw [Text.byteSize_append, Nat.add_sub_cancel] at member
  obtain ⟨a, b, split, begins, -, -⟩ := Text.exists_append_of_mem_lines front member
  exact stands_lineSpan split begins.symm

/-! ## Reading a line -/

private theorem read_of_not_worded {line : Line} (other : ∀ name rest, ¬ Worded line.text.trim name rest) :
    ∃ kind name, read line = .error (.kind kind name) := by
  rw [read]
  dsimp only
  rcases line.text.trim.cutAt_cases (· == ' ') with cut | ⟨name, c, behind, text, before, here, cut⟩
  · rw [cut]
    exact ⟨[], line.text.trim, rfl⟩
  · rw [cut]
    dsimp only
    split
    · exact ⟨_, name, rfl⟩
    · next word =>
      have blanks : behind = behind.takeWhile isBlank ++ Text.trimStart behind := List.takeWhile_append_dropWhile.symm
      have blank : Text.IsBlank (behind.takeWhile isBlank) := fun c member => List.all_eq_true.mp List.all_takeWhile c member
      have single : ' ' ∉ name := fun space => by
        have apart := before ' ' space
        cases apart
      obtain ⟨rest, split, ends⟩ : ∃ rest, Text.trimStart behind = lit "RCDATA" ++ rest ∧
          ∀ c ∈ rest.head?, isBlank c = true := by
        rcases (Text.trimStart behind).cutAt_cases isBlank with all | ⟨kind, d, more, split, -, stop, found⟩
        · refine ⟨[], ?_, by simp⟩
          rw [all, not_not] at word
          rw [← word, List.append_nil]
        · refine ⟨d :: more, ?_, by simpa using stop⟩
          rw [found, not_not] at word
          rw [split, ← word]
      obtain rfl : c = ' ' := beq_iff_eq.mp here
      refine absurd ⟨behind.takeWhile isBlank, ?_, single, blank, ends⟩ (other name rest)
      rw [text, ← split, ← blanks]

/-- A line is read as the asset that it lists, or it is reported for its word or its location. -/
theorem read_cases (line : Line) :
    (∃ name location, Entry line.text.trim name location ∧ read line = .ok ⟨name, location, lineSpan line⟩) ∨
      ¬ IsEntry line.text ∧ ∃ e, read line = .error e ∧ ∀ {source : Text}, Stands source line (lineSpan line) →
        Misses source line (e.diagnostic (lineSpan line)) := by
  by_cases worded : ∃ name rest, Worded line.text.trim name rest
  · obtain ⟨name, rest, worded⟩ := worded
    have reads := read_of_worded worded
    cases quoted : (Escape.decode rest.trim).quoted? with
    | some location =>
      rw [quoted] at reads
      exact .inl ⟨name, location, ⟨rest, worded, Text.quoted?_eq_some_iff.mp quoted⟩, reads⟩
    | none =>
      rw [quoted] at reads
      refine .inr ⟨?_, _, reads, fun stands => .location stands worded ⟨rfl, rfl, rfl⟩⟩
      rintro ⟨name', location, rest', worded', inQuotes⟩
      have reads' := read_of_worded worded'
      rw [Text.quoted?_eq_some_iff.mpr inQuotes, reads] at reads'
      cases reads'
  · have other : ∀ name rest, ¬ Worded line.text.trim name rest := fun name rest here => worded ⟨name, rest, here⟩
    obtain ⟨kind, name, reads⟩ := read_of_not_worded other
    refine .inr ⟨?_, _, reads, fun stands => .kind stands other ⟨rfl, rfl, rfl⟩⟩
    rintro ⟨name', location, rest, here, -⟩
    exact other name' rest here

theorem isEntry_iff (line : Line) : IsEntry line.text ↔ ∃ a, ofLine line = .ok a := by
  rcases read_cases line with ⟨name, location, entry, reads⟩ | ⟨notEntry, e, reads, -⟩
  · rw [ofLine, reads]
    exact ⟨fun _ => ⟨_, rfl⟩, fun _ => ⟨name, location, entry⟩⟩
  · rw [ofLine, reads]
    refine ⟨fun entry => absurd entry notEntry, ?_⟩
    rintro ⟨a, ⟨⟩⟩

instance (line : Text) : Decidable (IsEntry line) :=
  decidable_of_iff ((ofLine ⟨0, line⟩).isOk = true) (by
    rw [isEntry_iff ⟨0, line⟩]
    cases ofLine ⟨0, line⟩ with
    | ok a => exact ⟨fun _ => ⟨a, rfl⟩, fun _ => rfl⟩
    | error e => exact ⟨nofun, nofun⟩)

/-! ## Scanning -/

section
variable {source marker part : Text}

private theorem Part.scan_eq (isPart : Part source marker part) :
    scan source marker = Diagnostics.gather ((candidates source part).map ofLine) := by
  rw [← isPart.candidates_eq]
  rfl

/-- A scan succeeds exactly if each line that is looked at lists an asset. -/
theorem scan_ok_iff (isPart : Part source marker part) :
    (∃ assets, scan source marker = .ok assets) ↔ ∀ line ∈ candidates source part, IsEntry line.text := by
  rw [isPart.scan_eq, Diagnostics.exists_gather_ok_iff]
  exact forall₂_congr fun line _ => (isEntry_iff line).symm

/-- Then it gives the assets, one for each line, in the order of the lines. -/
theorem forall₂_lists (isPart : Part source marker part) {assets : List Asset} (done : scan source marker = .ok assets) :
    List.Forall₂ (Lists source) (candidates source part) assets := by
  rw [isPart.scan_eq, Diagnostics.gather_eq_ok_iff] at done
  have placed := List.forall₂_and_left _ _ |>.mpr ⟨fun line listed => stands_candidate isPart listed, done⟩
  refine placed.imp fun line a ⟨stands, reads⟩ => ?_
  rcases read_cases line with ⟨name, location, entry, reads'⟩ | ⟨-, e, reads', -⟩
  · rw [ofLine, reads'] at reads
    cases reads
    exact ⟨entry, stands⟩
  · rw [ofLine, reads'] at reads
    cases reads

/-- Otherwise it reports the lines that list no asset, each of them once, in the order of the lines. -/
theorem forall₂_misses (isPart : Part source marker part) {ds : List Diagnostic} (failed : scan source marker = .error ds) :
    List.Forall₂ (Misses source) ((candidates source part).filter fun line => ¬ IsEntry line.text) ds := by
  have fails : ∀ line, decide (¬ IsEntry line.text) = true ↔ ∃ d, ofLine line = .error d := by
    intro line
    rw [decide_eq_true_iff, isEntry_iff]
    cases ofLine line with
    | ok a => simp
    | error d => simp
  rw [isPart.scan_eq, Diagnostics.gather_eq_error_iff fails] at failed
  have placed := List.forall₂_and_left _ _ |>.mpr
    ⟨fun line listed => stands_candidate isPart (List.mem_filter.mp listed).1, failed.2⟩
  refine placed.imp fun line d ⟨stands, reads⟩ => ?_
  rcases read_cases line with ⟨name, location, entry, reads'⟩ | ⟨-, e, reads', misses⟩
  · rw [ofLine, reads'] at reads
    cases reads
  · rw [ofLine, reads'] at reads
    cases reads
    exact misses stands

end

end Asset

/-! ## Manifests -/

namespace Manifest

private theorem entry_cases (sourceFolder : Text) (a : Asset) :
    (sourceFolder <+: a.location ∧ ∃ file, entry sourceFolder a = .ok file ∧ FiledAs sourceFolder a file) ∨
      ¬ sourceFolder <+: a.location ∧ ∃ d, entry sourceFolder a = .error d ∧ d.Reports .error (lit "E122") a.span := by
  by_cases inside : sourceFolder <+: a.location
  · obtain ⟨path, below⟩ := inside
    have listed := AssetLine.entry_read { name := a.name, path, escaped := [] } sourceFolder a.span
    dsimp only at listed
    rw [below] at listed
    exact .inl ⟨⟨path, below⟩, _, listed, path, below.symm, rfl⟩
  · have outside : a.location.dropLead? sourceFolder = none := by
      rw [Text.dropLead?, if_neg (inside ∘ List.isPrefixOf_iff_prefix.mp)]
    refine .inr ⟨inside, ?_⟩
    rw [entry, outside]
    exact ⟨_, rfl, rfl, rfl, rfl⟩

/-- The assets that lie outside a folder. -/
def outside (sourceFolder : Text) (assets : List Asset) : List Asset :=
  assets.filter fun a => ¬ sourceFolder <+: a.location

/-- The manifest of assets has one line for each of them, in order, unless some of them lie outside the source folder: then
these are reported, each of them once, in order. -/
theorem ofAssets_cases (sourceFolder resourceFolder : Text) (assets : List Asset) :
    (outside sourceFolder assets = [] ∧ ∃ files, ofAssets sourceFolder resourceFolder assets =
        .ok (markup resourceFolder files) ∧ List.Forall₂ (FiledAs sourceFolder) assets files) ∨
      outside sourceFolder assets ≠ [] ∧ ∃ ds, ofAssets sourceFolder resourceFolder assets = .error ds ∧
        List.Forall₂ (fun a d => d.Reports .error (lit "E122") a.span) (outside sourceFolder assets) ds := by
  have fails : ∀ a : Asset, decide (¬ sourceFolder <+: a.location) = true ↔ ∃ d, entry sourceFolder a = .error d := by
    intro a
    rw [decide_eq_true_iff]
    rcases entry_cases sourceFolder a with ⟨inside, file, done, -⟩ | ⟨outside, d, failed, -⟩
    · simp [inside, done]
    · simp [outside, failed]
  unfold ofAssets
  cases gathered : Diagnostics.gather (assets.map (entry sourceFolder)) with
  | ok files =>
    have each := Diagnostics.gather_eq_ok_iff.mp gathered
    refine .inl ⟨?_, files, rfl, each.imp fun a file done => ?_⟩
    · have all := Diagnostics.exists_gather_ok_iff.mp ⟨files, gathered⟩
      refine List.filter_eq_nil_iff.mpr fun a member => ?_
      rw [fails]
      rintro ⟨d, failed⟩
      obtain ⟨file, done⟩ := all a member
      cases done.symm.trans failed
    · rcases entry_cases sourceFolder a with ⟨-, file', done', listed⟩ | ⟨-, d, failed, -⟩
      · obtain rfl := Except.ok.inj (done'.symm.trans done)
        exact listed
      · cases failed.symm.trans done
  | error ds =>
    obtain ⟨nonempty, each⟩ := (Diagnostics.gather_eq_error_iff fails).mp gathered
    refine .inr ⟨?_, ds, rfl, each.imp fun a d failed => ?_⟩
    · intro none
      rw [show assets.filter _ = [] from none, List.forall₂_nil_left_iff] at each
      exact nonempty each
    · rcases entry_cases sourceFolder a with ⟨-, file, done, -⟩ | ⟨-, d', failed', told⟩
      · cases done.symm.trans failed
      · obtain rfl := Except.error.inj (failed'.symm.trans failed)
        exact told

end Manifest

namespace Converter

/-- In every script there is a part that is looked through for assets. If each of its lines with the word lists an asset, these
are the assets of the script, and the manifest has one line for each of them, or reports each of them that lies outside the
source folder. Otherwise each of these lines that lists no asset is reported, and nothing else is. All is told in order, and
with the stretch of the script that the line takes up without the blanks around it. -/
theorem manifestOf_reports (c : Converter) (source : Text) :
    let settings := c.config.assets
    let scanned := Asset.scan source settings.marker
    (∃ part, Asset.Part source settings.marker part) ∧
      ∀ part, Asset.Part source settings.marker part →
        let lines := Asset.candidates source part
        ((∃ assets, scanned = .ok assets) ↔ ∀ line ∈ lines, Asset.IsEntry line.text) ∧
        (∀ assets, scanned = .ok assets →
          let outside := Manifest.outside settings.sourceFolder assets
          List.Forall₂ (Asset.Lists source) lines assets ∧
            (outside = [] → ∃ files, c.manifestOf source = .ok (Manifest.lines settings.resourceFolder files).flatten ∧
              List.Forall₂ (Manifest.FiledAs settings.sourceFolder) assets files) ∧
            (outside ≠ [] → ∃ ds, c.manifestOf source = .error (.script ds source) ∧
              List.Forall₂ (fun a d => d.Reports .error (lit "E122") a.span) outside ds)) ∧
        ∀ ds, scanned = .error ds →
          List.Forall₂ (Asset.Misses source) (lines.filter fun line => ¬ Asset.IsEntry line.text) ds ∧
            c.manifestOf source = .error (.script ds source) := by
  intro settings scanned
  refine ⟨Asset.exists_part source settings.marker, fun part isPart => ?_⟩
  intro lines
  refine ⟨Asset.scan_ok_iff isPart, ?_, ?_⟩
  · intro assets done outside
    have unfolded : c.manifestOf source = (Manifest.ofAssets settings.sourceFolder settings.resourceFolder assets).mapError
        fun ds => .script ds source := by
      rw [manifestOf, show Asset.scan source c.config.assets.marker = .ok assets from done]
      rfl
    refine ⟨Asset.forall₂_lists isPart done, ?_, ?_⟩
    · intro none
      rcases Manifest.ofAssets_cases settings.sourceFolder settings.resourceFolder assets with
        ⟨-, files, made, listed⟩ | ⟨some, -⟩
      · refine ⟨files, ?_, listed⟩
        rw [unfolded, made, ← Manifest.markup_eq]
        rfl
      · exact absurd none some
    · intro some
      rcases Manifest.ofAssets_cases settings.sourceFolder settings.resourceFolder assets with
        ⟨none, -⟩ | ⟨-, ds, failed, told⟩
      · exact absurd none some
      · exact ⟨ds, by rw [unfolded, failed]; rfl, told⟩
  · intro ds failed
    refine ⟨Asset.forall₂_misses isPart failed, ?_⟩
    rw [manifestOf, show Asset.scan source c.config.assets.marker = .error ds from failed]
    rfl

/-- Two icons, and a line that mentions no asset: the icons are reported, and there is no manifest. -/
theorem manifestOf_reports_icons :
    let c : Converter := {}
    let source := lit "A ICON \"a\" RCDATA \n// comment\n\tB ICON RCDATA "
    Asset.Part source c.config.assets.marker source ∧ ∃ ds, c.manifestOf source = .error (.script ds source) ∧
      List.Forall₂ (Asset.Misses source) [⟨0, lit "A ICON \"a\" RCDATA "⟩, ⟨30, lit "\tB ICON RCDATA "⟩] ds := by
  intro c source
  have isPart : Asset.Part source c.config.assets.marker source := .unmarked (by decide +kernel) rfl
  have icons : (Asset.candidates source source).filter (fun line => ¬ Asset.IsEntry line.text) =
      [⟨0, lit "A ICON \"a\" RCDATA "⟩, ⟨30, lit "\tB ICON RCDATA "⟩] := by decide +kernel
  obtain ⟨-, tells⟩ := manifestOf_reports c source
  obtain ⟨succeeds, -, fails⟩ := tells source isPart
  cases scanned : Asset.scan source c.config.assets.marker with
  | ok assets =>
    have none : (Asset.candidates source source).filter (fun line => ¬ Asset.IsEntry line.text) = [] :=
      List.filter_eq_nil_iff.mpr fun line member => by simpa using succeeds.mp ⟨assets, scanned⟩ line member
    cases icons.symm.trans none
  | error ds =>
    obtain ⟨told, failed⟩ := fails ds scanned
    rw [icons] at told
    exact ⟨isPart, ds, failed, told⟩

end Converter

end DialogGrid
