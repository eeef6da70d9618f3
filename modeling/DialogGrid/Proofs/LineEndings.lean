import DialogGrid.Proofs.CarriageReturns
import DialogGrid.Proofs.Relocation
import DialogGrid.Proofs.RoundTrip

/-!
# Line endings

A script converts alike with line feeds and with carriage returns before them: the document and
the manifest are the same, and so are the diagnostics, which point at the same places
(`Converter.convert_crlf`). Each way of reading a script is followed on both texts: the anchor and
the marker, the lines, and the directives from a position on.
-/

namespace DialogGrid

/-! ## Directives -/

namespace ArgumentList

/-- The list as it is read with the carriage returns put in: they belong to no piece. -/
def crlf (l : ArgumentList) : ArgumentList := ⟨l.pieces, Text.crlf l.read, Text.crlf l.rest⟩

private theorem crlf_push {c : Char} (l : ArgumentList) (other : c ≠ '\n') : (l.push c).crlf = l.crlf.push c := by
  simp [crlf, push, Text.crlf_cons _ other]

private theorem crlf_separate (l : ArgumentList) : l.separate.crlf = l.crlf.separate := by
  simp [crlf, separate, Text.crlf_cons]

theorem scan_crlf {t : Text} (noReturn : '\r' ∉ t) (quoted separated : Bool) :
    scan quoted separated (Text.crlf t) = (scan quoted separated t).crlf := by
  induction t generalizing quoted separated with
  | nil => rfl
  | cons c rest ih =>
    rw [List.mem_cons, not_or] at noReturn
    have ih := ih noReturn.2
    by_cases feed : c = '\n'
    · subst feed
      rw [Text.crlf_feed, scan_return]
      cases separated with
      | false => rfl
      | true =>
        have pushed : ∀ t, scan quoted true ('\n' :: t) = (scan quoted false t).push '\n' := by
          intro t
          rw [scan_inner (by simp) (by decide) (by simp)]
          simp
        rw [pushed, pushed, ih]
        rfl
    · have unended : ¬ (c = '\n' ∧ separated = false) := fun ended => feed ended.1
      have notReturn : ¬ c = '\r' := Ne.symm noReturn.1
      rw [Text.crlf_cons rest feed, scan, scan, if_neg unended, if_neg unended, if_neg notReturn, if_neg notReturn]
      split
      · rw [ih, crlf_separate]
      · rw [ih, crlf_push _ feed]

end ArgumentList

theorem lineEnd?_crlf {t : Text} (noReturn : '\r' ∉ t) :
    lineEnd? (Text.crlf t) = (lineEnd? t).map fun (read, rest) => (Text.crlf read, Text.crlf rest) := by
  have whole := List.takeWhile_append_dropWhile (p := fun c => c == ' ' || c == '\t') (l := t)
  have inline : Inline (t.takeWhile fun c => c == ' ' || c == '\t') := by
    intro c member
    simpa using List.all_eq_true.mp List.all_takeWhile c member
  have stop := List.head?_dropWhile_not (fun c => c == ' ' || c == '\t') t
  generalize t.takeWhile (fun c => c == ' ' || c == '\t') = blanks at whole inline
  generalize t.dropWhile (fun c => c == ' ' || c == '\t') = behind at whole stop
  subst whole
  have kept : Text.crlf blanks = blanks := Text.crlf_eq_self fun feed => by
    rcases inline _ feed with space | tab
    · cases space
    · cases tab
  rw [Text.crlf_append, kept]
  cases behind with
  | nil =>
    have ended := lineEnd?_blanks none [] inline fun _ => rfl
    simp only [LineBreak.optional, Option.elim_none, List.append_nil] at ended
    have nothing : Text.crlf [] = [] := rfl
    rw [nothing, List.append_nil, ended, Option.map_some]
    dsimp only
    rw [kept]
    rfl
  | cons c rest =>
    by_cases feed : c = '\n'
    · subst feed
      have lf := lineEnd?_blanks (some .lf) rest inline (by simp)
      have crlf := lineEnd?_blanks (some .crlf) (Text.crlf rest) inline (by simp)
      simp only [LineBreak.optional, Option.elim_some, LineBreak.text, List.cons_append, List.nil_append] at lf crlf
      rw [Text.crlf_feed, lf, crlf, Option.map_some]
      dsimp only
      rw [Text.crlf_append, kept]
      rfl
    · have ongoing : isGap c = false := by
        have notReturn : c ≠ '\r' := fun isReturn => noReturn (by simp [isReturn])
        simp_all [isGap]
      rw [Text.crlf_cons rest feed, lineEnd?_eq_none inline ongoing, lineEnd?_eq_none inline ongoing]
      rfl

/-! ### Positions -/

/-- The span with both of its ends relocated. -/
def Span.relocated (source : Text) (s : Span) : Span where
  start := source.relocated s.start
  stop := source.relocated s.stop
  start_le_stop := source.relocated_le_iff.mpr s.start_le_stop

private theorem Span.relocated_ofBounds (source : Text) (start stop : Nat) :
    (Span.ofBounds start stop).relocated source =
      .ofBounds (source.relocated start) (source.relocated stop) := by
  apply Span.ext
  · rfl
  · show source.relocated (max start stop) = max (source.relocated start) (source.relocated stop)
    rcases Nat.le_total start stop with ordered | ordered
    · rw [Nat.max_eq_right ordered, Nat.max_eq_right (source.relocated_le_iff.mpr ordered)]
    · rw [Nat.max_eq_left ordered, Nat.max_eq_left (source.relocated_le_iff.mpr ordered)]

namespace Cursor

/-- A reading position of a text. -/
def Stands (source : Text) (c : Cursor) : Prop := ∃ front, source = front ++ c.rest ∧ c.offset = front.byteSize

/-- The same position once the carriage returns are put in. -/
def crlf (source : Text) (c : Cursor) : Cursor := ⟨source.relocated c.offset, Text.crlf c.rest⟩

variable {source : Text} {c : Cursor}

private theorem Stands.relocated_add {read rest : Text} (stands : c.Stands source) (split : read ++ rest = c.rest) :
    source.relocated (c.offset + read.byteSize) = source.relocated c.offset + (Text.crlf read).byteSize := by
  obtain ⟨front, whole, offset⟩ := stands
  have here := Text.relocated_byteSize front c.rest
  have there := Text.relocated_byteSize (front ++ read) rest
  rw [← whole] at here
  rw [List.append_assoc, split, ← whole, Text.byteSize_append, Text.crlf_append, Text.byteSize_append] at there
  rw [offset, here, there]

theorem Stands.forward {read rest : Text} (stands : c.Stands source) (split : read ++ rest = c.rest) :
    (c.forward read rest).Stands source := by
  obtain ⟨front, whole, offset⟩ := stands
  refine ⟨front ++ read, ?_, ?_⟩
  · show source = front ++ read ++ rest
    rw [List.append_assoc, split, whole]
  · rw [Cursor.forward, offset, Text.byteSize_append]

private theorem Stands.forward_crlf {read rest : Text} (stands : c.Stands source) (split : read ++ rest = c.rest) :
    (c.crlf source).forward (Text.crlf read) (Text.crlf rest) = (c.forward read rest).crlf source := by
  rw [Cursor.forward, Cursor.forward, crlf, crlf, stands.relocated_add split]

private theorem Stands.noReturn (stands : c.Stands source) (noReturn : '\r' ∉ source) : '\r' ∉ c.rest := by
  obtain ⟨front, whole, -⟩ := stands
  rw [whole, List.mem_append, not_or] at noReturn
  exact noReturn.2

/-! ### Reading from a position on -/

private theorem Stands.skipGap (stands : c.Stands source) :
    c.skipGap.Stands source ∧ (c.crlf source).skipGap = c.skipGap.crlf source := by
  have whole := List.takeWhile_append_dropWhile (p := isGap) (l := c.rest)
  refine ⟨stands.forward whole, ?_⟩
  have moved := stands.forward_crlf whole
  rw [← Text.takeWhile_crlf rfl, ← Text.dropWhile_crlf rfl] at moved
  exact moved

/-- What is read for the arguments of a directive, and where its last visible character stands. -/
theorem Stands.arguments {read rest : Text} (stands : c.Stands source) (split : read ++ rest = c.rest) (start : Nat) :
    (Span.ofBounds start (c.offset + read.trimEnd.byteSize)).relocated source =
      .ofBounds (source.relocated start) ((c.crlf source).offset + Text.byteSize (Text.crlf read).trimEnd) := by
  obtain ⟨blank, trimmed, -⟩ := Text.exists_trimEnd_append read
  have visible : read.trimEnd ++ (blank ++ rest) = c.rest := by
    rw [← List.append_assoc, trimmed, split]
  rw [Span.relocated_ofBounds, stands.relocated_add visible, Text.trimEnd_crlf]
  rfl

/-- The directive at a position is the same, and so is the position behind it. -/
theorem Stands.read? (stands : c.Stands source) (noReturn : '\r' ∉ source) :
    (c.crlf source).read? =
        c.read?.map (fun (d, after) => (d.moved (Span.relocated source), after.crlf source)) ∧
      ∀ d after, c.read? = some (d, after) → after.Stands source := by
  have whole := List.takeWhile_append_dropWhile (p := (!isBlank ·)) (l := c.rest)
  -- A name holds no line feed, so it is one text in both scripts.
  have oneLine : '\n' ∉ c.rest.takeWhile (!isBlank ·) := fun feed =>
    absurd (List.all_eq_true.mp List.all_takeWhile _ feed) (by decide)
  have restEq : (c.crlf source).rest = Text.crlf c.rest := rfl
  rw [Cursor.read?, Cursor.read?, restEq, Text.takeWhile_crlf rfl, Text.dropWhile_crlf rfl,
    Text.crlf_eq_self oneLine]
  generalize c.rest.takeWhile (!isBlank ·) = name at whole oneLine
  generalize c.rest.dropWhile (!isBlank ·) = rest at whole
  have named := stands.forward whole
  have namedCrlf := stands.forward_crlf whole
  rw [Text.crlf_eq_self oneLine] at namedCrlf
  have noReturn' : '\r' ∉ rest := named.noReturn noReturn
  dsimp only
  rw [namedCrlf, lineEnd?_crlf noReturn', ArgumentList.scan_crlf noReturn']
  by_cases nothing : name = []
  · simp [nothing]
  · rw [if_neg nothing, if_neg nothing]
    cases ended : lineEnd? rest with
    | some line =>
      obtain ⟨read, behind⟩ := line
      have split := lineEnd?_append ended
      refine ⟨?_, ?_⟩
      · have span := Span.relocated_ofBounds source c.offset (c.forward name rest).offset
        simp only [Option.map_some, named.forward_crlf split, Directive.moved, span]
        rfl
      · intro d after found
        obtain ⟨-, rfl⟩ := Prod.mk.inj (Option.some.inj found)
        exact named.forward split
    | none =>
      have split := ArgumentList.read_append_rest false false rest
      refine ⟨?_, ?_⟩
      · have span := named.arguments split c.offset
        simp only [Option.map_none, Option.map_some, Directive.moved, span, ← named.forward_crlf split]
        rfl
      · intro d after found
        obtain ⟨-, rfl⟩ := Prod.mk.inj (Option.some.inj found)
        exact named.forward split

theorem Stands.next (stands : c.Stands source) (noReturn : '\r' ∉ source) :
    (c.crlf source).next = (c.next.1.map (Directive.moved (Span.relocated source)), c.next.2.crlf source) ∧
      c.next.2.Stands source := by
  obtain ⟨gap, gapCrlf⟩ := stands.skipGap
  obtain ⟨readCrlf, behind⟩ := gap.read? noReturn
  rw [Cursor.next, Cursor.next, gapCrlf, readCrlf]
  cases found : c.skipGap.read? with
  | none => exact ⟨rfl, gap⟩
  | some read => exact ⟨rfl, behind read.1 read.2 found⟩

/-- The directives from a position on are the same, each with its span relocated. -/
theorem Stands.directives (stands : c.Stands source) (noReturn : '\r' ∉ source) :
    (c.crlf source).directives = c.directives.map (Directive.moved (Span.relocated source)) := by
  induction c using Cursor.directives.induct with
  | case1 c d after found ih =>
    obtain ⟨next, behind⟩ := stands.next noReturn
    rw [found] at next behind
    rw [directives_of_next found, directives_of_next next, ih behind]
    rfl
  | case2 c after found =>
    obtain ⟨next, -⟩ := stands.next noReturn
    rw [found] at next
    rw [directives_of_none found, directives_of_none next]
    rfl

end Cursor

theorem Cursor.stands_ofOffset {source front rest : Text} (split : source = front ++ rest) :
    (Cursor.ofOffset source front.byteSize).Stands source ∧
      Cursor.ofOffset (Text.crlf source) (source.relocated front.byteSize) =
        (Cursor.ofOffset source front.byteSize).crlf source := by
  rw [split, Text.relocated_byteSize, Text.crlf_append, Cursor.ofOffset_byteSize, Cursor.ofOffset_byteSize,
    Cursor.crlf, Text.relocated_byteSize]
  exact ⟨⟨front, rfl, rfl⟩, rfl⟩

/-! ## Dialogs -/

namespace Dialog

/-- The dialog with its spans relocated. -/
def relocated (source : Text) (d : Dialog) : Dialog :=
  { d with body := d.body.map (Directive.moved (Span.relocated source)), span := d.span.relocated source }

private theorem declares?_append_return (line : Text) : declares? (line ++ ['\r']) = declares? line := by
  rw [declares?, declares?, Text.words_append_return]

/-- Where the declarations of a script begin and what they declare, told by its lines. -/
private theorem map_declaration? (source : Text) (index : Nat) (wanted? : Option Text) :
    (declaration? source index wanted?).map (fun (line, id) => (line.start, id)) =
      ((((source.lines.map fun line => (line.start, declares? line.text)).takeWhile
        fun (start, _) => start ≤ index).filterMap fun (start, id?) => id?.map (start, ·)).filter
          fun (_, id) => wanted?.all (· == id)).getLast? := by
  have keys : ∀ found : List (Line × Text),
      (found.filter fun (_, id) => wanted?.all (· == id)).map (fun (line, id) => (line.start, id)) =
        (found.map fun (line, id) => (line.start, id)).filter fun (_, id) => wanted?.all (· == id) := by
    intro found
    rw [List.filter_map]
    rfl
  unfold declaration?
  dsimp only
  rw [← List.getLast?_map, keys, List.map_filterMap, List.takeWhile_map, List.filterMap_map]
  simp only [Option.map_map]
  rfl

/-- The same declaration is found, and it begins where its beginning is relocated to. -/
theorem declaration?_crlf (source : Text) (index : Nat) (wanted? : Option Text) :
    (declaration? (Text.crlf source) (source.relocated index) wanted?).map (fun (line, id) => (line.start, id)) =
      (declaration? source index wanted?).map fun (line, id) => (source.relocated line.start, id) := by
  have lines : ((Text.crlf source).lines.map fun line => (line.start, declares? line.text)) =
      (source.lines.map fun line => (line.start, declares? line.text)).map
        fun (start, id?) => (source.relocated start, id?) := by
    rw [List.map_map]
    exact Text.map_lines_crlf declares?_append_return [] source
  have found : (declaration? source index wanted?).map (fun (line, id) => (source.relocated line.start, id)) =
      ((declaration? source index wanted?).map fun (line, id) => (line.start, id)).map
        fun (start, id) => (source.relocated start, id) := by
    rw [Option.map_map]
    rfl
  rw [found, map_declaration?, map_declaration?, lines, List.takeWhile_map, List.filterMap_map,
    ← List.getLast?_map]
  simp only [Function.comp_def, Text.relocated_le_iff]
  have wantedKept : ∀ declared : List (Nat × Text),
      (declared.filter fun d => wanted?.all (· == d.2)).map (fun d => (source.relocated d.1, d.2)) =
        (declared.map fun d => (source.relocated d.1, d.2)).filter fun d => wanted?.all (· == d.2) := by
    intro declared
    rw [List.filter_map]
    rfl
  rw [wantedKept, List.map_filterMap]
  simp only [Option.map_map, Function.comp_def]

theorem mem_lines_of_declaration? {source : Text} {index : Nat} {wanted? : Option Text} {line : Line} {id : Text}
    (found : declaration? source index wanted? = some (line, id)) : line ∈ source.lines := by
  have kept := (List.mem_filter.mp (List.mem_of_getLast? found)).1
  obtain ⟨other, before, declared⟩ := List.mem_filterMap.mp kept
  obtain ⟨_, -, same⟩ := Option.map_eq_some_iff.mp declared
  obtain ⟨rfl, -⟩ := Prod.mk.inj same
  exact (List.takeWhile_sublist _).mem before

end Dialog

/-! ## Two runs -/

section
variable {ε ε' α β : Type}

/-- Two runs that both succeed or both fail, with results and errors that belong together. -/
def Matching (failed : ε → ε → Prop) (done : α → α → Prop) : Except ε α → Except ε α → Prop
  | .ok a, .ok a' => done a a'
  | .error e, .error e' => failed e e'
  | _, _ => False

theorem Matching.exists_ok {failed : ε → ε → Prop} {done : α → α → Prop} {run' : Except ε α} {a : α}
    (matching : Matching failed done (.ok a) run') : ∃ a', run' = .ok a' ∧ done a a' := by
  cases run' with
  | ok a' => exact ⟨a', rfl, matching⟩
  | error e' => exact matching.elim

theorem Matching.bind {failed : ε → ε → Prop} {done : α → α → Prop} {done' : β → β → Prop} {run run' : Except ε α}
    {next next' : α → Except ε β} (first : Matching failed done run run')
    (second : ∀ a a', done a a' → Matching failed done' (next a) (next' a')) :
    Matching failed done' (run >>= next) (run' >>= next') := by
  cases run with
  | ok a =>
    cases run' with
    | ok a' => exact second a a' first
    | error e' => exact first.elim
  | error e =>
    cases run' with
    | ok a' => exact first.elim
    | error e' => exact first

theorem Matching.map {failed : ε → ε → Prop} {done : α → α → Prop} {done' : β → β → Prop} {run run' : Except ε α}
    {f f' : α → β} (first : Matching failed done run run') (second : ∀ a a', done a a' → done' (f a) (f' a')) :
    Matching failed done' (run.map f) (run'.map f') := by
  cases run with
  | ok a =>
    cases run' with
    | ok a' => exact second a a' first
    | error e' => exact first.elim
  | error e =>
    cases run' with
    | ok a' => exact first.elim
    | error e' => exact first

theorem Matching.mapError {failed : ε → ε → Prop} {failed' : ε' → ε' → Prop} {done : α → α → Prop}
    {run run' : Except ε α} {told told' : ε → ε'} (first : Matching failed done run run')
    (second : ∀ e e', failed e e' → failed' (told e) (told' e')) :
    Matching failed' done (run.mapError told) (run'.mapError told') := by
  cases run with
  | ok a =>
    cases run' with
    | ok a' => exact first
    | error e' => exact first.elim
  | error e =>
    cases run' with
    | ok a' => exact first.elim
    | error e' => exact second e e' first

end

/-- What a diagnostic says, without the places it points at and the advice. -/
def Diagnostic.heading (d : Diagnostic) : Severity × Option Code × Text := (d.severity, d.code, d.message)

/-- Two reasons why no dialog is read that are reported in the same words. -/
def Dialog.ReadError.Alike (e e' : ReadError) : Prop := e'.diagnostic.heading = e.diagnostic.heading

/-- Failures of one kind that are reported in the same words. -/
def Failure.Alike : Failure → Failure → Prop
  | script ds _, script ds' _ => ds'.map Diagnostic.heading = ds.map Diagnostic.heading
  | configuration message, configuration message' => message' = message
  | files message, files message' => message' = message
  | preprocessor message, preprocessor message' => message' = message
  | _, _ => False

/-! ## Reading a dialog -/

theorem Header.ofDirectives_moved (move : Span → Span) (ds : List Directive) :
    ofDirectives (ds.map (Directive.moved move)) = ofDirectives ds := by
  rw [ofDirectives, ofDirectives, List.filter_map, List.foldl_map]
  rfl

private theorem Directive.span_moved (move : Span → Span) (ds : List Directive) (keyword : Text) :
    (ds.map (moved move)).span (!·.isNamed keyword) =
      ((ds.span (!·.isNamed keyword)).1.map (moved move), (ds.span (!·.isNamed keyword)).2.map (moved move)) := by
  rw [List.span_eq_takeWhile_dropWhile, List.span_eq_takeWhile_dropWhile, List.takeWhile_map, List.dropWhile_map]
  rfl

theorem Dialog.parse_crlf {source front rest : Text} (noReturn : '\r' ∉ source) (split : source = front ++ rest)
    (wanted? : Option Text) :
    Matching ReadError.Alike (fun d d' => d' = d.relocated source) (parse source front.byteSize wanted?)
      (parse (Text.crlf source) (Text.crlf front).byteSize wanted?) := by
  have index : source.boundary front.byteSize = front.byteSize := by
    rw [split, Text.boundary, Text.splitAtByte_byteSize]
  have index' : (Text.crlf source).boundary (Text.crlf front).byteSize = (Text.crlf front).byteSize := by
    rw [split, Text.crlf_append, Text.boundary, Text.splitAtByte_byteSize]
  have same := declaration?_crlf source front.byteSize wanted?
  have position : source.relocated front.byteSize = (Text.crlf front).byteSize := by
    rw [split, Text.relocated_byteSize]
  rw [position] at same
  unfold parse
  dsimp only
  rw [index, index']
  cases first : declaration? source front.byteSize wanted? with
  | none =>
    rw [first, Option.map_none, Option.map_eq_none_iff] at same
    rw [same]
    exact rfl
  | some found =>
    obtain ⟨line, id⟩ := found
    rw [first, Option.map_some, Option.map_eq_some_iff] at same
    obtain ⟨⟨line', id'⟩, second, key⟩ := same
    obtain ⟨start, rfl⟩ := Prod.mk.inj key
    obtain ⟨before, behind, splitLine, lineStart, -⟩ :=
      Text.exists_of_mem_lines [] (by simp) (mem_lines_of_declaration? first)
    rw [List.nil_append] at splitLine
    obtain ⟨stands, cursor⟩ := Cursor.stands_ofOffset splitLine
    rw [← lineStart] at stands cursor
    rw [second]
    dsimp only
    rw [start, cursor, stands.directives noReturn, Directive.span_moved]
    cases (Cursor.ofOffset source line.start).directives.span (!·.isNamed (lit "BEGIN")) with
    | mk header opened =>
      cases opened with
      | nil => exact rfl
      | cons opening inner =>
        rw [List.map_cons]
        dsimp only
        rw [Directive.span_moved]
        cases inner.span (!·.isNamed (lit "END")) with
        | mk body closed =>
          cases closed with
          | nil => exact rfl
          | cons closing behind =>
            show _ = _
            rw [Header.ofDirectives_moved, relocated, Span.relocated_ofBounds]
            rfl

theorem Dialog.locate_crlf {anchor : Text} (source : Text) (unbroken : '\r' ∉ anchor ∧ '\n' ∉ anchor) :
    Matching ReadError.Alike
      (fun n n' => ∃ front rest, source = front ++ rest ∧ n = front.byteSize ∧ n' = (Text.crlf front).byteSize)
      (locate source anchor) (locate (Text.crlf source) anchor) := by
  rw [locate, locate, Text.before?_crlf unbroken]
  cases found : Text.before? source anchor with
  | none => exact rfl
  | some front =>
    obtain ⟨rest, split⟩ := Text.exists_of_before? found
    exact ⟨front, rest, split, rfl, rfl⟩

namespace Converter

/-- The same dialog is found, or none for the same reason. -/
theorem findDialog_crlf {c : Converter} {source : Text} (noReturn : '\r' ∉ source)
    (unbroken : ∀ anchor ∈ c.config.dialog.anchor?, '\r' ∉ anchor ∧ '\n' ∉ anchor) :
    Matching Failure.Alike (fun d d' => d' = d.relocated source) (c.findDialog source)
      (c.findDialog (Text.crlf source)) := by
  have parsed : ∀ n n', (∃ front rest, source = front ++ rest ∧ n = front.byteSize ∧
      n' = (Text.crlf front).byteSize) →
        Matching Dialog.ReadError.Alike (fun d d' => d' = d.relocated source)
          (Dialog.parse source n c.config.dialog.id?) (Dialog.parse (Text.crlf source) n' c.config.dialog.id?) := by
    rintro _ _ ⟨front, rest, split, rfl, rfl⟩
    exact Dialog.parse_crlf noReturn split _
  have told : ∀ e e' : Dialog.ReadError, e.Alike e' →
      Failure.Alike (.script [e.diagnostic] source) (.script [e'.diagnostic] (Text.crlf source)) :=
    fun e e' alike => congrArg (fun heading => [heading]) alike
  unfold findDialog
  dsimp only
  cases given : c.config.dialog.anchor? with
  | some anchor => exact ((Dialog.locate_crlf source (unbroken anchor given)).bind parsed).mapError told
  | none => exact (parsed _ _ ⟨source, [], (List.append_nil _).symm, rfl, rfl⟩).mapError told

/-- A dialog whose directives are moved has the same document, and its diagnostics are moved. -/
theorem interfaceOf_relocated {c : Converter} (unplaced : ∀ rule ∈ c.rules, rule.Unplaced) (source : Text)
    (dialog : Dialog) :
    Matching Failure.Alike
      (fun r r' => r'.document = r.document ∧ r'.warnings = r.warnings.map (Diagnostic.moved (Span.relocated source)))
      (c.interfaceOf source dialog) (c.interfaceOf (Text.crlf source) (dialog.relocated source)) := by
  cases accepted : Grid.ofRatios c.config.ratios with
  | error e =>
    have refused : ∀ source dialog, c.interfaceOf source dialog = .error (.configuration e.message) := by
      intro source dialog
      rw [interfaceOf, accepted]
      rfl
    rw [refused, refused]
    exact rfl
  | ok grid =>
    have fragments : (dialog.relocated source).body.map (c.builder grid).fragment =
        (dialog.body.map (c.builder grid).fragment).map (Fragment.moved (Span.relocated source)) := by
      rw [Dialog.relocated, List.map_map, List.map_map]
      exact List.map_congr_left fun d _ => Builder.fragment_moved _ unplaced d
    have markup : ((dialog.relocated source).body.map (c.builder grid).fragment).map (·.markup) =
        (dialog.body.map (c.builder grid).fragment).map (·.markup) := by
      rw [fragments, List.map_map]
      rfl
    have report : ((dialog.relocated source).body.map (c.builder grid).fragment).flatMap (·.diagnostics) =
        ((dialog.body.map (c.builder grid).fragment).flatMap (·.diagnostics)).map
          (Diagnostic.moved (Span.relocated source)) := by
      rw [fragments, List.flatMap_map, List.map_flatMap]
      rfl
    have errors : ∀ ds : List Diagnostic, Diagnostics.hasErrors (ds.map (Diagnostic.moved (Span.relocated source))) =
        Diagnostics.hasErrors ds := by
      intro ds
      rw [Diagnostics.hasErrors, List.any_map]
      rfl
    rw [c.interfaceOf_eq source dialog accepted, c.interfaceOf_eq _ _ accepted]
    dsimp only
    rw [markup, report, errors]
    split
    · show List.map _ (List.map _ _) = _
      rw [List.map_map]
      rfl
    · exact ⟨rfl, rfl⟩

end Converter

/-! ## Assets -/

namespace Diagnostics

variable {α β : Type}

/-- What a step tells besides places: the part of its result that `part` gives, or what its
diagnostic says. -/
def told (part : α → β) (result : Except Diagnostic α) : Except (Severity × Option Code × Text) β :=
  (result.map part).mapError Diagnostic.heading

private theorem gather_told {part : α → β} {results results' : List (Except Diagnostic α)}
    (same : results'.map (told part) = results.map (told part)) :
    Matching (fun ds ds' => ds'.map Diagnostic.heading = ds.map Diagnostic.heading)
      (fun as as' => as'.map part = as.map part) (gather results) (gather results') := by
  have problems : ∀ rs : List (Except Diagnostic α), (rs.filterMap gather.problem?).map Diagnostic.heading =
      (rs.map (told part)).filterMap fun | .error heading => some heading | .ok _ => none := by
    intro rs
    rw [List.map_filterMap, List.filterMap_map]
    congr 1
    funext result
    cases result <;> rfl
  have successes : ∀ rs : List (Except Diagnostic α), (rs.filterMap Except.toOption).map part =
      (rs.map (told part)).filterMap Except.toOption := by
    intro rs
    rw [List.map_filterMap, List.filterMap_map]
    congr 1
    funext result
    cases result <;> rfl
  have sameProblems := (problems results').trans ((congrArg _ same).trans (problems results).symm)
  have sameSuccesses := (successes results').trans ((congrArg _ same).trans (successes results).symm)
  unfold gather
  cases reported : results.filterMap gather.problem? with
  | nil =>
    rw [reported, List.map_nil, List.map_eq_nil_iff] at sameProblems
    rw [sameProblems]
    exact sameSuccesses
  | cons d more =>
    rw [reported] at sameProblems
    cases reported' : results'.filterMap gather.problem? with
    | nil =>
      rw [reported'] at sameProblems
      cases sameProblems
    | cons d' more' =>
      rw [reported'] at sameProblems
      exact sameProblems

end Diagnostics

namespace Asset

/-- What the asset is, without the line that lists it. -/
def content (a : Asset) : Text × Text := (a.name, a.location)

/-- The asset that a line lists, or the report on the line. -/
def ofLine (line : Line) : Except Diagnostic Asset :=
  (read line).mapError (EntryError.diagnostic (lineSpan line))

private theorem told_ofLine {line line' : Line} (same : line'.text.trim = line.text.trim) :
    Diagnostics.told content (ofLine line') = Diagnostics.told content (ofLine line) := by
  unfold ofLine read
  rw [same]
  dsimp only
  split
  · rfl
  · split <;> rfl

/-- What a line tells if it is looked at. -/
def told? (line : Text) : Option (Except (Severity × Option Code × Text) (Text × Text)) :=
  if isEntryLine ⟨0, line⟩ then some (Diagnostics.told content (ofLine ⟨0, line⟩)) else none

private theorem told?_append_return (line : Text) : told? (line ++ ['\r']) = told? line := by
  have looked : isEntryLine ⟨0, line ++ ['\r']⟩ = isEntryLine ⟨0, line⟩ :=
    Text.hasInfix_append_return (by decide) line
  have same : Diagnostics.told content (ofLine ⟨0, line ++ ['\r']⟩) = Diagnostics.told content (ofLine ⟨0, line⟩) :=
    told_ofLine (Text.trim_append_return line)
  rw [told?, told?, looked, same]

/-- What the lines of a script tell, by their texts alone. -/
private theorem told_lines (lines : List Line) :
    ((lines.filter isEntryLine).map ofLine).map (Diagnostics.told content) =
      (lines.map fun line => told? line.text).filterMap id := by
  induction lines with
  | nil => rfl
  | cons line rest ih =>
    have looked : isEntryLine ⟨0, line.text⟩ = isEntryLine line := rfl
    have same : Diagnostics.told content (ofLine ⟨0, line.text⟩) = Diagnostics.told content (ofLine line) :=
      told_ofLine rfl
    rw [List.map_cons, List.filterMap_cons, ← ih, List.filter_cons, told?, looked]
    split
    · rw [List.map_cons, List.map_cons, same]
      rfl
    · rfl

theorem scan_crlf {marker : Text} (source : Text) (unbroken : '\r' ∉ marker ∧ '\n' ∉ marker) :
    Matching (fun ds ds' => ds'.map Diagnostic.heading = ds.map Diagnostic.heading)
      (fun as as' => as'.map content = as.map content) (scan source marker) (scan (Text.crlf source) marker) := by
  have part : ((Text.crlf source).afterLast? marker).getD (Text.crlf source) =
      Text.crlf ((source.afterLast? marker).getD source) := by
    rw [Text.afterLast?_crlf unbroken]
    cases Text.afterLast? source marker <;> rfl
  have lines : (sectionLines (Text.crlf source) marker).map (fun line => told? line.text) =
      (sectionLines source marker).map fun line => told? line.text := by
    have texts : ∀ (start : Nat) (t : Text), (t.lines start).map (fun line => told? line.text) =
        (t.splitOn '\n').map told? := by
      intro start t
      rw [← Text.map_text_lines start, List.map_map]
      rfl
    rw [sectionLines, sectionLines, part, texts, texts, Text.map_splitOn_crlf told?_append_return]
  refine Diagnostics.gather_told ?_
  show ((_ : List Line).map ofLine).map _ = ((_ : List Line).map ofLine).map _
  rw [told_lines, told_lines, lines]

end Asset

/-! ## The manifest -/

namespace Manifest

private theorem told_entry (sourceFolder : Text) {a a' : Asset} (same : a'.content = a.content) :
    Diagnostics.told id (entry sourceFolder a') = Diagnostics.told id (entry sourceFolder a) := by
  obtain ⟨name, location⟩ := Prod.mk.inj same
  unfold entry
  rw [name, location]
  split <;> rfl

private theorem ofAssets_content (sourceFolder resourceFolder : Text) {as as' : List Asset}
    (same : as'.map Asset.content = as.map Asset.content) :
    Matching (fun ds ds' => ds'.map Diagnostic.heading = ds.map Diagnostic.heading) (fun m m' => m' = m)
      (ofAssets sourceFolder resourceFolder as) (ofAssets sourceFolder resourceFolder as') := by
  have entries : ∀ assets : List Asset, (assets.map (entry sourceFolder)).map (Diagnostics.told id) =
      (assets.map Asset.content).map fun (name, location) =>
        Diagnostics.told id (entry sourceFolder ⟨name, location, .ofBounds 0 0⟩) := by
    intro assets
    rw [List.map_map, List.map_map]
    exact List.map_congr_left fun a _ => told_entry sourceFolder (a := ⟨a.name, a.location, .ofBounds 0 0⟩) rfl
  have told : (as'.map (entry sourceFolder)).map (Diagnostics.told id) =
      (as.map (entry sourceFolder)).map (Diagnostics.told id) := by
    rw [entries, entries, same]
  refine (Diagnostics.gather_told told).map fun lines lines' sameLines => ?_
  rw [List.map_id, List.map_id] at sameLines
  rw [sameLines]

end Manifest

namespace Converter

/-- The same manifest results, or none for the same reasons. -/
theorem manifestOf_crlf {c : Converter} (source : Text)
    (unbroken : '\r' ∉ c.config.assets.marker ∧ '\n' ∉ c.config.assets.marker) :
    Matching Failure.Alike (fun m m' => m' = m) (c.manifestOf source) (c.manifestOf (Text.crlf source)) :=
  ((Asset.scan_crlf source unbroken).bind fun _ _ same => Manifest.ofAssets_content _ _ same).mapError
    fun _ _ alike => alike

/-- A script without carriage returns converts alike once one is put before each of its line feeds. Either
both conversions succeed, with one document and with warnings that differ only in where they point,
or both fail with the same words; and so it is with the two manifests. -/
theorem convert_crlf (config : Configuration) (symbols : SymbolTable) (source : Text) (noReturn : '\r' ∉ source)
    (anchor : ∀ anchor ∈ config.dialog.anchor?, '\r' ∉ anchor ∧ '\n' ∉ anchor)
    (marker : '\r' ∉ config.assets.marker ∧ '\n' ∉ config.assets.marker) :
    let c : Converter := { config, symbols }
    Matching Failure.Alike
        (fun r r' => r'.document = r.document ∧
          r'.warnings = r.warnings.map (Diagnostic.moved (Span.relocated source)))
        (c.convert source) (c.convert (Text.crlf source)) ∧
      Matching Failure.Alike (fun m m' => m' = m) (c.manifestOf source) (c.manifestOf (Text.crlf source)) := by
  intro c
  refine ⟨(findDialog_crlf noReturn anchor).bind ?_, manifestOf_crlf source marker⟩
  rintro dialog _ rfl
  exact interfaceOf_relocated (standardRules_unplaced config.ratios) source dialog

/-- A directive without a widget is converted with a warning, which points two bytes further on behind
two carriage returns. -/
theorem convert_crlf_placeholder :
    let c : Converter := {}
    let source := lit "A DIALOG\nBEGIN\nX\nEND\n"
    '\r' ∉ source ∧
      (∃ r, c.convert (Text.crlf source) = .ok r ∧ r.warnings.map (·.labels.map (·.span)) = [[.ofBounds 17 18]]) ∧
      ∃ m, c.manifestOf source = .ok m ∧ c.manifestOf (Text.crlf source) = .ok m := by
  intro c source
  obtain ⟨conversion, manifest⟩ := convert_crlf {} {} source (by decide) (by decide) (by decide)
  refine ⟨by decide, ?_, ?_⟩
  · have first : Cursor.next ⟨0, source⟩ =
        (some ⟨['A'], [lit "DIALOG"], .ofBounds 0 8⟩, ⟨9, lit "BEGIN\nX\nEND\n"⟩) := by decide +kernel
    have second : Cursor.next ⟨9, lit "BEGIN\nX\nEND\n"⟩ =
        (some ⟨lit "BEGIN", [], .ofBounds 9 14⟩, ⟨15, lit "X\nEND\n"⟩) := by decide +kernel
    have third : Cursor.next ⟨15, lit "X\nEND\n"⟩ =
        (some ⟨['X'], [], .ofBounds 15 16⟩, ⟨17, lit "END\n"⟩) := by decide +kernel
    have fourth : Cursor.next ⟨17, lit "END\n"⟩ =
        (some ⟨lit "END", [], .ofBounds 17 20⟩, ⟨21, []⟩) := by decide +kernel
    have declared : Dialog.declaration? source source.byteSize none = some (⟨0, lit "A DIALOG"⟩, ['A']) := by
      decide +kernel
    have bound : source.boundary source.byteSize = source.byteSize := by decide +kernel
    have start : Cursor.ofOffset source 0 = ⟨0, source⟩ := rfl
    have found : c.findDialog source =
        .ok ⟨['A'], [(['A'], [lit "DIALOG"])], [⟨['X'], [], .ofBounds 15 16⟩], .ofBounds 0 20⟩ := by
      have searched : c.findDialog source =
          (Dialog.parse source source.byteSize none).mapError fun e => .script [e.diagnostic] source := rfl
      rw [searched, Dialog.parse]
      dsimp only
      rw [bound, declared]
      dsimp only
      rw [start, Cursor.directives_of_next first, Cursor.directives_of_next second, Cursor.directives_of_next third,
        Cursor.directives_of_next fourth, Cursor.directives_gap (by simp)]
      rfl
    have converted : ∃ r, c.convert source = .ok r ∧ r.warnings.map (·.labels.map (·.span)) = [[.ofBounds 15 16]] := by
      have unfolded : c.convert source = c.interfaceOf source
          ⟨['A'], [(['A'], [lit "DIALOG"])], [⟨['X'], [], .ofBounds 15 16⟩], .ofBounds 0 20⟩ := by
        rw [convert, found]
        rfl
      rw [unfolded, c.interfaceOf_eq source _ Grid.ofRatios_default]
      dsimp only
      rw [if_neg (by decide +kernel)]
      exact ⟨_, rfl, by decide +kernel⟩
    obtain ⟨r, converted, spans⟩ := converted
    rw [converted] at conversion
    obtain ⟨r', converted', -, warnings⟩ := conversion.exists_ok
    have moved : r'.warnings.map (·.labels.map (·.span)) =
        (r.warnings.map (·.labels.map (·.span))).map (·.map (Span.relocated source)) := by
      rw [warnings]
      simp [Diagnostic.moved, Label.moved, Function.comp_def]
    refine ⟨r', converted', ?_⟩
    rw [moved, spans]
    decide +kernel
  · have listed : ∃ m, c.manifestOf source = .ok m := ⟨_, rfl⟩
    obtain ⟨m, listed⟩ := listed
    rw [listed] at manifest
    obtain ⟨_, listed', rfl⟩ := manifest.exists_ok
    exact ⟨_, listed, listed'⟩

end Converter

end DialogGrid
