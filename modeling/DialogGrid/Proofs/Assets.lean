import DialogGrid.Converter
import DialogGrid.Proofs.Diagnostics
import DialogGrid.Proofs.Escape
import DialogGrid.Proofs.RoundTrip

/-!
# Scripts that list assets

Assets can be listed in many ways: blanks may stand around an entry and between its words, its
location can be escaped in any way, and other lines may stand around it. The manifest holds one line
for each of them in any case, in order (`Manifest.lines`, `Converter.manifestOf_written`).
-/

namespace DialogGrid

/-! ## How assets are listed -/

/-- A line that lists an asset, as it is written. The location is the path below the source folder; it stands
escaped between quotes. -/
structure AssetLine where
  leading : Text := []
  name : Text
  spacesBefore : Nat := 1
  spacesAfter : Nat := 1
  path : Text
  escaped : Text
  trailing : Text := []
  carriageReturn : Bool := false
  deriving DecidableEq, Repr

namespace AssetLine

/-- The location with the quotes around it. -/
def location (a : AssetLine) : Text := '"' :: (a.escaped ++ ['"'])

/-- All from the name to the last quote. -/
def content (a : AssetLine) : Text :=
  a.name ++ (List.replicate a.spacesBefore ' ' ++ (lit "RCDATA" ++ (List.replicate a.spacesAfter ' ' ++ a.location)))

/-- What stands behind the last quote. -/
def ending (a : AssetLine) : Text := a.trailing ++ if a.carriageReturn then ['\r'] else []

def text (a : AssetLine) : Text := a.leading ++ a.content ++ a.ending

/-- The line of a manifest for the asset. -/
def file (a : AssetLine) : Text :=
  lit "    <file alias=\"" ++ a.name ++ lit "\">" ++ a.path ++ lit "</file>\n"

/-- How an asset below a folder may be listed. -/
structure Fits (a : AssetLine) (sourceFolder : Text) : Prop where
  leading : Inline a.leading
  name_ne_nil : a.name ≠ []
  name_visible : ∀ c ∈ a.name, isBlank c = false
  spacesBefore : 0 < a.spacesBefore
  spacesAfter : 0 < a.spacesAfter
  spelled : Escape.Spelled a.escaped (sourceFolder ++ a.path)
  trailing : Inline a.trailing

end AssetLine

/-- A line of the part of a script that lists assets. -/
inductive AssetPartLine where
  | asset (a : AssetLine)
  | other (t : Text)
  deriving DecidableEq, Repr

namespace AssetPartLine

def text : AssetPartLine → Text
  | asset a => a.text
  | other t => t

def asset? : AssetPartLine → Option AssetLine
  | asset a => some a
  | other _ => none

end AssetPartLine

/-- The part of a script that is looked through: what stands behind the last marker, or all of a script that
holds no marker. -/
inductive Asset.Part (source marker part : Text) : Prop
  | marked (before : Text) (whole : source = before ++ (marker ++ part))
      (last : ∀ front back, source = front ++ (marker ++ back) → front.length ≤ before.length)
  | unmarked (absent : ¬ marker <:+: source) (whole : part = source)

theorem Asset.Part.sectionLines_eq {source marker part : Text} (isPart : Asset.Part source marker part) :
    sectionLines source marker = part.lines (source.byteSize - part.byteSize) := by
  cases isPart with
  | marked before whole last => rw [sectionLines, Text.afterLast?_eq_some whole last, Option.getD_some]
  | unmarked absent whole => rw [sectionLines, Text.afterLast?_eq_none absent, Option.getD_none, whole]

/-! ## Reading an entry -/

namespace Asset

/-- A name up to the first space, and behind it, with any blanks between, the word `RCDATA`. The word ends with the text
or before a blank. -/
def Worded (t name rest : Text) : Prop :=
  ∃ blanks : Text, t = name ++ ' ' :: (blanks ++ (lit "RCDATA" ++ rest)) ∧ ' ' ∉ name ∧ blanks.IsBlank ∧
    ∀ c ∈ rest.head?, isBlank c = true

/-- Behind the word, the rest of a line is read as a location. -/
theorem read_of_worded {line : Line} {name rest : Text} (worded : Worded line.text.trim name rest) :
    read line = match (Escape.decode rest.trim).quoted? with
      | some location => .ok ⟨name, location, lineSpan line⟩
      | none => .error (.location name) := by
  obtain ⟨blanks, text, single, blank, ends⟩ := worded
  have name : ∀ c ∈ name, (c == ' ') = false := by
    intro c member
    refine beq_false_of_ne ?_
    rintro rfl
    exact single member
  have word : Text.trimStart (lit "RCDATA" ++ rest) = lit "RCDATA" ++ rest := rfl
  have visible : ∀ c ∈ lit "RCDATA", isBlank c = false := by decide
  obtain ⟨location, cut, same⟩ : ∃ location, (lit "RCDATA" ++ rest).cutAt isBlank = (lit "RCDATA", location) ∧
      location.trim = rest.trim := by
    cases rest with
    | nil => exact ⟨[], rfl, rfl⟩
    | cons c location =>
      have one : Text.IsBlank [c] := by simpa [Text.IsBlank] using ends c rfl
      have padded := Text.trim_pad location one .nil
      rw [List.append_nil] at padded
      exact ⟨location, Text.cutAt_append location visible (ends c rfl), padded.symm⟩
  rw [read]
  dsimp only
  rw [text, Text.cutAt_append _ name rfl]
  dsimp only
  rw [Text.trimStart_append_blank _ blank, word, cut]
  -- The word is compared with itself, and its letters do not matter.
  generalize lit "RCDATA" = kind
  dsimp only
  cases decoded : (Escape.decode rest.trim).quoted? with
  | some location => simp [same, decoded]
  | none => simp [same, decoded]

end Asset

namespace AssetLine

variable {a : AssetLine} {sourceFolder : Text}

private theorem isBlank_spaces (n : Nat) : Text.IsBlank (List.replicate n ' ') := by
  intro c member
  rw [List.eq_of_mem_replicate member]
  decide

private theorem isBlank_ending (fits : a.Fits sourceFolder) : Text.IsBlank a.ending := by
  intro c member
  rcases List.mem_append.mp member with early | late
  · exact fits.trailing.isBlank c early
  · split at late
    · rw [List.mem_singleton.mp late]
      decide
    · cases late

private theorem trim_text (fits : a.Fits sourceFolder) : a.text.trim = a.content := by
  have first : ∀ c ∈ a.content.head?, isBlank c = false := by
    obtain ⟨_, rest, name⟩ := List.exists_cons_of_ne_nil fits.name_ne_nil
    intro c head
    rw [content, name] at head
    cases head
    exact fits.name_visible _ (by rw [name]; exact List.mem_cons_self)
  have last : ∀ c ∈ a.content.getLast?, isBlank c = false := by
    have quoted : ∃ front, a.content = front ++ ['"'] :=
      ⟨a.name ++ (List.replicate a.spacesBefore ' ' ++ (lit "RCDATA" ++ (List.replicate a.spacesAfter ' ' ++
        '"' :: a.escaped))), by simp [content, location]⟩
    obtain ⟨front, split⟩ := quoted
    intro c quote
    rw [split, List.getLast?_concat] at quote
    cases quote
    decide
  rw [text, Text.trim_pad _ fits.leading.isBlank (isBlank_ending fits), Text.trim_eq_self first last]

private theorem isEntryLine_text (fits : a.Fits sourceFolder) (start : Nat) :
    Asset.isEntryLine ⟨start, a.text⟩ = true := by
  obtain ⟨before, spacesBefore⟩ := Nat.exists_eq_add_one.mpr fits.spacesBefore
  obtain ⟨after, spacesAfter⟩ := Nat.exists_eq_add_one.mpr fits.spacesAfter
  have word : lit " RCDATA " = ' ' :: (lit "RCDATA" ++ [' ']) := rfl
  refine (Text.hasInfix_iff _ _).mpr ⟨a.leading ++ (a.name ++ List.replicate before ' '),
    List.replicate after ' ' ++ (a.location ++ a.ending), ?_⟩
  rw [text, content, spacesBefore, spacesAfter, List.replicate_succ', List.replicate_succ, word]
  simp only [List.append_assoc, List.cons_append, List.nil_append]

private theorem quoted?_location (fits : a.Fits sourceFolder) :
    (Escape.decode a.location).quoted? = some (sourceFolder ++ a.path) := by
  have empty : Escape.decode [] = [] := by rw [Escape.decode]
  have decoded : Escape.decode a.location = '"' :: (sourceFolder ++ a.path ++ ['"']) := by
    rw [location, Escape.decode_cons _ (by decide), Escape.decode_spelled fits.spelled,
      Escape.decode_cons _ (by decide), empty]
  rw [decoded, Text.quoted?, List.getLast?_concat, if_pos rfl, List.dropLast_concat]

/-- An entry is read from its line, wherever the line stands. -/
theorem read_text (fits : a.Fits sourceFolder) (start : Nat) :
    Asset.read ⟨start, a.text⟩ = .ok ⟨a.name, sourceFolder ++ a.path, Asset.lineSpan ⟨start, a.text⟩⟩ := by
  obtain ⟨before, spacesBefore⟩ := Nat.exists_eq_add_one.mpr fits.spacesBefore
  obtain ⟨after, spacesAfter⟩ := Nat.exists_eq_add_one.mpr fits.spacesAfter
  have single : ' ' ∉ a.name := fun space => by
    have visible := fits.name_visible _ space
    cases visible
  have worded : Asset.Worded a.text.trim a.name (List.replicate a.spacesAfter ' ' ++ a.location) := by
    refine ⟨List.replicate before ' ', ?_, single, isBlank_spaces before, ?_⟩
    · rw [trim_text fits, content, spacesBefore]
      rfl
    · rw [spacesAfter]
      intro c first
      cases first
      decide
  have trimmed : Text.trim (List.replicate a.spacesAfter ' ' ++ a.location) = a.location := by
    have padded := Text.trim_pad a.location (isBlank_spaces a.spacesAfter) .nil
    rw [List.append_nil] at padded
    rw [padded]
    refine Text.trim_eq_self (fun c first => ?_) fun c last => ?_
    · cases first
      decide
    · rw [location, ← List.cons_append, List.getLast?_concat] at last
      cases last
      decide
  rw [Asset.read_of_worded worded, trimmed, quoted?_location fits]

private theorem lineFeed_not_mem_text (fits : a.Fits sourceFolder) : '\n' ∉ a.text := by
  have inline : ∀ {t : Text}, Inline t → '\n' ∉ t := fun inline feed => by
    rcases inline _ feed with space | tab
    · cases space
    · cases tab
  have spaces : ∀ n, '\n' ∉ List.replicate n ' ' := fun n feed => by
    cases List.eq_of_mem_replicate feed
  have name : '\n' ∉ a.name := fun feed => by
    have visible := fits.name_visible _ feed
    cases visible
  have ending : '\n' ∉ a.ending := by
    refine fun feed => (List.mem_append.mp feed).elim (inline fits.trailing) fun carriage => ?_
    split at carriage
    · cases List.mem_singleton.mp carriage
    · cases carriage
  have word : '\n' ∉ lit "RCDATA" := by decide
  simp only [text, content, location, List.mem_append, List.mem_cons, List.not_mem_nil, or_false, not_or]
  exact ⟨⟨inline fits.leading, name, spaces _, word, spaces _, by decide, fits.spelled.lineFeed_not_mem, by decide⟩,
    ending⟩

theorem entry_read (a : AssetLine) (sourceFolder : Text) (span : Span) :
    Manifest.entry sourceFolder ⟨a.name, sourceFolder ++ a.path, span⟩ = .ok a.file := by
  have front : List.replicate 4 ' ' ++ lit "<file alias=\"" = lit "    <file alias=\"" := by decide +kernel
  have back : lit "</file>" ++ lit "\n" = lit "</file>\n" := by decide +kernel
  have line (before between after : Text) : markupLine 4 (before ++ a.name ++ between ++ a.path ++ after) =
      (List.replicate 4 ' ' ++ before) ++ a.name ++ between ++ a.path ++ (after ++ lit "\n") := by
    simp only [markupLine, List.append_assoc]
  have written := (line _ (lit "\">") _).trans
    (congrArg₂ (fun front back => front ++ a.name ++ lit "\">" ++ a.path ++ back) front back)
  rw [Manifest.entry, Text.dropLead?_append]
  exact congrArg Except.ok written

end AssetLine

/-! ## Reading a list of assets -/

private theorem Diagnostics.gather_ok {α : Type} (as : List α) : gather (as.map .ok) = .ok as :=
  gather_eq_ok_iff.mpr (List.forall₂_same.mpr fun _ _ => rfl)

namespace AssetPartLine

variable {lines : List AssetPartLine} {sourceFolder : Text}

/-- What may stand in the part that lists assets: entries, and lines that no one takes for an entry. -/
def Fits (sourceFolder : Text) : AssetPartLine → Prop
  | asset a => a.Fits sourceFolder
  | other t => '\n' ∉ t ∧ ¬ lit " RCDATA " <:+: t

private theorem lineFeed_not_mem_text {line : AssetPartLine} (fits : line.Fits sourceFolder) : '\n' ∉ line.text := by
  cases line with
  | asset a => exact a.lineFeed_not_mem_text fits
  | other t => exact fits.1

/-- The lines are read one by one: each entry gives its asset, and the others give nothing. -/
private theorem exists_assets (fits : ∀ line ∈ lines, line.Fits sourceFolder) (start : Nat) :
    ∃ assets : List Asset, ((Line.consecutive start (lines.map text)).filter Asset.isEntryLine).map
        (fun line => (Asset.read line).mapError (Asset.EntryError.diagnostic (Asset.lineSpan line))) =
          assets.map .ok ∧
      assets.map (Manifest.entry sourceFolder) = (lines.filterMap asset?).map fun a => .ok a.file := by
  induction lines generalizing start with
  | nil => exact ⟨[], rfl, rfl⟩
  | cons line rest ih =>
    have here := fits line List.mem_cons_self
    have later := ih fun l member => fits l (List.mem_cons_of_mem line member)
    cases line with
    | asset a =>
      obtain ⟨assets, read, entries⟩ := later (start + a.text.byteSize + 1)
      refine ⟨⟨a.name, sourceFolder ++ a.path, Asset.lineSpan ⟨start, a.text⟩⟩ :: assets, ?_, ?_⟩
      · rw [List.map_cons, Line.consecutive, List.filter_cons, text, if_pos (a.isEntryLine_text here start),
          List.map_cons, read, a.read_text here]
        rfl
      · rw [List.map_cons, entries, a.entry_read]
        rfl
    | other t =>
      obtain ⟨assets, read, entries⟩ := later (start + t.byteSize + 1)
      have passed : ¬ Asset.isEntryLine ⟨start, t⟩ = true := fun entry => here.2 ((Text.hasInfix_iff _ _).mp entry)
      refine ⟨assets, ?_, entries⟩
      rw [List.map_cons, Line.consecutive, List.filter_cons, text, if_neg passed, read]

end AssetPartLine

/-! ## The manifest -/

namespace Manifest

/-- The lines of a manifest: its head and a comment, the group of a folder around the lines of the files, and its end. -/
def lines (resourceFolder : Text) (files : List Text) : List Text :=
  [lit "<?xml version=\"1.0\" encoding=\"UTF-8\"?>\n",
    lit "<!-- GResources XML file autogenerated by rcgtk - DO NOT EDIT! -->\n",
    lit "<gresources>\n",
    lit "  <gresource prefix=\"" ++ resourceFolder ++ lit "\">\n"] ++ files ++
    [lit "  </gresource>\n", lit "</gresources>\n"]

theorem markup_eq (resourceFolder : Text) (files : List Text) :
    markup resourceFolder files = (lines resourceFolder files).flatten := by
  have group : markupLine 2 (lit "<gresource prefix=\"" ++ resourceFolder ++ lit "\">") =
      lit "  <gresource prefix=\"" ++ resourceFolder ++ lit "\">\n" := by
    have front : List.replicate 2 ' ' ++ lit "<gresource prefix=\"" = lit "  <gresource prefix=\"" := by decide +kernel
    have back : lit "\">" ++ lit "\n" = lit "\">\n" := by decide +kernel
    rw [markupLine, ← List.append_assoc, ← List.append_assoc, front, List.append_assoc, back]
  have groupEnd : markupLine 2 (lit "</gresource>") = lit "  </gresource>\n" := by decide +kernel
  unfold markup lines documentHead
  rw [group, groupEnd, List.flatten_append, List.flatten_append]
  simp only [List.flatten_cons, List.flatten_nil, List.append_nil, List.append_assoc]

end Manifest

namespace Converter

private theorem manifestOf_of_lines {c : Converter} {source part : Text} (lines : List AssetPartLine)
    (nonempty : lines ≠ []) (scanned : Asset.Part source c.config.assets.marker part)
    (written : part = ['\n'].intercalate (lines.map AssetPartLine.text))
    (fits : ∀ line ∈ lines, line.Fits c.config.assets.sourceFolder) :
    c.manifestOf source = .ok (Manifest.lines c.config.assets.resourceFolder
      ((lines.filterMap AssetPartLine.asset?).map AssetLine.file)).flatten := by
  have split : part.splitOn '\n' = lines.map AssetPartLine.text := by
    rw [written]
    refine List.splitOn_intercalate _ ?_ (by simpa using nonempty)
    intro t member
    obtain ⟨line, inside, rfl⟩ := List.mem_map.mp member
    exact AssetPartLine.lineFeed_not_mem_text (fits line inside)
  obtain ⟨assets, read, entries⟩ := AssetPartLine.exists_assets fits (source.byteSize - part.byteSize)
  have scan : Asset.scan source c.config.assets.marker = .ok assets := by
    rw [Asset.scan, scanned.sectionLines_eq, Text.lines, split, read, Diagnostics.gather_ok]
  have manifest : Manifest.ofAssets c.config.assets.sourceFolder c.config.assets.resourceFolder assets =
      .ok (Manifest.lines c.config.assets.resourceFolder
        ((lines.filterMap AssetPartLine.asset?).map AssetLine.file)).flatten := by
    have files := Diagnostics.gather_ok ((lines.filterMap AssetPartLine.asset?).map AssetLine.file)
    rw [List.map_map] at files
    rw [Manifest.ofAssets, entries, ← Manifest.markup_eq]
    exact congrArg (Except.map _) files
  rw [manifestOf, scan]
  exact congrArg (Except.mapError _) manifest

/-- However assets are listed in a script, the manifest holds, between its head and its end, one line for each of them,
in order, with its name and its path below the source folder. -/
theorem manifestOf_written {c : Converter} {source part : Text} {lines : List AssetPartLine}
    (scanned : Asset.Part source c.config.assets.marker part)
    (written : part = ['\n'].intercalate (lines.map AssetPartLine.text))
    (fits : ∀ line ∈ lines, line.Fits c.config.assets.sourceFolder) :
    c.manifestOf source = .ok (Manifest.lines c.config.assets.resourceFolder
      ((lines.filterMap AssetPartLine.asset?).map AssetLine.file)).flatten := by
  cases lines with
  | nil =>
    -- A part without lines is a part of one empty line.
    refine manifestOf_of_lines [.other []] (by simp) scanned written fun line member => ?_
    rw [List.mem_singleton.mp member]
    exact ⟨List.not_mem_nil, fun found => by cases List.infix_nil.mp found⟩
  | cons line rest => exact manifestOf_of_lines (line :: rest) (by simp) scanned written fits

/-- A script with one asset behind the marker. Its name is indented, its location holds two escapes, and its line
ends in a carriage return; what is listed before the marker is not looked at. -/
theorem manifestOf_written_marked :
    let c : Converter := {}
    c.manifestOf (lit "IDR_B RCDATA \"b\"\n// Generated from the TEXTINCLUDE 3 resource.\r\n" ++
        lit "\tIDR_A  RCDATA \"../res/\\x2Ea\\\"\" \r\n// comment") =
      .ok (lit "<?xml version=\"1.0\" encoding=\"UTF-8\"?>\n" ++
        lit "<!-- GResources XML file autogenerated by rcgtk - DO NOT EDIT! -->\n" ++
        lit "<gresources>\n  <gresource prefix=\"/res/\">\n    <file alias=\"IDR_A\">.a\"</file>\n" ++
        lit "  </gresource>\n</gresources>\n") := by
  intro c
  let before := lit "IDR_B RCDATA \"b\"\n"
  let asset : AssetLine := {
    leading := ['\t'], name := lit "IDR_A", spacesBefore := 2, path := lit ".a\""
    escaped := lit "../res/\\x2Ea\\\"", trailing := [' '], carriageReturn := true }
  let lines : List AssetPartLine := [.other ['\r'], .asset asset, .other (lit "// comment")]
  let part := ['\n'].intercalate (lines.map AssetPartLine.text)
  have spelled : Escape.Spelled asset.escaped (lit "../res/" ++ asset.path) := by
    have quote : Escape.Spelled ['\\', '"'] ['"'] := .cons (.letter (by decide)) .nil
    have letter : Escape.Spelled ['a', '\\', '"'] ['a', '"'] := .cons (.plain (by decide)) quote
    have dot : Escape.Spelled (lit "\\x2Ea\\\"") (lit ".a\"") :=
      .cons (.code (h := 2) (l := 14) (.inl rfl) (.inr rfl)) letter
    have folder : ∀ c ∈ lit "../res/", c ≠ '\\' ∧ c ≠ '\r' ∧ c ≠ '\n' := by decide
    exact dot.plain_append folder
  have scanned : Asset.Part (before ++ (Asset.defaultMarker ++ part)) Asset.defaultMarker part := by
    -- A later occurrence would begin behind the first character of the marker.
    have absent : ¬ Asset.defaultMarker <:+: (before ++ (Asset.defaultMarker ++ part)).drop (before.length + 1) := by
      decide +kernel
    refine .marked before rfl fun front back split => Nat.le_of_not_lt fun later => absent ?_
    rw [split, List.drop_append_of_le_length later]
    exact ⟨front.drop (before.length + 1), back, List.append_assoc _ _ _⟩
  have fits : ∀ line ∈ lines, line.Fits (lit "../res/") := by
    have folder : AssetPartLine.Fits (lit "../res/") (.asset asset) := ⟨by decide, by decide, by decide, by decide,
      by decide, spelled, by decide⟩
    have feed : AssetPartLine.Fits (lit "../res/") (.other ['\r']) := ⟨by decide, by decide⟩
    have comment : AssetPartLine.Fits (lit "../res/") (.other (lit "// comment")) :=
      ⟨by decide +kernel, by decide +kernel⟩
    simpa [lines] using ⟨feed, folder, comment⟩
  have source : lit "IDR_B RCDATA \"b\"\n// Generated from the TEXTINCLUDE 3 resource.\r\n" ++
      lit "\tIDR_A  RCDATA \"../res/\\x2Ea\\\"\" \r\n// comment" = before ++ (Asset.defaultMarker ++ part) := by
    decide +kernel
  have manifest := manifestOf_written (c := c) scanned rfl fits
  rw [source, manifest]
  exact congrArg Except.ok (by decide +kernel)

end Converter

end DialogGrid
