import DialogGrid.Proofs.Positions
import Mathlib.Data.List.TakeWhile
import Mathlib.Order.Bounds.Defs

/-!
# The declaration that a dialog is read from

A declaration is a line whose second word is one of two keywords. The lines of a script begin one behind the other
(`Text.pairwise_lines`), so the last of some declarations is the one that begins furthest behind
(`Dialog.nearest_of_declaration?`). This one is found by the search, and a dialog is read from it (`Dialog.parse_nearest`).
-/

namespace DialogGrid

/-! ## Lines -/

namespace Text

/-- A line where it stands in a text: at the beginning or behind a line feed, and up to the next line feed or the end. -/
def HasLine (t : Text) (line : Line) : Prop :=
  ∃ before behind, t = before ++ (line.text ++ behind) ∧ line.start = before.byteSize ∧
    (∀ c ∈ before.getLast?, c = '\n') ∧ '\n' ∉ line.text ∧ ∀ c ∈ behind.head?, c = '\n'

theorem mem_lines_iff {t : Text} {line : Line} : line ∈ t.lines ↔ t.HasLine line := by
  constructor
  · intro member
    obtain ⟨before, behind, split, start, oneLine, stop⟩ := exists_append_of_mem_lines [] member
    obtain ⟨front, rest, split', start', ended⟩ := exists_of_mem_lines [] (by simp) member
    have same : before = front := by
      have cut := splitAtByte_byteSize before (line.text ++ behind)
      rw [← split, split', ← start, start', splitAtByte_byteSize] at cut
      exact (Prod.mk.inj cut).1.symm
    subst same
    exact ⟨before, behind, split, start, ended, oneLine, stop⟩
  · rintro ⟨before, behind, rfl, start, ended, oneLine, stop⟩
    obtain ⟨earlier, split, -⟩ := lines_append (line.text ++ behind) ended
    rw [split, List.mem_append]
    right
    cases behind with
    | nil => simp [lines_single _ oneLine, ← start]
    | cons c rest =>
      obtain rfl := stop c rfl
      simp [lines_cons _ _ oneLine, ← start]

private theorem le_start_of_mem_lines {t : Text} {start : Nat} {line : Line} (member : line ∈ t.lines start) :
    start ≤ line.start := by
  induction t using line_induction generalizing start with
  | last only oneLine =>
    rw [lines_single _ oneLine, List.mem_singleton] at member
    simp [member]
  | more first rest oneLine ih =>
    rw [lines_cons _ _ oneLine] at member
    rcases List.mem_cons.mp member with rfl | later
    · exact Nat.le_refl _
    · have := ih later
      omega

private theorem pairwise_lines (t : Text) (start : Nat) : (t.lines start).Pairwise fun a b => a.start < b.start := by
  induction t using line_induction generalizing start with
  | last only oneLine => simp [lines_single _ oneLine]
  | more first rest oneLine ih =>
    rw [lines_cons _ _ oneLine]
    refine List.pairwise_cons.mpr ⟨fun line later => ?_, ih _⟩
    have := le_start_of_mem_lines later
    show start < line.start
    omega

/-- The lines that begin at or before a byte. As they are in order, these are all that there are before the first
line that does not. -/
private theorem mem_takeWhile_lines {t : Text} {index : Nat} {line : Line} :
    line ∈ t.lines.takeWhile (fun l => l.start ≤ index) ↔ t.HasLine line ∧ line.start ≤ index := by
  rw [← mem_lines_iff]
  constructor
  · intro member
    exact ⟨(List.takeWhile_prefix _).subset member, by simpa using List.mem_takeWhile_imp member⟩
  · rintro ⟨member, before⟩
    have ordered := t.pairwise_lines 0
    have stop := List.head?_dropWhile_not (fun l : Line => decide (l.start ≤ index)) t.lines
    rw [← List.takeWhile_append_dropWhile (p := fun l => l.start ≤ index) (l := t.lines)] at member ordered
    rcases List.mem_append.mp member with here | behind
    · exact here
    · obtain ⟨-, ordered, -⟩ := List.pairwise_append.mp ordered
      cases rest : t.lines.dropWhile (fun l => l.start ≤ index) with
      | nil => simp [rest] at behind
      | cons first more =>
        rw [rest] at behind ordered stop
        have first : index < first.start := by simpa using stop
        rcases List.mem_cons.mp behind with rfl | later
        · omega
        · have := (List.pairwise_cons.mp ordered).1 line later
          omega

/-- The end of the longest first part of a text that takes up no more than some number of bytes. -/
theorem isGreatest_boundary (t : Text) (n : Nat) :
    IsGreatest {m | m ≤ n ∧ ∃ front behind, t = front ++ behind ∧ m = front.byteSize} (t.boundary n) := by
  refine ⟨⟨t.boundary_le n, isBoundary_iff.mp (t.isBoundary_boundary n)⟩, ?_⟩
  rintro m ⟨le, front, behind, rfl, rfl⟩
  exact byteSize_le_boundary behind le

end Text

/-! ## Declarations -/

namespace Dialog

/-- What a line declares: its first word, if the second one is a keyword for it and the first one is not unwanted. -/
structure Declares (wanted? : Option Text) (line id : Text) : Prop where
  words : ∃ keyword rest, line.words = id :: keyword :: rest ∧
    (keyword.sameLetters (lit "DIALOG") = true ∨ keyword.sameLetters (lit "DIALOGEX") = true)
  wanted : ∀ w ∈ wanted?, id = w

/-- A declaration that begins at or before a byte of the script. -/
structure DeclaredUpTo (source : Text) (index : Nat) (wanted? : Option Text) (line : Line) (id : Text) : Prop where
  hasLine : source.HasLine line
  before : line.start ≤ index
  declares : Declares wanted? line.text id

/-- The last declaration that begins at or before a byte of the script. -/
structure Nearest (source : Text) (index : Nat) (wanted? : Option Text) (line : Line) (id : Text) : Prop
    extends DeclaredUpTo source index wanted? line id where
  last : ∀ other otherId, DeclaredUpTo source index wanted? other otherId → other.start ≤ line.start

theorem declares?_eq_some_iff {line id : Text} : declares? line = some id ↔ Declares none line id := by
  constructor
  · intro declared
    unfold declares? at declared
    split at declared
    · next first keyword rest words =>
      split at declared
      · next keywords =>
        obtain rfl := Option.some.inj declared
        exact ⟨⟨keyword, rest, words, by simpa using keywords⟩, by simp⟩
      · cases declared
    · cases declared
  · rintro ⟨⟨keyword, rest, words, keywords⟩, -⟩
    rw [declares?, words]
    exact if_pos (by rwa [Bool.or_eq_true])

theorem declares_iff {wanted? : Option Text} {line id : Text} :
    Declares wanted? line id ↔ Declares none line id ∧ wanted?.all (· == id) = true := by
  have wanted : (∀ w ∈ wanted?, id = w) ↔ wanted?.all (· == id) = true := by
    cases wanted? with
    | none => simp
    | some w => simpa using eq_comm
  constructor
  · rintro ⟨words, only⟩
    exact ⟨⟨words, by simp⟩, wanted.mp only⟩
  · rintro ⟨⟨words, -⟩, only⟩
    exact ⟨words, wanted.mpr only⟩

theorem mem_declarations_iff {wanted? : Option Text} {lines : List Line} {line : Line} {id : Text} :
    (line, id) ∈ declarations wanted? lines ↔ line ∈ lines ∧ Declares wanted? line.text id := by
  rw [declarations, List.mem_filter, List.mem_filterMap, declares_iff]
  constructor
  · rintro ⟨⟨other, member, declared⟩, wanted⟩
    obtain ⟨found, declares, same⟩ := Option.map_eq_some_iff.mp declared
    obtain ⟨rfl, rfl⟩ := Prod.mk.inj same
    exact ⟨member, declares?_eq_some_iff.mp declares, wanted⟩
  · rintro ⟨member, declares, wanted⟩
    exact ⟨⟨line, member, by rw [declares?_eq_some_iff.mpr declares]; rfl⟩, wanted⟩

private theorem pairwise_declarations (wanted? : Option Text) {lines : List Line}
    (ordered : lines.Pairwise fun a b => a.start < b.start) :
    (declarations wanted? lines).Pairwise fun a b => a.1.start < b.1.start := by
  refine (List.pairwise_filterMap.mpr (ordered.imp ?_)).filter _
  intro a b less found declared found' declared'
  obtain ⟨_, -, rfl⟩ := Option.map_eq_some_iff.mp declared
  obtain ⟨_, -, rfl⟩ := Option.map_eq_some_iff.mp declared'
  exact less

section
variable {source : Text} {index : Nat} {wanted? : Option Text} {line : Line} {id : Text}

private theorem mem_declarations_upTo :
    (line, id) ∈ declarations wanted? (source.lines.takeWhile fun l => l.start ≤ index) ↔
      DeclaredUpTo source index wanted? line id := by
  rw [mem_declarations_iff, Text.mem_takeWhile_lines]
  constructor
  · rintro ⟨⟨hasLine, before⟩, declares⟩
    exact ⟨hasLine, before, declares⟩
  · rintro ⟨hasLine, before, declares⟩
    exact ⟨⟨hasLine, before⟩, declares⟩

theorem declaration?_eq_none_iff :
    declaration? source index wanted? = none ↔ ¬ ∃ line id, DeclaredUpTo source index wanted? line id := by
  show (declarations wanted? _).getLast? = none ↔ _
  rw [List.getLast?_eq_none_iff, List.eq_nil_iff_forall_not_mem]
  constructor
  · rintro nothing ⟨line, id, declared⟩
    exact nothing (line, id) (mem_declarations_upTo.mpr declared)
  · rintro nothing ⟨line, id⟩ member
    exact nothing ⟨line, id, mem_declarations_upTo.mp member⟩

/-- What is found last begins furthest behind. -/
theorem nearest_of_declaration? (declared : declaration? source index wanted? = some (line, id)) :
    Nearest source index wanted? line id := by
  refine ⟨mem_declarations_upTo.mp (List.mem_of_getLast? declared), fun other otherId before => ?_⟩
  obtain ⟨earlier, split⟩ := List.getLast?_eq_some_iff.mp declared
  have ordered := pairwise_declarations wanted? ((source.pairwise_lines 0).sublist
    (List.takeWhile_sublist fun l => decide (l.start ≤ index)))
  have member := mem_declarations_upTo.mpr before
  rw [declarations] at ordered member
  rw [split] at ordered member
  rcases List.mem_append.mp member with early | here
  · exact Nat.le_of_lt ((List.pairwise_append.mp ordered).2.2 _ early (line, id) (by simp))
  · obtain ⟨rfl, rfl⟩ := Prod.mk.inj (List.mem_singleton.mp here)
    exact Nat.le_refl _

/-- A dialog that is read has the identifier of the declaration, and begins where the declaration does. -/
theorem begins_of_parse {d : Dialog} (parsed : parse source index wanted? = .ok d)
    (declared : declaration? source (source.boundary index) wanted? = some (line, id)) :
    d.id = id ∧ d.span.start = line.start := by
  obtain ⟨found, header, opening, close, rest, declared', -, consists⟩ := parse_eq_ok.mp parsed
  rw [declared] at declared'
  obtain ⟨rfl, rfl⟩ := Prod.mk.inj (Option.some.inj declared')
  exact ⟨rfl, by rw [consists.span]; rfl⟩

end

/-- The nearest declaration decides, looked for backward from the last character boundary at or before a byte. The
search ends in any case. It finds nothing exactly if no declaration begins up to there; then there is no dialog, and the
one problem that is reported points there. Otherwise it finds where the last of these declarations begins and
its identifier, and each dialog that is read begins there and has that identifier. -/
theorem parse_nearest (source : Text) (index : Nat) (wanted? : Option Text) :
    let i := source.boundary index
    IsGreatest {m | m ≤ index ∧ ∃ front behind, source = front ++ behind ∧ m = front.byteSize} i ∧
      (search? source i wanted? = some none ↔ ¬ ∃ line id, DeclaredUpTo source i wanted? line id) ∧
      (search? source i wanted? = some none →
        ∃ problem, (parse source index wanted?).mapError ReadError.diagnostic = .error problem ∧
          problem.severity = .error ∧ problem.code.map Code.text = some (lit "E110") ∧
          problem.labels.map (·.span) = [.ofBounds i i]) ∧
      ((∃ line id, DeclaredUpTo source i wanted? line id) →
        ∃ line id, Nearest source i wanted? line id ∧ search? source i wanted? = some (some (line.start, id)) ∧
          ∀ d, parse source index wanted? = .ok d → d.id = id ∧ d.span.start = line.start) := by
  intro i
  have search := search?_eq (source.isBoundary_boundary index) wanted?
  have nothing : search? source i wanted? = some none ↔ declaration? source i wanted? = none := by
    rw [search, Option.some_inj, Option.map_eq_none_iff]
  refine ⟨source.isGreatest_boundary index, nothing.trans declaration?_eq_none_iff, fun absent => ?_, fun present => ?_⟩
  · have absent := nothing.mp absent
    refine ⟨(ReadError.noDeclaration wanted? i).diagnostic, ?_, rfl, rfl, rfl⟩
    rw [parse]
    dsimp only
    rw [absent]
    rfl
  · cases declared : declaration? source i wanted? with
    | none => exact absurd present (declaration?_eq_none_iff.mp declared)
    | some found =>
      obtain ⟨line, id⟩ := found
      refine ⟨line, id, nearest_of_declaration? declared, ?_, fun d parsed => begins_of_parse parsed declared⟩
      rw [search, declared]
      rfl

/-- From inside the letter that another declaration begins with. An identifier in the wrong letter case is not found. -/
theorem parse_nearest_umlaut :
    let source := lit "A DIALOG\r\nÄ dialogex 0\nB DIALOG\nBEGIN\nEND\n"
    let dialog : Dialog :=
      { id := ['Ä'], header := [(['Ä'], [lit "dialogex 0"]), (['B'], [lit "DIALOG"])], body := [], span := .ofBounds 10 42 }
    source.boundary 11 = 10 ∧ parse source 11 none = .ok dialog ∧
      search? source 10 none = some (some (dialog.span.start, dialog.id)) ∧
      ∃ problem, (parse source 11 (some ['a'])).mapError ReadError.diagnostic = .error problem ∧
        problem.code.map Code.text = some (lit "E110") ∧ problem.labels.map (·.span) = [.ofBounds 10 10] := by
  intro source dialog
  have read : (Cursor.ofOffset source 10).directives =
      [⟨['Ä'], [lit "dialogex 0"], .ofBounds 10 23⟩, ⟨['B'], [lit "DIALOG"], .ofBounds 24 32⟩,
        ⟨lit "BEGIN", [], .ofBounds 33 38⟩, ⟨lit "END", [], .ofBounds 39 42⟩] :=
    Cursor.directives_of_within (n := 5) (by decide +kernel)
  have parsed : parse source 11 none = .ok dialog :=
    parse_eq_ok.mpr ⟨⟨10, lit "Ä dialogex 0"⟩, [_, _], _, _, [], by decide +kernel, read,
      ⟨by decide, by decide, by decide, by decide, by decide, by decide⟩⟩
  have declared : DeclaredUpTo source 10 none ⟨10, lit "Ä dialogex 0"⟩ ['Ä'] :=
    mem_declarations_upTo.mp (by decide +kernel)
  obtain ⟨-, -, -, finds⟩ := parse_nearest source 11 none
  obtain ⟨line, id, -, found, begins⟩ := finds ⟨_, _, declared⟩
  obtain ⟨rfl, lineStart⟩ := begins dialog parsed
  obtain ⟨-, absent, fails, -⟩ := parse_nearest source 11 (some ['a'])
  obtain ⟨problem, failed, -, code, labels⟩ := fails (absent.mpr (declaration?_eq_none_iff.mp (by decide +kernel)))
  refine ⟨by decide +kernel, parsed, ?_, problem, failed, code, labels⟩
  rw [lineStart]
  exact found

end Dialog

end DialogGrid
