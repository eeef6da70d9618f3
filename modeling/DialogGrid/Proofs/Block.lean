import DialogGrid.Dialog
import DialogGrid.Element
import DialogGrid.Proofs.RoundTrip

/-!
# Reading a dialog that was written

A dialog may stand anywhere in a script. Reading from its declaration line on gives its identifier,
its properties, its body and its span (`Dialog.parse_block`); what stands before and behind it
takes no part.
-/

namespace DialogGrid

/-! ## How a dialog is written -/

/-- A dialog as it is written: the line that declares it, its header, the line that opens the
body, the body and the line that closes it. -/
structure Block where
  id : Text
  keyword : Text
  rect : Rect
  lineBreak : LineBreak := .lf
  header : List Written := []
  opening : Written := { name := lit "BEGIN" }
  body : List Written := []
  closing : Written := { name := lit "END" }
  deriving DecidableEq, Repr

namespace Block

/-- The line that declares the dialog, without its line break. -/
def declaration (b : Block) : Text := b.id ++ ' ' :: (b.keyword ++ ' ' :: b.rect.text)

/-- All before the body. -/
def front (b : Block) : Text :=
  b.declaration ++ b.lineBreak.text ++ (Written.textOf b.header ++ b.opening.text)

def text (b : Block) : Text := b.front ++ (Written.textOf b.body ++ b.closing.text)

/-- All from the declaration to the keyword that closes the dialog. -/
def visible (b : Block) : Text := b.front ++ (Written.textOf b.body ++ (b.closing.gap ++ b.closing.name))

/-- The declaration, read as a property. The keyword goes with the first number. -/
def declared (b : Block) : Text × List Text :=
  (b.id, [b.keyword ++ ' ' :: Text.ofInt b.rect.x.toInt, Text.ofInt b.rect.y.toInt,
    Text.ofInt b.rect.width.toInt, Text.ofInt b.rect.height.toInt])

/-- The dialog that was written at byte `offset`. -/
def dialog (b : Block) (offset : Nat) : Dialog where
  id := b.id
  header := b.declared :: b.header.map fun w => (w.name, w.args)
  body := Written.directives (offset + b.front.byteSize) b.body
  span := .ofBounds offset (offset + b.visible.byteSize)

/-- The names in the header, with the one under which the declaration is kept. -/
def names (b : Block) : List Text := b.id :: b.header.map (·.name)

/-- What can be written as a dialog. A property has arguments, no two have one name, and neither
part holds the keyword that ends it. -/
structure Fits (b : Block) : Prop where
  id_ne_nil : b.id ≠ []
  id_visible : ∀ c ∈ b.id, isBlank c = false
  keyword : b.keyword.sameLetters (lit "DIALOG") = true ∨ b.keyword.sameLetters (lit "DIALOGEX") = true
  canonical : ∀ w ∈ b.header ++ b.body, Canonical w.name w.args
  layout : ∀ w ∈ b.header ++ b.opening :: b.body, w.Fits ∧ w.ending? ≠ none
  closing_layout : b.closing.Fits
  opening : b.opening.name.sameLetters (lit "BEGIN") = true ∧ b.opening.slots = []
  closing : b.closing.name.sameLetters (lit "END") = true ∧ b.closing.slots = []
  properties : ∀ w ∈ b.header, w.args ≠ []
  distinct : (b.names.map Text.upper).Nodup
  unopened : ∀ name ∈ b.names, name.sameLetters (lit "BEGIN") = false
  unclosed : ∀ w ∈ b.body, w.name.sameLetters (lit "END") = false

end Block

/-! ## The properties of a header -/

namespace Header

private theorem insert_new {h : Header} {name : Text} (args : List Text)
    (new : ∀ property ∈ h, property.1.upper ≠ name.upper) : h.insert name args = h ++ [(name, args)] := by
  induction h with
  | nil => rfl
  | cons property rest ih =>
    have other : property.1.sameLetters name = false := by
      simpa [Text.sameLetters] using new property List.mem_cons_self
    have later := ih fun p m => new p (List.mem_cons_of_mem property m)
    simp [insert, other, later]

private theorem ofDirectives_distinct {ds : List Directive} (args : ∀ d ∈ ds, d.args ≠ [])
    (distinct : (ds.map (·.name.upper)).Nodup) : ofDirectives ds = ds.map fun d => (d.name, d.args) := by
  -- The fold goes on from the properties that are there; the new names differ from theirs too.
  have general : ∀ h : Header, ((h.map (·.1.upper)) ++ ds.map (·.name.upper)).Nodup →
      ds.foldl (fun h d => h.insert d.name d.args) h = h ++ ds.map fun d => (d.name, d.args) := by
    clear args distinct
    induction ds with
    | nil => simp
    | cons d rest ih =>
      intro h distinct
      have new : ∀ property ∈ h, property.1.upper ≠ d.name.upper := by
        intro property member same
        exact (List.nodup_append.mp distinct).2.2 _ (List.mem_map_of_mem member) _ List.mem_cons_self same
      rw [List.foldl_cons, insert_new d.args new, ih _ (by simpa using distinct)]
      simp
  have kept : ds.filter (·.args ≠ []) = ds := List.filter_eq_self.mpr (by simpa using args)
  rw [ofDirectives, kept, general [] (by simpa using distinct)]
  rfl

end Header

/-! ## The declaration -/

private theorem Text.mem_ofInt {n : Int} {c : Char} (member : c ∈ ofInt n) : c.isDigit = true ∨ c = '-' := by
  cases n with
  | ofNat n => exact .inl (isDigit_of_mem_ofNat member)
  | negSucc n =>
    rcases List.mem_cons.mp member with minus | digit
    · exact .inr minus
    · exact .inl (isDigit_of_mem_ofNat digit)

theorem Text.ofInt_ne_nil (n : Int) : ofInt n ≠ [] := by
  cases n with
  | ofNat n => exact Nat.toDigits_ne_nil
  | negSucc n => exact List.cons_ne_nil _ _

/-- A character that an argument can hold anywhere. -/
def IsPlain (c : Char) : Prop := isBlank c = false ∧ c ≠ ',' ∧ c ≠ '"'

instance (c : Char) : Decidable (IsPlain c) := inferInstanceAs (Decidable (_ ∧ _))

theorem isPlain_of_mem_ofInt {n : Int} {c : Char} (member : c ∈ Text.ofInt n) : IsPlain c := by
  rcases Text.mem_ofInt member with digit | rfl
  · refine ⟨?_, ?_, ?_⟩
    · simp only [Char.isDigit, Bool.and_eq_true, decide_eq_true_eq] at digit
      have low : 48 ≤ c.toNat := digit.1
      have high : c.toNat ≤ 57 := digit.2
      simp [isBlank, blankRanges]
      omega
    · rintro rfl
      cases digit
    · rintro rfl
      cases digit
  · exact ⟨by decide, by decide, by decide⟩

private theorem isPlain_of_sameLetters {t s : Text} (same : t.sameLetters s = true) (plain : ∀ c ∈ s.upper, IsPlain c) :
    ∀ c ∈ t, IsPlain c := by
  intro c member
  refine ⟨?_, ?_, ?_⟩
  · cases blank : isBlank c with
    | false => rfl
    | true =>
      have := (plain c (Text.mem_of_sameLetters same member (Text.toUpper_of_isBlank blank))).1
      rwa [blank] at this
  · rintro rfl
    exact (plain _ (Text.mem_of_sameLetters same member (by decide))).2.1 rfl
  · rintro rfl
    exact (plain _ (Text.mem_of_sameLetters same member (by decide))).2.2 rfl

namespace Block

variable {b : Block}

private theorem isPlain_of_mem_keyword (fits : b.Fits) : ∀ c ∈ b.keyword, IsPlain c := by
  rcases fits.keyword with same | same
  · exact isPlain_of_sameLetters same (by decide)
  · exact isPlain_of_sameLetters same (by decide)

private theorem keyword_ne_nil (fits : b.Fits) : b.keyword ≠ [] := by
  intro nothing
  rcases fits.keyword with same | same <;> rw [nothing] at same <;> cases same

/-- The line that declares the dialog, as a directive. -/
def declaring (b : Block) : Written where
  name := b.id
  slots := b.declared.2.map fun arg => { before := [' '], arg }
  ending? := some b.lineBreak

private theorem text_declaring (b : Block) : b.declaring.text = b.declaration ++ b.lineBreak.text := by
  have comma : lit ", " = [',', ' '] := rfl
  simp [declaring, declared, Written.text, Written.content, Slot.listText, Slot.text, LineBreak.optional,
    declaration, Rect.text, List.intercalate, List.intersperse, comma]

private theorem fits_declaring (b : Block) : b.declaring.Fits where
  gap := by simp [declaring]
  blanks := by simp [declaring, declared, Inline]
  trailing := by simp [declaring, Inline]
  first := by simp [declaring, declared]
  last := by simp [declaring, declared]

/-- The numbers, and the keyword with the first of them, are plain but for the space between these
two, which stands at neither end. -/
private theorem plain_of_mem_declared (fits : b.Fits) {arg : Text} (member : arg ∈ b.declared.2) :
    (∀ c ∈ arg, IsPlain c ∨ c = ' ') ∧ (∀ c ∈ arg.head?, IsPlain c) ∧ ∀ c ∈ arg.getLast?, IsPlain c := by
  have number : ∀ n : Int, (∀ c ∈ Text.ofInt n, IsPlain c ∨ c = ' ') ∧ (∀ c ∈ (Text.ofInt n).head?, IsPlain c) ∧
      ∀ c ∈ (Text.ofInt n).getLast?, IsPlain c := fun n =>
    ⟨fun c m => .inl (isPlain_of_mem_ofInt m), fun c m => isPlain_of_mem_ofInt (List.mem_of_mem_head? m),
      fun c m => isPlain_of_mem_ofInt (List.mem_of_mem_getLast? m)⟩
  simp only [declared, List.mem_cons, List.not_mem_nil, or_false] at member
  rcases member with rfl | rfl | rfl | rfl
  · refine ⟨?_, ?_, ?_⟩
    · intro c inside
      rcases List.mem_append.mp inside with early | late
      · exact .inl (isPlain_of_mem_keyword fits c early)
      · rcases List.mem_cons.mp late with space | digit
        · exact .inr space
        · exact .inl (isPlain_of_mem_ofInt digit)
    · intro c first
      rw [List.head?_append, List.head?_eq_some_head (keyword_ne_nil fits)] at first
      cases first
      exact isPlain_of_mem_keyword fits _ (List.head_mem _)
    · intro c last
      rw [List.getLast?_append, List.getLast?_cons_of_ne_nil (Text.ofInt_ne_nil _),
        List.getLast?_eq_some_getLast (Text.ofInt_ne_nil _)] at last
      cases last
      exact isPlain_of_mem_ofInt (List.getLast_mem _)
  · exact number _
  · exact number _
  · exact number _

private theorem canonical_declaring (fits : b.Fits) : Canonical b.declaring.name b.declaring.args := by
  have args : b.declaring.args = b.declared.2 := by simp [declaring, Written.args, Function.comp_def]
  have plain := fun arg (member : arg ∈ b.declared.2) => plain_of_mem_declared fits member
  have lacks : ∀ arg ∈ b.declared.2, ∀ c, ¬ IsPlain c → c ≠ ' ' → c ∉ arg := by
    intro arg member c special notSpace inside
    rcases (plain arg member).1 c inside with isPlain | space
    · exact special isPlain
    · exact notSpace space
  have noQuote : ∀ arg ∈ b.declared.2, arg.count '"' = 0 := fun arg member =>
    List.count_eq_zero.mpr (lacks arg member '"' (by decide) (by decide))
  rw [args]
  exact {
    name_ne_nil := fits.id_ne_nil
    name_visible := fits.id_visible
    args_ne := by simp [declared]
    trimmed := fun arg member => Text.trim_eq_self (fun c first => ((plain arg member).2.1 c first).1)
      fun c last => ((plain arg member).2.2 c last).1
    oneLine := fun arg member => ⟨lacks arg member '\r' (by decide) (by decide),
      lacks arg member '\n' (by decide) (by decide)⟩
    commasQuoted := fun arg member i _ comma =>
      absurd (List.mem_of_getElem? comma) (lacks arg member ',' (by decide) (by decide))
    closed := fun arg member => by rw [noQuote arg (List.dropLast_subset _ member)] }

/-! ## Finding the declaration -/

private theorem declares?_declaration (fits : b.Fits) (behind : Text) :
    Dialog.declares? (b.declaration ++ behind) = some b.id := by
  have words : Text.words (b.declaration ++ behind) = b.id :: b.keyword :: Text.words (b.rect.text ++ behind) := by
    rw [declaration, List.append_assoc, List.cons_append, List.append_assoc, List.cons_append,
      Text.words_cons _ fits.id_ne_nil fits.id_visible (by decide),
      Text.words_cons _ (keyword_ne_nil fits) (fun c m => (isPlain_of_mem_keyword fits c m).1) (by decide)]
  rw [Dialog.declares?, words]
  simp only [Bool.or_eq_true, fits.keyword, if_true]

private theorem lineFeed_not_mem_declaration (fits : b.Fits) : '\n' ∉ b.declaration := by
  have comma : lit ", " = [',', ' '] := rfl
  have plain : ¬ IsPlain '\n' := by decide
  have number : ∀ n : Int, '\n' ∉ Text.ofInt n := fun n inside => plain (isPlain_of_mem_ofInt inside)
  have id : '\n' ∉ b.id := fun inside => absurd (fits.id_visible _ inside) (by decide)
  have keyword : '\n' ∉ b.keyword := fun inside => plain (isPlain_of_mem_keyword fits _ inside)
  simp [declaration, Rect.text, List.intercalate, List.intersperse, comma, number, id, keyword]

/-- The declaration is the last one at or before each byte of its line. -/
theorem declaration?_text {before : Text} (after : Text) {index : Nat} {wanted? : Option Text} (fits : b.Fits)
    (lineStart : ∀ c ∈ before.getLast?, c = '\n') (first : before.byteSize ≤ index)
    (last : index < before.byteSize + Text.byteSize (b.declaration ++ b.lineBreak.text))
    (wanted : ∀ id ∈ wanted?, id = b.id) :
    ∃ line, Dialog.declaration? (before ++ (b.text ++ after)) index wanted? = some (line, b.id) ∧
      line.start = before.byteSize := by
  obtain ⟨carriage, breakEq, oneLine⟩ : ∃ carriage, b.lineBreak.text = carriage ++ ['\n'] ∧ '\n' ∉ carriage := by
    cases b.lineBreak with
    | lf => exact ⟨[], rfl, by simp⟩
    | crlf => exact ⟨['\r'], rfl, by decide⟩
  obtain ⟨rest, textEq⟩ : ∃ rest, b.text ++ after = (b.declaration ++ carriage) ++ '\n' :: rest := by
    simp [text, front, breakEq]
  have lineText : '\n' ∉ b.declaration ++ carriage := by
    simp [lineFeed_not_mem_declaration fits, oneLine]
  obtain ⟨earlier, linesEq, starts⟩ := Text.lines_append (b.text ++ after) lineStart
  rw [textEq, Text.lines_cons _ _ lineText, List.append_cons earlier] at linesEq
  have all : ∀ line ∈ earlier ++ [⟨before.byteSize, b.declaration ++ carriage⟩],
      decide (line.start ≤ index) = true := by
    intro line member
    rw [decide_eq_true_eq]
    rcases List.mem_append.mp member with early | late
    · exact Nat.le_trans (Nat.le_of_lt (starts line early)) first
    · rw [List.mem_singleton.mp late]
      exact first
  have stop : ∀ line ∈ (Text.lines rest (before.byteSize + (Text.byteSize (b.declaration ++ carriage) + 1))).head?,
      decide (line.start ≤ index) = false := by
    intro line next
    rw [breakEq, ← List.append_assoc, Text.byteSize_append _ ['\n']] at last
    rw [Text.start_of_mem_head?_lines next, decide_eq_false_iff_not]
    exact Nat.not_le_of_lt last
  have accepted : wanted?.all (· == b.id) = true := by
    cases wanted? with
    | none => rfl
    | some id => simp [wanted id rfl]
  refine ⟨⟨before.byteSize, b.declaration ++ carriage⟩, ?_, rfl⟩
  rw [textEq, Dialog.declaration?, linesEq, Text.takeWhile_append_stop all stop]
  simp [declares?_declaration fits, accepted]

/-! ## Reading the dialog -/

private theorem canonical_of_keyword {w : Written} {keyword : Text} (same : w.name.sameLetters keyword = true)
    (nonempty : keyword ≠ []) (plain : ∀ c ∈ keyword.upper, IsPlain c) (slots : w.slots = []) :
    Canonical w.name w.args := by
  have args : w.args = [] := by rw [Written.args, slots]; rfl
  rw [args]
  exact {
    name_ne_nil := by
      intro nothing
      rw [nothing] at same
      exact nonempty (List.map_eq_nil_iff.mp (eq_of_beq same).symm)
    name_visible := fun c member => (isPlain_of_sameLetters same plain c member).1
    args_ne := by simp
    trimmed := by simp
    oneLine := by simp
    commasQuoted := by simp
    closed := by simp }

/-- All lines of the dialog. -/
def lines (b : Block) : List Written := b.declaring :: b.header ++ b.opening :: (b.body ++ [b.closing])

theorem textOf_lines (b : Block) : Written.textOf b.lines = b.text := by
  rw [lines, List.cons_append, Written.textOf_cons, Written.textOf_append, Written.textOf_cons,
    Written.textOf_append, text_declaring]
  simp [text, front, Written.textOf]

private theorem canonical_closing (fits : b.Fits) : Canonical b.closing.name b.closing.args :=
  canonical_of_keyword fits.closing.1 (by decide) (by decide) fits.closing.2

private theorem canonical_lines (fits : b.Fits) : ∀ w ∈ b.lines, Canonical w.name w.args := by
  have opening : Canonical b.opening.name b.opening.args :=
    canonical_of_keyword fits.opening.1 (by decide) (by decide) fits.opening.2
  intro w member
  simp only [lines, List.cons_append, List.mem_cons, List.mem_append, List.not_mem_nil, or_false] at member
  rcases member with rfl | header | rfl | body | rfl
  · exact canonical_declaring fits
  · exact fits.canonical w (List.mem_append_left _ header)
  · exact opening
  · exact fits.canonical w (List.mem_append_right _ body)
  · exact canonical_closing fits

private theorem layout_lines (fits : b.Fits) : (∀ w ∈ b.lines, w.Fits) ∧ ∀ w ∈ b.lines.dropLast, w.ending? ≠ none := by
  have inner : ∀ w ∈ b.declaring :: b.header ++ b.opening :: b.body, w.Fits ∧ w.ending? ≠ none := by
    intro w member
    rcases List.mem_cons.mp member with rfl | other
    · exact ⟨b.fits_declaring, by simp [declaring]⟩
    · exact fits.layout w other
  have linesEq : b.lines = (b.declaring :: b.header ++ b.opening :: b.body) ++ [b.closing] := by simp [lines]
  rw [linesEq, List.dropLast_concat]
  refine ⟨?_, fun w member => (inner w member).2⟩
  intro w member
  rcases List.mem_append.mp member with early | late
  · exact (inner w early).1
  · rw [List.mem_singleton.mp late]
    exact fits.closing_layout

/-- The header is kept as it was written, behind the declaration. -/
theorem ofDirectives_header (fits : b.Fits) (offset : Nat) :
    Header.ofDirectives (Written.directives offset (b.declaring :: b.header)) = (b.dialog offset).header := by
  have nonempty : ∀ w ∈ b.declaring :: b.header, w.args ≠ [] := by
    intro w member
    rcases List.mem_cons.mp member with rfl | other
    · simp [declaring, declared, Written.args]
    · exact fits.properties w other
  rw [Header.ofDirectives_distinct]
  · rw [Written.map_directives Prod.mk]
    simp [dialog, declaring, Written.args, declared]
  · intro d member
    obtain ⟨w, inside, -, args⟩ := Written.exists_of_mem_directives member
    rw [← args]
    exact nonempty w inside
  · rw [Written.map_directives fun name _ => name.upper]
    simpa [declaring, names, Function.comp_def] using fits.distinct

/-- The directives of the dialog, and then those behind it. -/
theorem directives_text (fits : b.Fits) (offset : Nat) {after : Text} (ended : b.closing.ending? = none → after = []) :
    ∃ open_ more, open_.name = b.opening.name ∧
      Cursor.directives ⟨offset, b.text ++ after⟩ =
        Written.directives offset (b.declaring :: b.header) ++
          open_ :: ((b.dialog offset).body ++
            b.closing.directive (offset + b.front.byteSize + (Written.textOf b.body).byteSize) :: more) := by
  obtain ⟨layout, breaks⟩ := layout_lines fits
  have last : after = [] ∨ ∀ w ∈ b.lines, w.ending? ≠ none := by
    by_cases unended : b.closing.ending? = none
    · exact .inl (ended unended)
    · right
      intro w member
      have split : b.lines = b.lines.dropLast ++ [b.closing] := by
        rw [lines, ← List.cons_append, ← List.append_assoc, List.dropLast_concat]
      rw [split] at member
      rcases List.mem_append.mp member with early | closing
      · exact breaks w early
      · rwa [List.mem_singleton.mp closing]
  have read := Cursor.directives_textOf offset (canonical_lines fits) layout breaks last
  have frontEq : b.front.byteSize = (Written.textOf (b.declaring :: b.header)).byteSize + b.opening.text.byteSize := by
    rw [Written.textOf_cons, text_declaring]
    simp only [front, Text.byteSize_append]
    omega
  have inner : ∀ o, Written.directives o (b.opening :: (b.body ++ [b.closing])) =
      b.opening.directive o :: (Written.directives (o + b.opening.text.byteSize) b.body ++
        [b.closing.directive (o + b.opening.text.byteSize + (Written.textOf b.body).byteSize)]) := by
    intro o
    rw [Written.directives, Written.directives_append]
    rfl
  rw [textOf_lines] at read
  refine ⟨b.opening.directive (offset + (Written.textOf (b.declaring :: b.header)).byteSize),
    Cursor.directives ⟨offset + b.text.byteSize, after⟩, rfl, ?_⟩
  rw [read, lines, Written.directives_append, inner]
  simp [dialog, frontEq, Nat.add_assoc]

private theorem stop_closing (fits : b.Fits) (offset : Nat) :
    (b.closing.directive (offset + b.front.byteSize + (Written.textOf b.body).byteSize)).span.stop =
      offset + b.visible.byteSize := by
  have content : b.closing.content.trimEnd = b.closing.name := by
    rw [Written.trimEnd_content (canonical_closing fits), fits.closing.2]
    simp [Slot.listText, Text.trimEnd]
  simp only [Written.directive, Span.ofBounds, content, visible, Text.byteSize_append]
  omega

end Block

/-- Reading from any byte of the line that declares a dialog gives the dialog, whatever stands before
and behind it. -/
theorem Dialog.parse_block {b : Block} {before after : Text} {index : Nat} {wanted? : Option Text} (fits : b.Fits)
    (lineStart : ∀ c ∈ before.getLast?, c = '\n') (ended : b.closing.ending? = none → after = [])
    (first : before.byteSize ≤ index)
    (last : index < before.byteSize + Text.byteSize (b.declaration ++ b.lineBreak.text))
    (wanted : ∀ id ∈ wanted?, id = b.id) :
    Dialog.parse (before ++ (b.text ++ after)) index wanted? = .ok (b.dialog before.byteSize) := by
  have low := Text.byteSize_le_boundary (b.text ++ after) first
  have high := Nat.lt_of_le_of_lt (Text.boundary_le (before ++ (b.text ++ after)) index) last
  obtain ⟨line, found, start⟩ := Block.declaration?_text after fits lineStart low high wanted
  obtain ⟨open_, more, opens, read⟩ := Block.directives_text fits before.byteSize ended
  have header : ∀ d ∈ Written.directives before.byteSize (b.declaring :: b.header),
      (!d.isNamed (lit "BEGIN")) = true := by
    intro d member
    obtain ⟨w, inside, name, -⟩ := Written.exists_of_mem_directives member
    have named : w.name ∈ b.names := by
      rcases List.mem_cons.mp inside with rfl | other
      · exact List.mem_cons_self
      · exact List.mem_cons_of_mem _ (List.mem_map_of_mem other)
    rw [Directive.isNamed, ← name, fits.unopened w.name named]
    rfl
  have body : ∀ d ∈ (b.dialog before.byteSize).body, (!d.isNamed (lit "END")) = true := by
    intro d member
    obtain ⟨w, inside, name, -⟩ := Written.exists_of_mem_directives member
    rw [Directive.isNamed, ← name, fits.unclosed w inside]
    rfl
  have begins : open_.isNamed (lit "BEGIN") = true := by
    rw [Directive.isNamed, opens]
    exact fits.opening.1
  have ends : ∀ offset, (b.closing.directive offset).isNamed (lit "END") = true := fun _ => fits.closing.1
  simp only [Dialog.parse, found, start, Cursor.ofOffset_byteSize, read]
  rw [Text.span_append_stop header (by simp [begins])]
  dsimp only
  rw [Text.span_append_stop body (by simp [ends])]
  simp only [Block.ofDirectives_header fits, Block.stop_closing fits]
  rfl

/-- A dialog between two others, the second of the same identifier, with `BEGIN` in its body and `END`
in its header. -/
theorem Dialog.parse_block_between :
    let before := lit "IDD_A DIALOG 0,0,1,1\nBEGIN\nEND\n"
    let b : Block := {
      id := lit "IDD_B"
      keyword := lit "DialogEx"
      rect := ⟨12, -3, 232, 326⟩
      lineBreak := .crlf
      header := [{ name := lit "End", slots := [{ before := [' '], arg := lit "\"B, C\"" }] }]
      opening := { name := lit "begin", ending? := some .crlf }
      body := [{ gap := lit "  ", name := lit "BEGIN" },
        { name := lit "LTEXT", slots := [{ before := [' '], arg := [] }, { lineBreak? := some .lf, arg := lit "8" }] }]
      closing := { gap := lit "\t", name := lit "END" } }
    b.Fits ∧
      Dialog.parse (before ++ (b.text ++ lit "IDD_B DIALOG 0,0,1,1\nEND\n")) 34 (some (lit "IDD_B")) =
        .ok { id := lit "IDD_B"
              header := [(lit "IDD_B", [lit "DialogEx 12", lit "-3", lit "232", lit "326"]),
                (lit "End", [lit "\"B, C\""])]
              body := [⟨lit "BEGIN", [], .ofBounds 84 89⟩, ⟨lit "LTEXT", [[], lit "8"], .ofBounds 90 99⟩]
              span := .ofBounds 31 104 } := by
  intro before b
  have fits : b.Fits := {
    id_ne_nil := by decide
    id_visible := by decide
    keyword := by decide
    canonical := by decide
    layout := by decide
    closing_layout := by decide
    opening := by decide
    closing := by decide
    properties := by decide
    distinct := by decide
    unopened := by decide
    unclosed := by decide }
  have lineStart : ∀ c ∈ before.getLast?, c = '\n' := fun c last => (Option.some.inj last).symm
  refine ⟨fits, ?_⟩
  rw [Dialog.parse_block fits lineStart (by decide) (by decide) (by decide) (by decide)]
  decide

end DialogGrid
