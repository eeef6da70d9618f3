import DialogGrid.Proofs.Separation

/-!
# The shape of directives

Whatever a script holds, a directive that is read from it has a name without blanks, and trimmed arguments on one line. In
these commas stand in quotes only, and all but the last one close the quotes that they open (`directives_shaped`). The scan
of an argument list is followed through its state: an open quote goes with the quotes of the piece that is being read, and
a separator right before it is all that lets a line feed into a piece, as its first character (`ArgumentList.scan_pieces`).
-/

namespace DialogGrid

/-! ## Trimming -/

theorem Text.exists_trim_append (t : Text) :
    ∃ before after, t = before ++ t.trim ++ after ∧ IsBlank before ∧ IsBlank after := by
  obtain ⟨after, trimmed, blank⟩ := exists_trimEnd_append t.trimStart
  refine ⟨t.takeWhile isBlank, after, ?_, ?_, blank⟩
  · rw [List.append_assoc, trim, trimmed]
    exact List.takeWhile_append_dropWhile.symm
  · intro c member
    exact List.all_eq_true.mp List.all_takeWhile c member

theorem Text.trim_trim (t : Text) : t.trim.trim = t.trim := by
  obtain ⟨before, after, whole, front, back⟩ := t.exists_trim_append
  have padded := trim_pad t.trim front back
  rw [← whole] at padded
  exact padded.symm

private theorem quoteAfter_blank {t : Text} (quoted : Bool) (blank : t.IsBlank) : quoteAfter quoted t = quoted := by
  have none : t.count '"' = 0 := List.count_eq_zero.mpr fun quote => absurd (blank _ quote) (by decide)
  simp [quoteAfter_eq, none]

private theorem quoteAfter_trim (quoted : Bool) (t : Text) : quoteAfter quoted t.trim = quoteAfter quoted t := by
  obtain ⟨before, after, whole, front, back⟩ := t.exists_trim_append
  conv => rhs; rw [whole]
  rw [quoteAfter_append, quoteAfter_append, quoteAfter_blank _ front, quoteAfter_blank _ back]

/-! ## Texts in one piece -/

namespace ArgumentList

private theorem Unsplit.of_append {quoted : Bool} {a b : Text} (unsplit : Unsplit quoted (a ++ b)) :
    Unsplit quoted a ∧ Unsplit (quoteAfter quoted a) b := by
  induction a generalizing quoted with
  | nil => exact ⟨trivial, unsplit⟩
  | cons c rest ih =>
    obtain ⟨notLf, notCr, comma, later⟩ := unsplit
    obtain ⟨front, back⟩ := ih later
    exact ⟨⟨notLf, notCr, comma, front⟩, back⟩

private theorem Unsplit.trim {quoted : Bool} {t : Text} (unsplit : Unsplit quoted t) : Unsplit quoted t.trim := by
  obtain ⟨before, after, whole, front, -⟩ := t.exists_trim_append
  rw [whole] at unsplit
  have inner := unsplit.of_append.1.of_append.2
  rwa [quoteAfter_blank _ front] at inner

private theorem Unsplit.oneLine {quoted : Bool} {t : Text} (unsplit : Unsplit quoted t) : '\r' ∉ t ∧ '\n' ∉ t := by
  constructor
  · intro member
    obtain ⟨a, b, rfl⟩ := List.append_of_mem member
    exact unsplit.of_append.2.2.1 rfl
  · intro member
    obtain ⟨a, b, rfl⟩ := List.append_of_mem member
    exact unsplit.of_append.2.1 rfl

/-- What keeps a text in one piece is that its commas stand in quotes. -/
theorem Unsplit.commasQuoted {t : Text} (unsplit : Unsplit false t) : CommasQuoted t := by
  intro i inside comma
  obtain ⟨_, here⟩ := List.getElem?_eq_some_iff.mp comma
  have whole : t = t.take i ++ ',' :: t.drop (i + 1) := by
    rw [← here, List.getElem_cons_drop, List.take_append_drop]
  rw [whole] at unsplit
  have open_ : quoteAfter false (t.take i) = true := unsplit.of_append.2.2.2.1 rfl
  rw [quoteAfter_eq] at open_
  simpa using open_

/-! ## Pieces -/

/-- A piece that is read in a state of the scan: it stays in one piece, but a line feed may stand before it where nothing
else stands between it and a separator. -/
inductive Piece (quoted : Bool) : Bool → Text → Prop
  | whole {separated : Bool} {t : Text} (unsplit : Unsplit quoted t) : Piece quoted separated t
  | continued {t : Text} (unsplit : Unsplit quoted t) : Piece quoted true ('\n' :: t)

/-- The pieces that are read in a state of the scan. Where a separator ends one of them no quote is open, and the next one
begins behind that separator. -/
inductive Pieces : Bool → Bool → List Text → Prop
  | last {quoted separated : Bool} {t : Text} (piece : Piece quoted separated t) : Pieces quoted separated [t]
  | more {quoted separated : Bool} {t : Text} {rest : List Text} (piece : Piece quoted separated t)
      (closed : quoteAfter quoted t = false) (later : Pieces false true rest) : Pieces quoted separated (t :: rest)

section
variable {quoted separated : Bool} {c : Char} (notFeed : ¬ (c = '\n' ∧ separated = false)) (notCarriage : c ≠ '\r')
  (notSeparator : ¬ (c = ',' ∧ quoted = false))
include notFeed notCarriage notSeparator

private theorem Piece.cons {t : Text} (piece : Piece (quoted ^^ c == '"') false t) :
    Piece quoted separated (c :: t) := by
  obtain ⟨unsplit⟩ := piece
  by_cases feed : c = '\n'
  · subst feed
    obtain rfl : separated = true := by simpa using notFeed
    rw [show ('\n' == '"') = false from rfl, Bool.xor_false] at unsplit
    exact .continued unsplit
  · have comma : c = ',' → quoted = true := by simpa using notSeparator
    exact .whole ⟨feed, notCarriage, comma, unsplit⟩

theorem Pieces.push {l : ArgumentList} (pieces : Pieces (quoted ^^ c == '"') false l.pieces) :
    Pieces quoted separated (l.push c).pieces := by
  unfold ArgumentList.push
  generalize l.pieces = texts at pieces
  cases pieces with
  | last piece => exact .last (piece.cons notFeed notCarriage notSeparator)
  | more piece closed later => exact .more (piece.cons notFeed notCarriage notSeparator) closed later

end

/-- Whatever the text, the scan cuts it into pieces that go with its state. -/
theorem scan_pieces (quoted separated : Bool) (t : Text) : Pieces quoted separated (scan quoted separated t).pieces := by
  fun_induction scan quoted separated t with
  | case1 => exact .last (.whole trivial)
  | case2 => exact .last (.whole trivial)
  | case3 quoted separated rest notFeed ih => exact ih
  | case4 quoted separated c rest notFeed notCarriage separator ih =>
    obtain ⟨rfl, rfl⟩ := separator
    exact .more (.whole trivial) rfl ih
  | case5 quoted separated c rest notFeed notCarriage inner ih => exact ih.push notFeed notCarriage inner

/-- The line feed that continues a list is trimmed away, and trimming takes no quote. -/
theorem Piece.trim {quoted separated : Bool} {t : Text} (piece : Piece quoted separated t) : Unsplit quoted t.trim := by
  cases piece with
  | whole unsplit => exact unsplit.trim
  | @continued t unsplit =>
    have feed : Text.IsBlank ['\n'] := LineBreak.isBlank_optional (some .lf)
    have trimmed : Text.trim ('\n' :: t) = t.trim := by simpa using Text.trim_pad t feed Text.IsBlank.nil
    rw [trimmed]
    exact unsplit.trim

private theorem Pieces.ne_nil {quoted separated : Bool} {texts : List Text} (pieces : Pieces quoted separated texts) :
    texts ≠ [] := by
  cases pieces <;> simp

theorem Pieces.trim {separated : Bool} {texts : List Text} (pieces : Pieces false separated texts) :
    (∀ t ∈ texts, Unsplit false t.trim) ∧ ∀ t ∈ texts.dropLast, quoteAfter false t.trim = false := by
  generalize start : false = quoted at pieces
  induction pieces with
  | last piece =>
    subst start
    simpa using piece.trim
  | more piece closed later ih =>
    subst start
    obtain ⟨unsplit, shut⟩ := ih rfl
    rw [List.dropLast_cons_of_ne_nil later.ne_nil]
    refine ⟨List.forall_mem_cons.mpr ⟨piece.trim, unsplit⟩, List.forall_mem_cons.mpr ⟨?_, shut⟩⟩
    rw [quoteAfter_trim]
    exact closed

end ArgumentList

/-! ## Directives -/

/-- A directive as it can be read. Every comma of an argument comes after an odd number of quotes, and every argument but
the last one holds an even number of them. -/
structure Directive.Shaped (d : Directive) : Prop where
  name_ne_nil : d.name ≠ []
  name_visible : ∀ c ∈ d.name, isBlank c = false
  trimmed : ∀ arg ∈ d.args, arg.trim = arg
  oneLine : ∀ arg ∈ d.args, '\r' ∉ arg ∧ '\n' ∉ arg
  commasQuoted : ∀ arg ∈ d.args, CommasQuoted arg
  closed : ∀ arg ∈ d.args.dropLast, arg.count '"' % 2 = 0

/-- Only a list of one empty argument cannot be written again. -/
theorem Directive.Shaped.canonical {d : Directive} (shaped : d.Shaped) (args : d.args ≠ [[]]) :
    Canonical d.name d.args where
  name_ne_nil := shaped.name_ne_nil
  name_visible := shaped.name_visible
  args_ne := args
  trimmed := shaped.trimmed
  oneLine := shaped.oneLine
  commasQuoted := shaped.commasQuoted
  closed := shaped.closed

/-- What is read for a directive gives it its shape, from whatever position it is read. -/
theorem Cursor.Takes.shaped {c after : Cursor} {d : Directive} {gap shown blank : Text}
    (takes : c.Takes d after gap shown blank) : d.Shaped := by
  have named := takes.parts
  rcases takes.args with ⟨-, noArgs, -⟩ | ⟨pieces, -, -, scanned, args⟩
  · refine ⟨named.name_ne_nil, named.visible, ?_, ?_, ?_, ?_⟩ <;> simp [noArgs]
  · have scan := ArgumentList.scan_pieces false false (shown ++ (blank ++ after.rest))
    rw [scanned] at scan
    obtain ⟨unsplit, shut⟩ := scan.trim
    rw [← List.forall_mem_map (P := ArgumentList.Unsplit false), ← args] at unsplit
    rw [← List.forall_mem_map (P := fun arg => quoteAfter false arg = false), List.map_dropLast, ← args] at shut
    refine ⟨named.name_ne_nil, named.visible, ?_, ?_, ?_, ?_⟩
    · intro arg member
      rw [args] at member
      obtain ⟨piece, -, rfl⟩ := List.mem_map.mp member
      exact piece.trim_trim
    · exact fun arg member => (unsplit arg member).oneLine
    · exact fun arg member => (unsplit arg member).commasQuoted
    · intro arg member
      have even := shut arg member
      rw [quoteAfter_eq] at even
      simpa using even

/-- Every directive that is read has this shape, whether or not the script is well formed. So it can be written again,
unless its only argument is empty. -/
theorem directives_shaped (source : Text) :
    ∀ d ∈ directives source, d.Shaped ∧ (d.args ≠ [[]] → Canonical d.name d.args) := by
  intro d member
  obtain ⟨c, after, -, next⟩ := Cursor.Stands.exists_next (Cursor.stands_ofByte source 0) member
  obtain ⟨gap, shown, blank, takes⟩ := Cursor.exists_takes next
  exact ⟨takes.shaped, takes.shaped.canonical⟩

/-- A list over two lines, with carriage returns that are dropped, blanks of all kinds that are trimmed, and a quote that
stays open behind the last separator. -/
theorem directives_shaped_continued :
    let source := lit " A \u00a0\"é, 1\"\t,\r\r\n\"\"b \r, c \"d,\u3000\nB\n"
    let d : Directive := ⟨['A'], [lit "\"é, 1\"", lit "\"\"b", lit "c \"d,"], .ofBounds 1 29⟩
    d ∈ directives source ∧ d.Shaped ∧ Canonical d.name d.args := by
  intro source d
  have read : Cursor.next ⟨0, source⟩ = (some d, ⟨33, lit "B\n"⟩) := by decide +kernel
  have member : d ∈ directives source := by
    rw [directives, Cursor.ofOffset_zero, Cursor.directives_of_next read]
    exact List.mem_cons_self
  obtain ⟨shaped, canonical⟩ := directives_shaped source d member
  exact ⟨member, shaped, canonical (by decide)⟩

end DialogGrid
