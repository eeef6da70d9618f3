import DialogGrid.Proofs.Layout
import DialogGrid.Proofs.Style
import Mathlib.Data.List.Forall2

/-!
# The normal form of a style

Whatever is read as a style has its flags in normal form, so a style that is written out and read again stays as it is. Every
list of flags in normal form is read back from every way to write it: with any blanks around a flag, and with any blanks but
at least one for a space inside (`Style.parse_normal`).
-/

namespace DialogGrid.Style

/-! ## Flags that are read -/

/-- A word of a flag: a visible text without a bar. -/
structure Word (word : Text) : Prop where
  ne_nil : word ≠ []
  noBar : '|' ∉ word
  visible : ∀ c ∈ word, isBlank c = false

private theorem Word.noSpace {word : Text} (isWord : Word word) : ' ' ∉ word := fun space =>
  absurd (isWord.visible ' ' space) (by decide)

private theorem double_of_append {word rest : Text} (noSpace : ' ' ∉ word) (double : [' ', ' '] <:+: word ++ rest) :
    [' ', ' '] <:+: rest := by
  induction word with
  | nil => exact double
  | cons c word ih =>
    rw [List.mem_cons, not_or] at noSpace
    rw [List.cons_append, List.infix_cons_iff] at double
    rcases double with first | later
    · exact absurd (List.cons_prefix_cons.mp first).1 noSpace.1
    · exact ih noSpace.2 later

private theorem Word.normal {word : Text} (isWord : Word word) : NormalFlag word where
  ne_nil := isWord.ne_nil
  noBar := isWord.noBar
  blanks c member blank := by
    rw [isWord.visible c member] at blank
    cases blank
  first space := isWord.noSpace (List.mem_of_mem_head? space)
  last space := isWord.noSpace (List.mem_of_getLast? space)
  single double := isWord.noSpace (double.subset List.mem_cons_self)

private theorem Word.normal_append {word rest : Text} (isWord : Word word) (normal : NormalFlag rest) :
    NormalFlag (word ++ ' ' :: rest) where
  ne_nil := by simp
  noBar := by simp [isWord.noBar, normal.noBar]
  blanks c member blank := by
    rcases List.mem_append.mp member with early | late
    · rw [isWord.visible c early] at blank
      cases blank
    · rcases List.mem_cons.mp late with rfl | behind
      · rfl
      · exact normal.blanks c behind blank
  first space := by
    rw [List.head?_append, List.head?_eq_some_head isWord.ne_nil] at space
    exact isWord.noSpace (List.mem_of_mem_head? ((List.head?_eq_some_head isWord.ne_nil).trans space))
  last space := by
    rw [List.getLast?_append, List.getLast?_cons_of_ne_nil normal.ne_nil,
      List.getLast?_eq_some_getLast normal.ne_nil] at space
    exact normal.last ((List.getLast?_eq_some_getLast normal.ne_nil).trans space)
  single double := by
    rcases List.infix_cons_iff.mp (double_of_append isWord.noSpace double) with here | behind
    · obtain ⟨more, same⟩ := (List.cons_prefix_cons.mp here).2
      exact normal.first (by rw [← same]; rfl)
    · exact normal.single behind

/-- Words with single spaces between them are a flag in normal form. -/
theorem normal_intercalate {words : List Text} (nonempty : words ≠ []) (all : ∀ word ∈ words, Word word) :
    NormalFlag ([' '].intercalate words) := by
  induction words with
  | nil => exact absurd rfl nonempty
  | cons word rest ih =>
    have first := all word List.mem_cons_self
    cases rest with
    | nil =>
      rw [List.intercalate_singleton]
      exact first.normal
    | cons next more =>
      rw [List.intercalate_cons_cons, List.append_assoc, List.singleton_append]
      exact first.normal_append (ih (by simp) fun w member => all w (List.mem_cons_of_mem word member))

/-- What is left of a text without bars, if anything is, is a flag in normal form. -/
theorem normal_normalFlag {t : Text} (noBar : '|' ∉ t) (something : normalFlag t ≠ []) : NormalFlag (normalFlag t) := by
  refine normal_intercalate (fun nothing => something ?_) fun word member => ?_
  · rw [normalFlag, nothing]
    rfl
  · obtain ⟨nonempty, inside⟩ := Text.of_mem_words member
    exact ⟨nonempty, fun bar => noBar (inside '|' bar).2, fun c here => (inside c here).1⟩

theorem normal_of_mem_parse {raw flag : Text} (member : flag ∈ (parse raw).flags) : NormalFlag flag := by
  obtain ⟨read, something⟩ := List.mem_filter.mp member
  obtain ⟨piece, split, rfl⟩ := List.mem_map.mp read
  rw [List.splitOn_eq_splitOnP] at split
  have noBar : '|' ∉ piece := fun bar => by simpa using (Text.of_mem_splitOnP split '|' bar).1
  exact normal_normalFlag noBar (by simpa using something)

/-! ## Flags that are written -/

/-- A text with at least one blank in the place of every space of a flag. -/
inductive Spaced : Text → Text → Prop
  | nil : Spaced [] []
  | visible {c : Char} {flag t : Text} (shown : isBlank c = false) (rest : Spaced flag t) : Spaced (c :: flag) (c :: t)
  | space {blank flag t : Text} (nonempty : blank ≠ []) (all : blank.IsBlank) (rest : Spaced flag t) :
      Spaced (' ' :: flag) (blank ++ t)

/-- A flag as it may be written: with blanks around it and in it. -/
def Writes (flag t : Text) : Prop :=
  ∃ before spaced after, before.IsBlank ∧ Spaced flag spaced ∧ after.IsBlank ∧ t = before ++ spaced ++ after

theorem Spaced.append {word flag t : Text} (visible : ∀ c ∈ word, isBlank c = false) (rest : Spaced flag t) :
    Spaced (word ++ flag) (word ++ t) := by
  induction word with
  | nil => exact rest
  | cons c word ih =>
    exact .visible (visible c List.mem_cons_self) (ih fun d member => visible d (List.mem_cons_of_mem c member))

private theorem Spaced.not_mem {flag t : Text} {c : Char} (spaced : Spaced flag t) (shown : isBlank c = false)
    (absent : c ∉ flag) : c ∉ t := by
  induction spaced with
  | nil => exact absent
  | visible _ _ ih =>
    rw [List.mem_cons, not_or] at absent ⊢
    exact ⟨absent.1, ih absent.2⟩
  | space _ all _ ih =>
    rw [List.mem_cons, not_or] at absent
    rw [List.mem_append, not_or]
    refine ⟨fun member => ?_, ih absent.2⟩
    rw [all c member] at shown
    cases shown

/-- The words of a flag are those of every text that it is written as. -/
theorem Spaced.words {flag t : Text} (spaced : Spaced flag t) : Text.words t = Text.words flag := by
  -- What stands before is the beginning of a word that is not at its end yet.
  have general : ∀ before : Text, Text.words (before ++ t) = Text.words (before ++ flag) := by
    induction spaced with
    | nil => exact fun before => rfl
    | @visible c flag t shown rest ih =>
      intro before
      have later := ih (before ++ [c])
      rwa [List.append_assoc, List.append_assoc] at later
    | @space blank flag t nonempty all rest ih =>
      intro before
      obtain ⟨c, more, rfl⟩ := List.exists_cons_of_ne_nil nonempty
      have padded := Text.words_pad t (fun d member => all d (List.mem_cons_of_mem c member)) .nil
      rw [List.append_nil] at padded
      rw [List.cons_append, Text.words_append_blank before (more ++ t) (all c List.mem_cons_self), padded,
        Text.words_append_blank before flag (by decide)]
      exact congrArg _ (ih [])
  exact general []

/-- A flag in normal form is read back however it is written. -/
theorem Writes.normalFlag_eq {flag t : Text} (writes : Writes flag t) (normal : NormalFlag flag) : normalFlag t = flag := by
  obtain ⟨before, spaced, after, front, inner, back, rfl⟩ := writes
  rw [normalFlag_pad spaced front back, normalFlag, inner.words, ← normalFlag, normalFlag_eq_self normal]

private theorem Writes.noBar {flag t : Text} (writes : Writes flag t) (noBar : '|' ∉ flag) : '|' ∉ t := by
  obtain ⟨before, spaced, after, front, inner, back, rfl⟩ := writes
  have shown : ∀ blank : Text, blank.IsBlank → '|' ∉ blank := fun blank all bar => absurd (all '|' bar) (by decide)
  simp [shown before front, shown after back, inner.not_mem (by decide) noBar]

/-! ## Reading a style -/

theorem flags_parse_append (a b : Text) : (parse (a ++ '|' :: b)).flags = (parse a).flags ++ (parse b).flags := by
  rw [parse, List.splitOn_append_cons_self, List.map_append, List.filter_append, parse, parse]

private theorem flags_parse_single {flag t : Text} (writes : Writes flag t) (normal : NormalFlag flag) :
    (parse t).flags = [flag] := by
  have noBar := writes.noBar normal.noBar
  rw [parse, List.splitOn_eq_singleton noBar, List.map_singleton, writes.normalFlag_eq normal]
  simp [normal.ne_nil]

private theorem flags_parse_written {flags written : List Text} (writes : List.Forall₂ Writes flags written)
    (normal : ∀ flag ∈ flags, NormalFlag flag) : (parse (['|'].intercalate written)).flags = flags := by
  induction writes with
  | nil => rfl
  | @cons flag t flags written first rest ih =>
    have single := flags_parse_single first (normal flag List.mem_cons_self)
    have later := ih fun f member => normal f (List.mem_cons_of_mem flag member)
    cases rest with
    | nil => rwa [List.intercalate_singleton]
    | cons =>
      rw [List.intercalate_cons_cons, List.append_assoc, List.singleton_append, flags_parse_append, single, later,
        List.singleton_append]

/-- The flags of a style that is read are in normal form, and the style stays as it is when it is written out and read
again. Every list of flags in normal form is read back from every way to write it. And a bar divides a style into two. -/
theorem parse_normal :
    (∀ raw : Text, (∀ flag ∈ (parse raw).flags, NormalFlag flag) ∧ parse (parse raw).text = parse raw) ∧
    (∀ flags written : List Text, (∀ flag ∈ flags, NormalFlag flag) → List.Forall₂ Writes flags written →
      (parse (['|'].intercalate written)).flags = flags) ∧
    ∀ a b : Text, (parse (a ++ '|' :: b)).flags = (parse a).flags ++ (parse b).flags := by
  refine ⟨fun raw => ?_, fun flags written normal writes => flags_parse_written writes normal, flags_parse_append⟩
  have normal : ∀ flag ∈ (parse raw).flags, NormalFlag flag := fun flag member => normal_of_mem_parse member
  exact ⟨normal, parse_text normal⟩

/-- Two flags, of which the first one has a tabulator and an ideographic space for the space inside. -/
theorem parse_normal_ideographic :
    let flags := [lit "NOT WS_VISIBLE", lit "WS_TABSTOP"]
    let written := [lit " NOT\t\u3000WS_VISIBLE", lit "WS_TABSTOP\r\n"]
    (∀ flag ∈ flags, NormalFlag flag) ∧ List.Forall₂ Writes flags written ∧
      (parse (['|'].intercalate written)).flags = flags := by
  intro flags written
  have normal : ∀ flag ∈ flags, NormalFlag flag := by decide
  have visible : Spaced (lit "WS_VISIBLE" ++ []) (lit "WS_VISIBLE" ++ []) := .append (by decide) .nil
  have both : Spaced (lit "NOT" ++ ' ' :: (lit "WS_VISIBLE" ++ []))
      (lit "NOT" ++ (lit "\t\u3000" ++ (lit "WS_VISIBLE" ++ []))) :=
    .append (by decide) (.space (by decide) (by decide) visible)
  have stop : Spaced (lit "WS_TABSTOP" ++ []) (lit "WS_TABSTOP" ++ []) := .append (by decide) .nil
  have writes : List.Forall₂ Writes flags written :=
    .cons ⟨[' '], _, [], by decide, both, .nil, by decide⟩
      (.cons ⟨[], _, ['\r', '\n'], .nil, stop, by decide, by decide⟩ .nil)
  exact ⟨normal, writes, parse_normal.2.1 flags written normal writes⟩

end DialogGrid.Style
