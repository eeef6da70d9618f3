import DialogGrid.Proofs.Separation

/-!
# Directives behind either kind of line break

A script is read in step with the one that has a carriage return before each of its line feeds: after as many calls the
two readers stand at the same place, which lies one byte further on for each line feed before it, and they have given
the same directives (`directives_crlf`).
-/

namespace DialogGrid

/-! ## Stretches -/

private theorem Span.Slices.exists_split {source : Text} {s : Span} (slices : s.Slices source) :
    ∃ a b c, source = a ++ (b ++ c) ∧ s.start = a.byteSize ∧ s.stop = Text.byteSize (a ++ b) := by
  have ordered := slices.ordered
  obtain ⟨a, behind, whole, start⟩ := Text.isBoundary_iff.mp slices.start
  obtain ⟨front, c, same, stop⟩ := Text.isBoundary_iff.mp slices.stop
  obtain ⟨b, rfl, rfl⟩ := Text.exists_between (whole.symm.trans same) (by omega)
  exact ⟨a, b, c, whole, start, stop⟩

/-- A stretch of a script holds the same text once the carriage returns are put in. -/
theorem Span.Slices.slice?_relocated {source : Text} {s : Span} (slices : s.Slices source) :
    (Text.crlf source).slice? (source.relocated s.start) (source.relocated s.stop) =
      (source.slice? s.start s.stop).map Text.crlf := by
  obtain ⟨a, b, c, rfl, start, stop⟩ := slices.exists_split
  have first := Text.relocated_byteSize a (b ++ c)
  have last := Text.relocated_byteSize (a ++ b) c
  rw [List.append_assoc, Text.crlf_append, Text.byteSize_append (Text.crlf a)] at last
  rw [start, stop, first, last, Text.byteSize_append a, Text.slice?_append, Text.crlf_append, Text.crlf_append,
    Text.slice?_append]
  rfl

/-! ## Reading in step -/

/-- A directive of a script and the one that is read in its place once the carriage returns are put in: the two differ
only in where they stand, by one byte for each line feed before it. -/
structure Directive.Relocates (source : Text) (d d' : Directive) : Prop where
  name : d'.name = d.name
  args : d'.args = d.args
  start : d'.span.start = d.span.start + (source.splitAtByte d.span.start).1.count '\n'
  stop : d'.span.stop = d.span.stop + (source.splitAtByte d.span.stop).1.count '\n'
  text : (Text.crlf source).slice? d'.span.start d'.span.stop = (source.slice? d.span.start d.span.stop).map Text.crlf

private theorem Directive.Located.relocates {source : Text} {d : Directive} (located : d.Located source) :
    d.Relocates source (d.moved (Span.relocated source)) where
  name := rfl
  args := rfl
  start := rfl
  stop := rfl
  text := located.span.slice?_relocated

namespace Cursor

variable {source : Text} {c : Cursor}

private theorem Stands.after_crlf (stands : c.Stands source) (noReturn : '\r' ∉ source) (n : Nat) :
    (c.crlf source).after n = (c.after n).crlf source := by
  induction n with
  | zero => rfl
  | succ n ih =>
    obtain ⟨step, -⟩ := (stands.stands_after n).next noReturn
    rw [after_succ', after_succ', ih, step]

private theorem Stands.relocates_directives (stands : c.Stands source) (noReturn : '\r' ∉ source) :
    List.Forall₂ (Directive.Relocates source) c.directives (c.crlf source).directives := by
  obtain ⟨located, -⟩ := stands.located_directives
  rw [stands.directives noReturn, List.forall₂_map_right_iff, List.forall₂_same]
  exact fun d member => (located d member).1.relocates

end Cursor

/-- A script without carriage returns is read alike once one is put before each of its line feeds: as many directives,
with the same names and arguments in the same order, each about the same text, and each of its ends one byte further on
for each line feed before it. This holds of every position that is reached on the way. -/
theorem directives_crlf {source : Text} (noReturn : '\r' ∉ source) :
    List.Forall₂ (Directive.Relocates source) (directives source) (directives (Text.crlf source)) ∧
      ∀ n, (Cursor.ofOffset (Text.crlf source) 0).after n = ((Cursor.ofOffset source 0).after n).crlf source := by
  have stands := Cursor.stands_ofByte source 0
  have origin : source.relocated 0 = 0 := Text.relocated_byteSize [] source
  have start : Cursor.ofOffset (Text.crlf source) 0 = (Cursor.ofOffset source 0).crlf source := by
    rw [Cursor.ofOffset_zero, Cursor.ofOffset_zero, Cursor.crlf, origin]
  rw [directives, directives, start]
  exact ⟨stands.relocates_directives noReturn, stands.after_crlf noReturn⟩

/-- A blank line, a list over two lines, a line that ends without arguments, and a quote that stays open. -/
theorem directives_crlf_quotes :
    let source := lit "\nÄ 1,\n \"é, 2\n\n B  \nC \"x,\n"
    let read : List Directive := [⟨['Ä'], [['1'], lit "\"é, 2"], .ofBounds 1 14⟩, ⟨['B'], [], .ofBounds 17 18⟩,
      ⟨['C'], [lit "\"x,"], .ofBounds 21 26⟩]
    '\r' ∉ source ∧ List.Forall₂ (Directive.Relocates source) read (directives (Text.crlf source)) ∧
      (Cursor.ofOffset (Text.crlf source) 0).after 2 = ⟨26, lit "C \"x,\r\n"⟩ := by
  intro source read
  have directives : directives source = read := Cursor.directives_of_within (n := 4) (by decide +kernel)
  have noReturn : '\r' ∉ source := by decide
  obtain ⟨relocates, steps⟩ := directives_crlf noReturn
  rw [directives] at relocates
  refine ⟨noReturn, relocates, ?_⟩
  rw [steps]
  decide +kernel

end DialogGrid
