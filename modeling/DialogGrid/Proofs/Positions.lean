import DialogGrid.Proofs.Locality

/-!
# Positions

The positions at which a dialog is read are stretches of the script: their two ends stand in order, lie in the script
and divide no character. So are those that are looked at on the way: in the search for the declaration, which goes from
line feed to line feed (`Dialog.search?_eq`), and in reading directives (`Cursor.Stands.located_directives`). The
directives of a body stand one behind the other in the dialog (`Dialog.located_of_parse`).
-/

namespace DialogGrid

/-! ## Boundaries and stretches -/

namespace Text

/-- A byte offset between two characters of a text, or at one of its ends. -/
def IsBoundary (t : Text) (n : Nat) : Prop := t.boundary n = n

instance (t : Text) (n : Nat) : Decidable (t.IsBoundary n) := inferInstanceAs (Decidable (_ = _))

theorem isBoundary_byteSize (a b : Text) : (a ++ b).IsBoundary a.byteSize := by
  rw [IsBoundary, boundary, splitAtByte_byteSize]

theorem isBoundary_iff {t : Text} {n : Nat} : t.IsBoundary n ↔ ∃ a b, t = a ++ b ∧ n = a.byteSize := by
  constructor
  · intro bound
    exact ⟨_, _, (t.splitAtByte_append n).symm.trans rfl, bound.symm⟩
  · rintro ⟨a, b, rfl, rfl⟩
    exact isBoundary_byteSize a b

theorem isBoundary_boundary (t : Text) (n : Nat) : t.IsBoundary (t.boundary n) :=
  isBoundary_iff.mpr ⟨_, _, (t.splitAtByte_append n).symm, rfl⟩

/-- The text between two bytes, if these are boundaries in order. -/
def slice? (t : Text) (start stop : Nat) : Option Text :=
  if start ≤ stop ∧ t.IsBoundary start ∧ t.IsBoundary stop then some (t.slice start stop) else none

theorem slice?_append (a b c : Text) : (a ++ (b ++ c)).slice? a.byteSize (a.byteSize + b.byteSize) = some b := by
  have start : (a ++ (b ++ c)).IsBoundary a.byteSize := isBoundary_byteSize a (b ++ c)
  have stop : (a ++ (b ++ c)).IsBoundary (a.byteSize + b.byteSize) := by
    have := isBoundary_byteSize (a ++ b) c
    rwa [List.append_assoc, byteSize_append] at this
  rw [slice?, if_pos ⟨Nat.le_add_right _ _, start, stop⟩, slice_append]

private theorem slice?_front (a b : Text) : (a ++ b).slice? 0 a.byteSize = some a := by
  have front := slice?_append [] a b
  rwa [List.nil_append, byteSize_nil, Nat.zero_add] at front

private theorem slice?_rest (a b : Text) : (a ++ b).slice? a.byteSize (a ++ b).byteSize = some b := by
  have rest := slice?_append a b []
  rwa [List.append_nil, ← byteSize_append] at rest

private theorem byteSize_of_slice?_zero {t front : Text} {n : Nat} (cut : t.slice? 0 n = some front) :
    front.byteSize = n := by
  unfold slice? at cut
  split at cut
  · next bounds =>
    have whole : t.splitAtByte 0 = ([], t) := splitAtByte_byteSize [] t
    obtain rfl := Option.some.inj cut
    rw [slice, whole]
    exact bounds.2.2
  · cases cut

end Text

namespace Span

/-- A span that cuts a stretch out of a text: its ends stand in order, the text reaches to the second one, and
neither divides a character. -/
structure Slices (source : Text) (s : Span) : Prop where
  ordered : s.start ≤ s.stop
  inside : s.stop ≤ source.byteSize
  start : source.IsBoundary s.start
  stop : source.IsBoundary s.stop

theorem slices_append (a b c : Text) :
    Slices (a ++ (b ++ c)) (.ofBounds a.byteSize (a.byteSize + b.byteSize)) where
  ordered := Span.start_le_stop _
  inside := by simp [Span.ofBounds]
  start := Text.isBoundary_byteSize a (b ++ c)
  stop := by
    have bound := Text.isBoundary_byteSize (a ++ b) c
    rw [List.append_assoc, Text.byteSize_append] at bound
    simpa [Span.ofBounds] using bound

theorem slices_empty {source : Text} {n : Nat} (bound : source.IsBoundary n) : Slices source (.ofBounds n n) := by
  obtain ⟨a, b, rfl, rfl⟩ := Text.isBoundary_iff.mp bound
  simpa using slices_append a [] b

end Span

/-! ## Lines -/

/-- A line stands in the text that it is a line of, up to a line feed or the end. -/
theorem Text.exists_append_of_mem_lines (front : Text) {t : Text} {line : Line} (member : line ∈ t.lines front.byteSize) :
    ∃ a b, front ++ t = a ++ (line.text ++ b) ∧ line.start = a.byteSize ∧ '\n' ∉ line.text ∧
      ∀ c ∈ b.head?, c = '\n' := by
  induction t using line_induction generalizing front with
  | last only oneLine =>
    rw [lines_single _ oneLine, List.mem_singleton] at member
    subst member
    exact ⟨front, [], by simp, rfl, oneLine, by simp⟩
  | more first rest oneLine ih =>
    rw [lines_cons _ _ oneLine] at member
    rcases List.mem_cons.mp member with rfl | later
    · exact ⟨front, '\n' :: rest, rfl, rfl, oneLine, by simp⟩
    · have size : byteSize (front ++ first ++ ['\n']) = front.byteSize + (first.byteSize + 1) := by
        have feed : '\n'.utf8Size = 1 := rfl
        simp [feed]
      rw [← size] at later
      obtain ⟨a, b, split, rest⟩ := ih _ later
      exact ⟨a, b, by rw [← split]; simp, rest⟩

/-- The text up to its last line feed, which is left in; nothing where there is none. -/
def Text.throughFeed (t : Text) : Text := (t.reverse.dropWhile (· != '\n')).reverse

private theorem Text.throughFeed_append {front line : Text} (ended : ∀ c ∈ front.getLast?, c = '\n')
    (oneLine : '\n' ∉ line) : (front ++ line).throughFeed = front := by
  have all : ∀ c ∈ line.reverse, (c != '\n') = true := by
    intro c member
    rw [List.mem_reverse] at member
    simpa using fun same : c = '\n' => oneLine (same ▸ member)
  have stop : ∀ c ∈ front.reverse.head?, (c != '\n') = false := by
    intro c last
    rw [List.head?_reverse] at last
    simpa using ended c last
  rw [throughFeed, List.reverse_append, dropWhile_append_stop all stop, List.reverse_reverse]

private theorem Text.exists_last_line (t : Text) :
    ∃ front line, t = front ++ line ∧ (∀ c ∈ front.getLast?, c = '\n') ∧ '\n' ∉ line := by
  induction t using line_induction with
  | last line oneLine => exact ⟨[], line, rfl, by simp, oneLine⟩
  | more first rest oneLine ih =>
    obtain ⟨front, line, rfl, ended, oneLine'⟩ := ih
    refine ⟨first ++ '\n' :: front, line, by simp, ?_, oneLine'⟩
    cases front with
    | nil => simp
    | cons c more => simpa [List.getLast?_append] using ended

private theorem Text.byteSize_throughFeed_le (t : Text) : t.throughFeed.byteSize ≤ t.byteSize := by
  obtain ⟨front, line, rfl, ended, oneLine⟩ := t.exists_last_line
  rw [throughFeed_append ended oneLine, byteSize_append]
  exact Nat.le_add_right _ _

/-! ## The search for the declaration -/

namespace Dialog

private theorem declarations_singleton (wanted? : Option Text) (line : Line) :
    declarations wanted? [line] =
      (((declares? line.text).filter fun id => wanted?.all (· == id)).map (line, ·)).toList := by
  unfold declarations
  cases declared : declares? line.text with
  | none => simp [declared]
  | some id =>
    cases wanted : wanted?.all (· == id) with
    | true => simp [declared, wanted, Option.filter]
    | false => simp [declared, wanted, Option.filter]

/-- The search in the lines up to the byte where one of them ends, from the last line to the first: where the
declaration begins and the identifier that it declares. What is looked at is cut out of the script by bytes, and
there is no result at all if a cut fails. -/
def searchUpTo? (source : Text) (wanted? : Option Text) (lineEnd : Nat) : Option (Option (Nat × Text)) :=
  match _h : source.slice? 0 lineEnd with
  | none => none
  | some before =>
    let lineStart := before.throughFeed.byteSize
    match source.slice? lineStart lineEnd with
    | none => none
    | some line =>
      match (declares? line).filter fun id => wanted?.all (· == id) with
      | some id => some (some (lineStart, id))
      | none => if lineStart = 0 then some none else searchUpTo? source wanted? (lineStart - 1)
termination_by lineEnd
decreasing_by
  have size := Text.byteSize_of_slice?_zero _h
  have start := before.byteSize_throughFeed_le
  omega

/-- The search from the line that a byte stands in. -/
def search? (source : Text) (index : Nat) (wanted? : Option Text) : Option (Option (Nat × Text)) := do
  let behind ← source.slice? index source.byteSize
  searchUpTo? source wanted? (index + Text.byteSize (behind.takeWhile (· != '\n')))

private theorem searchUpTo?_eq {source front line rest : Text} (split : source = front ++ (line ++ rest))
    (ended : ∀ c ∈ front.getLast?, c = '\n') (oneLine : '\n' ∉ line) (wanted? : Option Text) :
    searchUpTo? source wanted? (front.byteSize + line.byteSize) =
      some ((declarations wanted? (Text.lines (front ++ line))).getLast?.map fun (line, id) => (line.start, id)) := by
  induction size : front.length using Nat.strongRecOn generalizing front line rest with
  | ind n ih =>
  subst size
  have before : source.slice? 0 (front.byteSize + line.byteSize) = some (front ++ line) := by
    rw [split, ← List.append_assoc, ← Text.byteSize_append]
    exact Text.slice?_front _ _
  have here : source.slice? front.byteSize (front.byteSize + line.byteSize) = some line := by
    rw [split]
    exact Text.slice?_append front line rest
  rw [searchUpTo?]
  split
  · next nothing =>
    rw [before] at nothing
    cases nothing
  · next found =>
    rw [before] at found
    cases found
    dsimp only
    rw [Text.throughFeed_append ended oneLine, here]
    dsimp only
    rcases List.eq_nil_or_concat front with rfl | ⟨earlier, feed, rfl⟩
    · rw [List.nil_append, Text.lines_single 0 oneLine, declarations_singleton]
      cases (declares? line).filter fun id => wanted?.all (· == id) with
      | none => simp
      | some id => simp
    · rw [List.concat_eq_append] at ended split ⊢
      obtain rfl := ended feed (by simp)
      obtain ⟨front', line', rfl, ended', oneLine'⟩ := Text.exists_last_line earlier
      have size : Text.byteSize (front' ++ line' ++ ['\n']) = front'.byteSize + line'.byteSize + 1 := by
        have feed : '\n'.utf8Size = 1 := rfl
        simp [feed, Nat.add_assoc]
      have shorter : front'.length < (List.concat (front' ++ line') '\n').length := by
        rw [List.length_concat, List.length_append]
        omega
      have before : source = front' ++ (line' ++ '\n' :: (line ++ rest)) := by
        rw [split]
        simp
      rw [size, Nat.add_sub_cancel, ih _ shorter before ended' oneLine' rfl, if_neg (Nat.succ_ne_zero _), List.append_assoc _ ['\n'],
        List.singleton_append, Text.lines_append_feed, Text.lines_single _ oneLine, declarations_append,
        List.getLast?_append, declarations_singleton, Text.byteSize_append, Nat.zero_add]
      cases (declares? line).filter fun id => wanted?.all (· == id) with
      | none => simp
      | some id => simp

private theorem lines_upTo {front line rest : Text} {index : Nat} (ended : ∀ c ∈ front.getLast?, c = '\n')
    (oneLine : '\n' ∉ line) (stop : ∀ c ∈ rest.head?, c = '\n') (behind : front.byteSize ≤ index)
    (before : index ≤ front.byteSize + line.byteSize) :
    (Text.lines (front ++ (line ++ rest))).takeWhile (fun l => l.start ≤ index) = Text.lines (front ++ line) := by
  have all : ∀ l ∈ Text.lines (front ++ line), decide (l.start ≤ index) = true := by
    obtain ⟨earlier, lines, starts⟩ := Text.lines_append line ended
    rw [lines, Text.lines_single _ oneLine]
    intro l member
    rcases List.mem_append.mp member with early | last
    · have := starts l early
      simp
      omega
    · obtain rfl := List.mem_singleton.mp last
      simpa using behind
  cases rest with
  | nil =>
    have whole := Text.takeWhile_append_stop (b := []) all (by simp)
    rwa [List.append_nil] at whole ⊢
  | cons c more =>
    obtain rfl := stop c rfl
    rw [← List.append_assoc, Text.lines_append_feed]
    refine Text.takeWhile_append_stop all fun l first => ?_
    rw [Text.start_of_mem_head?_lines first, Text.byteSize_append]
    simp
    omega

/-- The search by bytes cuts out stretches of the script only, and it finds the declaration. -/
theorem search?_eq {source : Text} {index : Nat} (bound : source.IsBoundary index) (wanted? : Option Text) :
    search? source index wanted? =
      some ((declaration? source index wanted?).map fun (line, id) => (line.start, id)) := by
  obtain ⟨before, behind, rfl, rfl⟩ := Text.isBoundary_iff.mp bound
  obtain ⟨front, first, rfl, ended, oneLine⟩ := before.exists_last_line
  have whole := List.takeWhile_append_dropWhile (p := (· != '\n')) (l := behind)
  have all : ∀ c ∈ behind.takeWhile (· != '\n'), (c != '\n') = true :=
    fun c member => List.all_eq_true.mp List.all_takeWhile c member
  have stop := List.head?_dropWhile_not (· != '\n') behind
  rw [search?, Text.slice?_rest]
  show searchUpTo? _ wanted? (_ + Text.byteSize (behind.takeWhile (· != '\n'))) = _
  generalize behind.takeWhile (· != '\n') = last at whole all
  generalize behind.dropWhile (· != '\n') = rest at whole stop
  subst whole
  have oneLine' : '\n' ∉ first ++ last := by
    rw [List.mem_append, not_or]
    exact ⟨oneLine, fun feed => absurd (all _ feed) (by decide)⟩
  have stop' : ∀ c ∈ rest.head?, c = '\n' := by
    intro c here
    rw [Option.mem_def.mp here] at stop
    simpa using stop
  have split : front ++ first ++ (last ++ rest) = front ++ ((first ++ last) ++ rest) := by simp
  have lineEnd : Text.byteSize (front ++ first) + Text.byteSize last =
      front.byteSize + Text.byteSize (first ++ last) := by simp [Nat.add_assoc]
  have behind : front.byteSize ≤ Text.byteSize (front ++ first) := by simp
  have before : Text.byteSize (front ++ first) ≤ front.byteSize + Text.byteSize (first ++ last) := by simp
  have lines := lines_upTo ended oneLine' stop' behind before
  rw [lineEnd, searchUpTo?_eq split ended oneLine' wanted?, ← lines, ← split]
  rfl

end Dialog

/-! ## Directives -/

/-- A directive takes up a stretch of the script that is not empty. -/
structure Directive.Located (source : Text) (d : Directive) : Prop where
  span : d.span.Slices source
  nonempty : d.span.start < d.span.stop

/-- The first of two directives ends before the second one begins. -/
def Directive.Before (d e : Directive) : Prop := d.span.start < e.span.start ∧ d.span.stop ≤ e.span.start

namespace Cursor

variable {source : Text} {c : Cursor}

theorem stands_ofByte (source : Text) (offset : Nat) : (ofOffset source offset).Stands source :=
  ⟨_, (source.splitAtByte_append offset).symm, rfl⟩

theorem Stands.slice? (stands : c.Stands source) : source.slice? c.offset source.byteSize = some c.rest := by
  obtain ⟨front, rfl, offset⟩ := stands
  rw [offset]
  exact Text.slice?_rest front c.rest

/-- What is read for a directive: blanks, its name, what is shown of its arguments, and blanks again. Its span is
about the name and what is shown. -/
structure Takes (c : Cursor) (d : Directive) (after : Cursor) (gap shown blank : Text) : Prop where
  parts : Parts c.rest gap d.name (shown ++ (blank ++ after.rest))
  blanks : blank.IsBlank
  span : d.span = .ofBounds (c.offset + gap.byteSize) (c.offset + gap.byteSize + Text.byteSize (d.name ++ shown))
  behind : after.offset = c.offset + gap.byteSize + Text.byteSize (d.name ++ shown) + blank.byteSize
  args : (shown = [] ∧ d.args = [] ∧ lineEnd? (blank ++ after.rest) = some (blank, after.rest)) ∨
    ∃ pieces, lineEnd? (shown ++ (blank ++ after.rest)) = none ∧ shown = Text.trimEnd (shown ++ blank) ∧
      ArgumentList.scan false false (shown ++ (blank ++ after.rest)) = ⟨pieces, shown ++ blank, after.rest⟩ ∧
      d.args = pieces.map Text.trim

/-- A directive is read in one of two ways: its line ends behind the name, or an argument list stands there. -/
theorem exists_takes {d : Directive} {after : Cursor} (next : c.next = (some d, after)) :
    ∃ gap shown blank, c.Takes d after gap shown blank := by
  obtain ⟨gap, name, behind, parts⟩ := exists_parts next
  cases line : lineEnd? behind with
  | some found =>
    obtain ⟨read, rest⟩ := found
    have here := parts.next_lineEnd line
    rw [next] at here
    obtain ⟨directive, rfl⟩ := Prod.mk.inj here
    obtain rfl := Option.some.inj directive
    obtain rfl := lineEnd?_append line
    refine ⟨gap, [], read, parts, isBlank_of_lineEnd? line, ?_, ?_, .inl ⟨rfl, rfl, line⟩⟩
    · rw [List.append_nil]
    · rw [List.append_nil]
  | none =>
    have here := parts.next_arguments line
    have split := ArgumentList.read_append_rest false false behind
    cases scanned : ArgumentList.scan false false behind with
    | mk pieces read rest =>
    rw [scanned] at here split
    rw [next] at here
    obtain ⟨directive, rfl⟩ := Prod.mk.inj here
    obtain rfl := Option.some.inj directive
    obtain ⟨blank, trimmed, blanks⟩ := Text.exists_trimEnd_append read
    have whole : read.trimEnd ++ (blank ++ rest) = behind := by rw [← List.append_assoc, trimmed, split]
    have size := congrArg Text.byteSize trimmed
    rw [Text.byteSize_append] at size
    refine ⟨gap, read.trimEnd, blank, ?_, blanks, ?_, ?_, .inr ⟨pieces, ?_, ?_, ?_, rfl⟩⟩
    · rw [whole]
      exact parts
    · rw [Text.byteSize_append, ← Nat.add_assoc]
    · rw [Text.byteSize_append]
      dsimp only
      omega
    · rw [whole, line]
    · rw [trimmed]
    · rw [whole, trimmed, scanned]

section
variable {d : Directive} {after : Cursor} {gap shown blank : Text}

/-- The text that is read stands in the script as it is laid out. -/
theorem Takes.exists_split (takes : c.Takes d after gap shown blank) (stands : c.Stands source) :
    ∃ front, source = front ++ (gap ++ ((d.name ++ shown) ++ (blank ++ after.rest))) ∧ c.offset = front.byteSize := by
  obtain ⟨front, whole, offset⟩ := stands
  exact ⟨front, by rw [whole, takes.parts.text, List.append_assoc], offset⟩

end

theorem Stands.located_next {d : Directive} {after : Cursor} (stands : c.Stands source)
    (next : c.next = (some d, after)) :
    d.Located source ∧ c.offset ≤ d.span.start ∧ d.span.stop ≤ after.offset ∧ after.Stands source := by
  obtain ⟨gap, shown, blank, takes⟩ := exists_takes next
  obtain ⟨front, whole, offset⟩ := takes.exists_split stands
  have span := takes.span
  have behind := takes.behind
  have size : 0 < Text.byteSize (d.name ++ shown) := by
    obtain ⟨first, more, nameEq⟩ := List.exists_cons_of_ne_nil takes.parts.name_ne_nil
    have := first.utf8Size_pos
    rw [nameEq, List.cons_append, Text.byteSize_cons]
    omega
  have slices := Span.slices_append (front ++ gap) (d.name ++ shown) (blank ++ after.rest)
  rw [List.append_assoc, ← whole, Text.byteSize_append, ← offset, ← span] at slices
  refine ⟨⟨slices, ?_⟩, ?_, ?_, ⟨front ++ gap ++ (d.name ++ shown) ++ blank, ?_, ?_⟩⟩
  · rw [span, Span.ofBounds]
    simp only
    omega
  · rw [span]
    exact Nat.le_add_right _ _
  · rw [span, behind, Span.ofBounds]
    simp
  · rw [whole]
    simp
  · rw [behind, offset]
    simp [Nat.add_assoc]

/-- Reading goes from position to position of the script, also where there is no directive left. -/
theorem Stands.stands_next (stands : c.Stands source) : c.next.2.Stands source := by
  cases next : c.next with
  | mk found after =>
    cases found with
    | some d => exact (stands.located_next next).2.2.2
    | none =>
      have gap : c.skipGap.Stands source := stands.forward List.takeWhile_append_dropWhile
      rw [Cursor.next] at next
      split at next
      · cases next
      · cases next
        exact gap

theorem Stands.stands_iterate (stands : c.Stands source) (n : Nat) : ((fun c => c.next.2)^[n] c).Stands source := by
  induction n with
  | zero => exact stands
  | succ n ih =>
    rw [Function.iterate_succ_apply']
    exact ih.stands_next

/-- The directives from a position on stand behind it, one behind the other. -/
theorem Stands.located_directives (stands : c.Stands source) :
    (∀ d ∈ c.directives, d.Located source ∧ c.offset ≤ d.span.start) ∧
      c.directives.Pairwise Directive.Before := by
  induction c using Cursor.directives.induct with
  | case1 c d after found ih =>
    obtain ⟨here, behind, before, stands'⟩ := stands.located_next found
    obtain ⟨later, ordered⟩ := ih stands'
    have start := here.span.ordered
    rw [directives_of_next found]
    constructor
    · intro e member
      rcases List.mem_cons.mp member with rfl | among
      · exact ⟨here, behind⟩
      · obtain ⟨located, follows⟩ := later e among
        exact ⟨located, by omega⟩
    · refine List.pairwise_cons.mpr ⟨fun e among => ?_, ordered⟩
      obtain ⟨located, follows⟩ := later e among
      have := here.nonempty
      exact ⟨by omega, by omega⟩
  | case2 c after found =>
    rw [directives_of_none found]
    exact ⟨by simp, List.Pairwise.nil⟩

end Cursor

/-! ## Dialogs -/

/-- A dialog that takes up a stretch of the script, with the directives of its body one behind the other in it. -/
structure Dialog.Located (source : Text) (d : Dialog) : Prop where
  span : d.span.Slices source
  body : ∀ x ∈ d.body, x.Located source ∧ d.span.start ≤ x.span.start ∧ x.span.stop ≤ d.span.stop
  ordered : d.body.Pairwise Directive.Before

namespace Dialog

theorem slice?_declaration {source : Text} {index : Nat} {wanted? : Option Text} {line : Line} {id : Text}
    (declared : declaration? source index wanted? = some (line, id)) :
    (∃ behind, source.slice? line.start source.byteSize = some behind ∧
        behind.takeWhile (· != '\n') = line.text) ∧
      Span.Slices source (.ofBounds line.start (line.start + line.text.byteSize)) := by
  obtain ⟨a, b, split, start, oneLine, stop⟩ := Text.exists_append_of_mem_lines [] (mem_lines_of_declaration? declared)
  rw [List.nil_append] at split
  rw [start, split]
  refine ⟨⟨line.text ++ b, Text.slice?_rest a _, ?_⟩, Span.slices_append a line.text b⟩
  refine Text.takeWhile_append_stop (fun c member => ?_) fun c first => ?_
  · simpa using fun same : c = '\n' => oneLine (same ▸ member)
  · simpa using stop c first

/-- A dialog that is read takes up a stretch of the script. -/
theorem located_of_parse {source : Text} {index : Nat} {wanted? : Option Text} {d : Dialog}
    (parsed : parse source index wanted? = .ok d) : d.Located source := by
  obtain ⟨line, header, opening, close, rest, declared, read, consists⟩ := parse_eq_ok.mp parsed
  obtain ⟨-, lineSpan⟩ := slice?_declaration declared
  obtain ⟨each, ordered⟩ := (Cursor.stands_ofByte source line.start).located_directives
  have offset : (Cursor.ofOffset source line.start).offset = line.start := lineSpan.start
  rw [read] at each ordered
  rw [offset] at each
  obtain ⟨-, inner, -⟩ := List.pairwise_append.mp ordered
  obtain ⟨body, -, beforeClose⟩ := List.pairwise_append.mp (List.pairwise_cons.mp inner).2
  obtain ⟨closes, behind⟩ := each close (by simp)
  have closing := closes.span.ordered
  have stop : max line.start close.span.stop = close.span.stop := by omega
  refine ⟨?_, fun x member => ?_, body⟩
  · rw [consists.span, Span.ofBounds]
    simp only [stop]
    exact ⟨by show line.start ≤ close.span.stop; omega, closes.span.inside, lineSpan.start, closes.span.stop⟩
  · obtain ⟨here, follows⟩ := each x (by simp [member])
    obtain ⟨-, before⟩ := beforeClose x member close (by simp)
    rw [consists.span, Span.ofBounds]
    refine ⟨here, follows, ?_⟩
    show x.span.stop ≤ max line.start close.span.stop
    omega

end Dialog

end DialogGrid
