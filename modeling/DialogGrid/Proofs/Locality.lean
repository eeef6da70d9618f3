import DialogGrid.Proofs.LineEndings

/-!
# Dialogs are read from their own text

A directive that a line break ends is read without a look at what stands behind it, and so are all
directives before the last one. The search for the declaration goes no further back than the line it
stops at. So a dialog is read the same wherever its own lines stand (`Dialog.parse_elsewhere`).
-/

namespace DialogGrid

/-! ## What ends a directive -/

/-- Whether a line break ends an argument list. Otherwise the text ends before the list does. -/
def ArgumentList.isEnded (quoted separated : Bool) : Text → Bool
  | [] => false
  | c :: rest =>
    if c = '\n' ∧ separated = false then true
    else if c = '\r' then isEnded quoted separated rest
    else if c = ',' ∧ quoted = false then isEnded quoted true rest
    else isEnded (quoted ^^ c == '"') false rest

/-- Whether a line break ends the directive whose name begins here. Otherwise the text does. -/
def Cursor.isEnded (c : Cursor) : Bool :=
  let rest := c.skipGap.rest.dropWhile (!isBlank ·)
  match lineEnd? rest with
  | some (read, _) => read.getLast? == some '\n'
  | none => ArgumentList.isEnded false false rest

namespace ArgumentList

/-- A list that a line break ends is read without a look at what stands behind it. -/
theorem scan_isEnded {quoted separated : Bool} {t : Text} (ended : isEnded quoted separated t = true) :
    (scan quoted separated t).read.getLast? = some '\n' ∧
      ∀ rest, scan quoted separated ((scan quoted separated t).read ++ rest) =
        { scan quoted separated t with rest := rest } := by
  fun_induction isEnded quoted separated t with
  | case1 => cases ended
  | case2 quoted separated c behind feed =>
    rw [scan, if_pos feed]
    refine ⟨by simp [feed.1], fun rest => ?_⟩
    rw [List.singleton_append, scan, if_pos feed]
  | case3 quoted separated behind notFeed ih =>
    obtain ⟨last, alone⟩ := ih ended
    rw [scan_return]
    refine ⟨by rw [skip, List.getLast?_cons, last]; rfl, fun rest => ?_⟩
    rw [skip, List.cons_append, scan_return, alone rest]
    rfl
  | case4 quoted separated c behind notFeed notCarriage separator ih =>
    obtain ⟨last, alone⟩ := ih ended
    obtain ⟨rfl, rfl⟩ := separator
    rw [scan_separator]
    refine ⟨by rw [separate, List.getLast?_cons, last]; rfl, fun rest => ?_⟩
    rw [separate, List.cons_append, scan_separator, alone rest]
    rfl
  | case5 quoted separated c behind notFeed notCarriage inner ih =>
    obtain ⟨last, alone⟩ := ih ended
    rw [scan_inner notFeed notCarriage inner]
    refine ⟨by rw [push, List.getLast?_cons, last]; rfl, fun rest => ?_⟩
    rw [push, List.cons_append, scan_inner notFeed notCarriage inner, alone rest]
    rfl

theorem rest_of_not_isEnded {quoted separated : Bool} {t : Text} (unended : isEnded quoted separated t = false) :
    (scan quoted separated t).rest = [] := by
  fun_induction isEnded quoted separated t with
  | case1 => rfl
  | case2 => cases unended
  | case3 quoted separated behind notFeed ih =>
    rw [scan_return]
    exact ih unended
  | case4 quoted separated c behind notFeed notCarriage separator ih =>
    obtain ⟨rfl, rfl⟩ := separator
    rw [scan_separator]
    exact ih unended
  | case5 quoted separated c behind notFeed notCarriage inner ih =>
    rw [scan_inner notFeed notCarriage inner]
    exact ih unended

end ArgumentList

/-- Whether a line ends is told by the spaces and tabs and by the line break behind them, so by any beginning of the
text that holds more than the one and cannot divide the other. -/
theorem lineEnd?_append_of_not_inline {front : Text} (ongoing : ¬ Inline front) (noReturn : front.getLast? ≠ some '\r')
    (rest : Text) : lineEnd? (front ++ rest) = (lineEnd? front).map fun (read, behind) => (read, behind ++ rest) := by
  have whole := List.takeWhile_append_dropWhile (p := fun c => c == ' ' || c == '\t') (l := front)
  have all : ∀ c ∈ front.takeWhile fun c => c == ' ' || c == '\t', (c == ' ' || c == '\t') = true :=
    fun c member => List.all_eq_true.mp List.all_takeWhile c member
  have stop := List.head?_dropWhile_not (fun c => c == ' ' || c == '\t') front
  generalize front.takeWhile (fun c => c == ' ' || c == '\t') = blanks at whole all
  generalize front.dropWhile (fun c => c == ' ' || c == '\t') = behind at whole stop
  subst whole
  have nonempty : behind ≠ [] := by
    rintro rfl
    rw [List.append_nil] at ongoing
    exact ongoing fun c member => by simpa using all c member
  obtain ⟨c, more, rfl⟩ := List.exists_cons_of_ne_nil nonempty
  have stops : ∀ rest, ∀ d ∈ (c :: more ++ rest).head?, (d == ' ' || d == '\t') = false := by
    intro rest d first
    cases first
    simpa using stop
  have here := stops []
  rw [List.append_nil] at here
  unfold lineEnd?
  dsimp only
  rw [List.append_assoc, Text.takeWhile_append_stop all (stops rest), Text.dropWhile_append_stop all (stops rest),
    Text.takeWhile_append_stop all here, Text.dropWhile_append_stop all here]
  by_cases ends : c = '\n'
  · subst ends
    rfl
  · by_cases carriage : c = '\r'
    · subst carriage
      cases more with
      | nil => simp at noReturn
      | cons d behind =>
        by_cases ends : d = '\n'
        · subst ends
          rfl
        · simp [ends]
    · simp [ends, carriage]

private theorem lineEnd?_append_of_getLast? {front : Text} (feed : front.getLast? = some '\n') (rest : Text) :
    lineEnd? (front ++ rest) = (lineEnd? front).map fun (read, behind) => (read, behind ++ rest) := by
  refine lineEnd?_append_of_not_inline (fun inline => ?_) (by simp [feed]) rest
  have blank := inline '\n' (List.mem_of_getLast? feed)
  simp at blank

theorem exists_of_lineEnd? {t read rest : Text} (ended : lineEnd? t = some (read, rest)) :
    ∃ blanks ending?, Inline blanks ∧ read = blanks ++ LineBreak.optional ending? ∧ (ending? = none → rest = []) := by
  have inline : Inline (t.takeWhile fun c => c == ' ' || c == '\t') := by
    intro c member
    simpa using List.all_eq_true.mp List.all_takeWhile c member
  unfold lineEnd? at ended
  dsimp only at ended
  split at ended
  · cases ended
    exact ⟨_, none, inline, by simp [LineBreak.optional], fun _ => rfl⟩
  · cases ended
    exact ⟨_, some .lf, inline, rfl, by simp⟩
  · cases ended
    exact ⟨_, some .crlf, inline, rfl, by simp⟩
  · cases ended

private theorem lineEnd?_ended {t read rest : Text} (ended : lineEnd? t = some (read, rest)) :
    read.getLast? = some '\n' ∨ rest = [] := by
  obtain ⟨blanks, ending?, -, rfl, unended⟩ := exists_of_lineEnd? ended
  cases ending? with
  | none => exact .inr (unended rfl)
  | some lineBreak => cases lineBreak <;> exact .inl (by simp [LineBreak.optional, LineBreak.text])

theorem isBlank_of_lineEnd? {t read rest : Text} (ended : lineEnd? t = some (read, rest)) : read.IsBlank := by
  obtain ⟨blanks, ending?, inline, rfl, -⟩ := exists_of_lineEnd? ended
  intro c member
  rcases List.mem_append.mp member with early | late
  · exact inline.isBlank c early
  · exact LineBreak.isBlank_optional ending? c late

/-! ## Directives that are read alone -/

/-- The span, read `back` bytes earlier and then moved `ahead`. -/
def Span.shifted (back ahead : Nat) (s : Span) : Span where
  start := s.start + ahead - back
  stop := s.stop + ahead - back
  start_le_stop := by
    have := s.start_le_stop
    omega

/-- What is read between two positions, which is the same however the text goes on behind the second
and wherever it stands. -/
structure Cursor.Passes (c : Cursor) (ds : List Directive) (text : Text) (after : Cursor) : Prop where
  rest : c.rest = text ++ after.rest
  offset : after.offset = c.offset + text.byteSize
  directives : c.directives = ds ++ after.directives
  behind : ∀ d ∈ ds, c.offset ≤ d.span.start
  elsewhere : ∀ offset rest, Cursor.directives ⟨offset, text ++ rest⟩ =
    ds.map (Directive.moved (Span.shifted c.offset offset)) ++ Cursor.directives ⟨offset + text.byteSize, rest⟩

namespace Cursor

theorem Passes.refl (c : Cursor) : c.Passes [] [] c where
  rest := rfl
  offset := rfl
  directives := rfl
  behind := by simp
  elsewhere := fun _ _ => rfl

theorem Passes.trans {c c' c'' : Cursor} {ds ds' : List Directive} {text text' : Text} (first : c.Passes ds text c')
    (second : c'.Passes ds' text' c'') : c.Passes (ds ++ ds') (text ++ text') c'' where
  rest := by rw [first.rest, second.rest, List.append_assoc]
  offset := by rw [second.offset, first.offset, Text.byteSize_append, Nat.add_assoc]
  directives := by rw [first.directives, second.directives, List.append_assoc]
  behind := by
    intro d member
    rcases List.mem_append.mp member with early | late
    · exact first.behind d early
    · have := second.behind d late
      rw [first.offset] at this
      omega
  elsewhere := by
    intro offset rest
    have same : Span.shifted c'.offset (offset + text.byteSize) = Span.shifted c.offset offset := by
      funext s
      apply Span.ext
      · simp only [Span.shifted, first.offset]
        omega
      · simp only [Span.shifted, first.offset]
        omega
    rw [List.append_assoc, first.elsewhere, second.elsewhere, same, List.map_append, List.append_assoc,
      Text.byteSize_append, Nat.add_assoc]

/-- A text from which a directive is read: the blanks before its name, the name, and what stands behind it. -/
structure Parts (t gap name behind : Text) : Prop where
  text : t = gap ++ (name ++ behind)
  gaps : ∀ c ∈ gap, isGap c = true
  name_ne_nil : name ≠ []
  visible : ∀ c ∈ name, isBlank c = false
  divided : ∀ c ∈ behind.head?, isBlank c = true

/-- The text goes on in any way behind what the name is divided from it by. -/
theorem Parts.replace {t gap name read behind : Text} (parts : Parts t gap name (read ++ behind)) (nonempty : read ≠ [])
    (rest : Text) : Parts (gap ++ (name ++ (read ++ rest))) gap name (read ++ rest) where
  text := rfl
  gaps := parts.gaps
  name_ne_nil := parts.name_ne_nil
  visible := parts.visible
  divided := by
    obtain ⟨c, more, rfl⟩ := List.exists_cons_of_ne_nil nonempty
    exact parts.divided

theorem exists_parts {c after : Cursor} {d : Directive} (next : c.next = (some d, after)) :
    ∃ gap name behind, Parts c.rest gap name behind := by
  refine ⟨c.rest.takeWhile isGap, c.skipGap.rest.takeWhile (!isBlank ·), c.skipGap.rest.dropWhile (!isBlank ·), ?_⟩
  have blank := List.head?_dropWhile_not (!isBlank ·) c.skipGap.rest
  refine ⟨?_, fun c member => List.all_eq_true.mp List.all_takeWhile c member, ?_, ?_, ?_⟩
  · rw [List.takeWhile_append_dropWhile]
    exact (List.takeWhile_append_dropWhile).symm
  · intro nothing
    rw [Cursor.next, read?] at next
    dsimp only at next
    rw [if_pos nothing] at next
    cases next
  · intro c member
    simpa using List.all_eq_true.mp List.all_takeWhile c member
  · intro c first
    rw [Option.mem_def.mp first] at blank
    simpa using blank

section
variable {c after : Cursor} {gap name behind : Text}

private theorem Parts.skipGap (parts : Parts c.rest gap name behind) :
    c.skipGap = ⟨c.offset + gap.byteSize, name ++ behind⟩ := by
  have stop : ∀ d ∈ (name ++ behind).head?, isGap d = false := by
    intro d first
    obtain ⟨_, rest, rfl⟩ := List.exists_cons_of_ne_nil parts.name_ne_nil
    cases first
    exact isGap_of_visible (parts.visible d List.mem_cons_self)
  rw [Cursor.skipGap, Cursor.forward, parts.text, Text.takeWhile_append_stop parts.gaps stop,
    Text.dropWhile_append_stop parts.gaps stop]

private theorem Parts.split_name (parts : Parts c.rest gap name behind) :
    (name ++ behind).takeWhile (!isBlank ·) = name ∧ (name ++ behind).dropWhile (!isBlank ·) = behind := by
  have visible : ∀ c ∈ name, (!isBlank c) = true := fun c member => by rw [parts.visible c member]; rfl
  have stop : ∀ c ∈ behind.head?, (!isBlank c) = false := fun c first => by rw [parts.divided c first]; rfl
  exact ⟨Text.takeWhile_append_stop visible stop, Text.dropWhile_append_stop visible stop⟩

theorem Parts.next_lineEnd {read rest : Text} (parts : Parts c.rest gap name behind)
    (line : lineEnd? behind = some (read, rest)) :
    c.next = (some ⟨name, [], .ofBounds (c.offset + gap.byteSize) (c.offset + gap.byteSize + name.byteSize)⟩,
      ⟨c.offset + gap.byteSize + name.byteSize + read.byteSize, rest⟩) := by
  rw [Cursor.next, parts.skipGap, read?]
  dsimp only
  rw [parts.split_name.1, parts.split_name.2, if_neg parts.name_ne_nil, line]
  rfl

theorem Parts.next_arguments (parts : Parts c.rest gap name behind) (noEnd : lineEnd? behind = none) :
    let list := ArgumentList.scan false false behind
    c.next = (some ⟨name, list.pieces.map Text.trim, .ofBounds (c.offset + gap.byteSize)
        (c.offset + gap.byteSize + name.byteSize + Text.byteSize list.read.trimEnd)⟩,
      ⟨c.offset + gap.byteSize + name.byteSize + list.read.byteSize, list.rest⟩) := by
  intro list
  rw [Cursor.next, parts.skipGap, read?]
  dsimp only
  rw [parts.split_name.1, parts.split_name.2, if_neg parts.name_ne_nil, noEnd]
  rfl

theorem Parts.isEnded_eq (parts : Parts c.rest gap name behind) :
    c.isEnded = match lineEnd? behind with
      | some (read, _) => read.getLast? == some '\n'
      | none => ArgumentList.isEnded false false behind := by
  rw [Cursor.isEnded, parts.skipGap]
  dsimp only
  rw [parts.split_name.2]

end

/-- A directive that is read in the same way wherever its text stands. -/
theorem Passes.of_next {c after : Cursor} {d : Directive} {text : Text} (next : c.next = (some d, after))
    (whole : c.rest = text ++ after.rest) (offset : after.offset = c.offset + text.byteSize)
    (behind : c.offset ≤ d.span.start)
    (reads : ∀ offset rest, Cursor.next ⟨offset, text ++ rest⟩ =
      (some (d.moved (Span.shifted c.offset offset)), ⟨offset + text.byteSize, rest⟩)) :
    c.Passes [d] text after where
  rest := whole
  offset := offset
  directives := directives_of_next next
  behind := by simpa using behind
  elsewhere := fun offset rest => directives_of_next (reads offset rest)

/-- What is told about a directive by how far behind some place its span begins and ends. -/
theorem moved_ofBounds (name : Text) (args : List Text) (back ahead first last : Nat) :
    Directive.moved (Span.shifted back ahead) ⟨name, args, .ofBounds (back + first) (back + last)⟩ =
      ⟨name, args, .ofBounds (ahead + first) (ahead + last)⟩ := by
  rw [Directive.moved, Directive.mk.injEq]
  refine ⟨rfl, rfl, ?_⟩
  apply Span.ext
  · simp only [Span.shifted, Span.ofBounds]
    omega
  · simp only [Span.shifted, Span.ofBounds]
    omega

/-- The text that a directive takes up, if a line break ends it, is all that it is read from. -/
theorem next_isEnded {c after : Cursor} {d : Directive} (next : c.next = (some d, after)) (ended : c.isEnded = true) :
    ∃ text, text.getLast? = some '\n' ∧ c.Passes [d] text after := by
  obtain ⟨gap, name, behind, parts⟩ := exists_parts next
  rw [parts.isEnded_eq] at ended
  -- What is read behind the name, and what it comes to when other text follows.
  have passes : ∀ (read rest : Text) (args : List Text) (last : Nat), read ++ rest = behind →
      read.getLast? = some '\n' →
      (∀ (c : Cursor) (rest : Text), Parts c.rest gap name (read ++ rest) →
        c.next = (some ⟨name, args, .ofBounds (c.offset + gap.byteSize) (c.offset + last)⟩,
          ⟨c.offset + gap.byteSize + name.byteSize + read.byteSize, rest⟩)) →
      ∃ text, text.getLast? = some '\n' ∧ c.Passes [d] text after := by
    intro read rest args last split feed reads
    have nonempty : read ≠ [] := by
      rintro rfl
      cases feed
    rw [← split] at parts
    have size : Text.byteSize (gap ++ (name ++ read)) = gap.byteSize + name.byteSize + read.byteSize := by
      rw [Text.byteSize_append, Text.byteSize_append, Nat.add_assoc]
    have here := reads c rest parts
    rw [next] at here
    obtain ⟨directive, rfl⟩ := Prod.mk.inj here
    obtain rfl := Option.some.inj directive
    refine ⟨gap ++ (name ++ read), ?_, .of_next next ?_ ?_ ?_ fun offset rest' => ?_⟩
    · rw [List.getLast?_append, List.getLast?_append, feed]
      rfl
    · rw [parts.text]
      simp
    · rw [size, ← Nat.add_assoc, ← Nat.add_assoc]
    · exact Nat.le_add_right _ _
    · have there := reads ⟨offset, gap ++ (name ++ (read ++ rest'))⟩ rest' (parts.replace nonempty rest')
      rw [moved_ofBounds, size, ← Nat.add_assoc, ← Nat.add_assoc]
      simpa using there
  cases line : lineEnd? behind with
  | some found =>
    obtain ⟨read, rest⟩ := found
    rw [line] at ended
    have feed : read.getLast? = some '\n' := eq_of_beq ended
    have split := lineEnd?_append line
    have alone : lineEnd? read = some (read, []) := by
      rw [← split, lineEnd?_append_of_getLast? feed, Option.map_eq_some_iff] at line
      obtain ⟨⟨read', rest'⟩, found, same⟩ := line
      obtain ⟨rfl, nothing⟩ := Prod.mk.inj same
      obtain rfl : rest' = [] := by simpa using nothing
      exact found
    refine passes read rest [] (gap.byteSize + name.byteSize) split feed fun c rest parts => ?_
    rw [← Nat.add_assoc]
    refine parts.next_lineEnd ?_
    rw [lineEnd?_append_of_getLast? feed, alone]
    rfl
  | none =>
    rw [line] at ended
    obtain ⟨feed, alone⟩ := ArgumentList.scan_isEnded ended
    have split := ArgumentList.read_append_rest false false behind
    have noEnd : lineEnd? (ArgumentList.scan false false behind).read = none := by
      rw [← split, lineEnd?_append_of_getLast? feed, Option.map_eq_none_iff] at line
      exact line
    generalize ArgumentList.scan false false behind = list at feed alone split noEnd
    refine passes list.read list.rest (list.pieces.map Text.trim)
      (gap.byteSize + (name.byteSize + Text.byteSize list.read.trimEnd)) split feed fun c rest parts => ?_
    have arguments := parts.next_arguments (by rw [lineEnd?_append_of_getLast? feed, noEnd]; rfl)
    rw [alone] at arguments
    rw [← Nat.add_assoc, ← Nat.add_assoc]
    exact arguments

theorem rest_of_not_isEnded {c after : Cursor} {d : Directive} (next : c.next = (some d, after))
    (unended : c.isEnded = false) : after.rest = [] := by
  obtain ⟨gap, name, behind, parts⟩ := exists_parts next
  rw [parts.isEnded_eq] at unended
  cases line : lineEnd? behind with
  | some found =>
    obtain ⟨read, rest⟩ := found
    have here := parts.next_lineEnd line
    rw [next] at here
    obtain ⟨-, rfl⟩ := Prod.mk.inj here
    rw [line] at unended
    rcases lineEnd?_ended line with feed | nothing
    · dsimp only at unended
      rw [feed] at unended
      cases unended
    · exact nothing
  | none =>
    have here := parts.next_arguments line
    rw [next] at here
    obtain ⟨-, rfl⟩ := Prod.mk.inj here
    rw [line] at unended
    exact ArgumentList.rest_of_not_isEnded unended

/-! ## The directives up to a keyword -/

/-- The position before the first directive of that name, from here on. -/
def upTo? (keyword : Text) (c : Cursor) : Option Cursor :=
  match _h : c.next with
  | (some d, after) => if d.isNamed keyword then some c else after.upTo? keyword
  | (none, _) => none
termination_by c.rest.length
decreasing_by exact next_shorter _h

private theorem upTo?_of_next {c after : Cursor} {d : Directive} (keyword : Text) (next : c.next = (some d, after)) :
    c.upTo? keyword = if d.isNamed keyword then some c else after.upTo? keyword := by
  rw [upTo?]
  split
  · next found =>
    rw [next] at found
    cases found
    rfl
  · next ended =>
    rw [next] at ended
    cases ended

theorem exists_of_directives {c : Cursor} {d : Directive} {rest : List Directive} (read : c.directives = d :: rest) :
    ∃ after, c.next = (some d, after) ∧ after.directives = rest := by
  cases next : c.next with
  | mk found after =>
    cases found with
    | none =>
      rw [directives_of_none next] at read
      cases read
    | some first =>
      rw [directives_of_next next] at read
      cases read
      exact ⟨after, rfl, rfl⟩

private theorem isEnded_of_directives {c after : Cursor} {d : Directive} (next : c.next = (some d, after))
    (more : after.directives ≠ []) : c.isEnded = true := by
  cases ended : c.isEnded with
  | true => rfl
  | false =>
    have nothing : after = ⟨after.offset, []⟩ := by rw [← rest_of_not_isEnded next ended]
    rw [nothing, directives_gap (by simp)] at more
    exact absurd rfl more

private theorem upTo?_of_directives {c : Cursor} {keyword : Text} {front rest : List Directive} {d : Directive}
    (read : c.directives = front ++ d :: rest) (others : ∀ x ∈ front, x.isNamed keyword = false)
    (named : d.isNamed keyword = true) :
    ∃ text c' after, c.upTo? keyword = some c' ∧ c.Passes front text c' ∧ c'.next = (some d, after) ∧
      after.directives = rest := by
  induction front generalizing c with
  | nil =>
    obtain ⟨after, next, behind⟩ := exists_of_directives read
    exact ⟨[], c, after, by rw [upTo?_of_next keyword next, if_pos named], .refl c, next, behind⟩
  | cons x more ih =>
    obtain ⟨after, next, behind⟩ := exists_of_directives read
    obtain ⟨text, -, first⟩ := next_isEnded next (isEnded_of_directives next (by simp [behind]))
    obtain ⟨text', c', after', found, later, last⟩ := ih behind fun y member => others y (List.mem_cons_of_mem x member)
    refine ⟨text ++ text', c', after', ?_, first.trans later, last⟩
    rw [upTo?_of_next keyword next, others x List.mem_cons_self]
    exact found

end Cursor

/-! ## Dialogs -/

namespace Dialog

/-- The position before the keyword that closes the dialog declared at a byte of the script. -/
def closing? (source : Text) (start : Nat) : Option Cursor := do
  let opening ← (Cursor.ofOffset source start).upTo? (lit "BEGIN")
  opening.next.2.upTo? (lit "END")

/-- The dialog with its spans moved. -/
def moved (move : Span → Span) (d : Dialog) : Dialog :=
  { d with body := d.body.map (Directive.moved move), span := move d.span }

/-- The declarations among some lines. -/
def declarations (wanted? : Option Text) (lines : List Line) : List (Line × Text) :=
  (lines.filterMap fun line => (declares? line.text).map (line, ·)).filter fun (_, id) => wanted?.all (· == id)

theorem declarations_append (wanted? : Option Text) (a b : List Line) :
    declarations wanted? (a ++ b) = declarations wanted? a ++ declarations wanted? b := by
  rw [declarations, List.filterMap_append, List.filter_append]
  rfl

private theorem declarations_subset {wanted? : Option Text} {lines : List Line} {found : Line × Text}
    (member : found ∈ declarations wanted? lines) : found.1 ∈ lines := by
  obtain ⟨line, inside, declared⟩ := List.mem_filterMap.mp (List.mem_filter.mp member).1
  obtain ⟨_, -, rfl⟩ := Option.map_eq_some_iff.mp declared
  exact inside

private theorem declarations_shift (wanted? : Option Text) (ahead : Nat) (lines : List Line) :
    declarations wanted? (lines.map fun line => { line with start := ahead + line.start }) =
      (declarations wanted? lines).map fun (line, id) => ({ line with start := ahead + line.start }, id) := by
  have kept : ∀ found : List (Line × Text),
      (found.filter fun (_, id) => wanted?.all (· == id)).map
          (fun (line, id) => ({ line with start := ahead + line.start }, id)) =
        (found.map fun (line, id) => ({ line with start := ahead + line.start }, id)).filter
          fun (_, id) => wanted?.all (· == id) := by
    intro found
    rw [List.filter_map]
    rfl
  rw [declarations, declarations, kept, List.filterMap_map, List.map_filterMap]
  simp only [Function.comp_def, Option.map_map]

private theorem declaration?_within {front block : Text} (rest : Text) {index : Nat} (wanted? : Option Text)
    (lineStart : ∀ c ∈ front.getLast?, c = '\n') (inside : index ≤ block.byteSize) :
    ∃ earlier? : Option (Line × Text), (∀ found ∈ earlier?, found.1.start < front.byteSize) ∧
      declaration? (front ++ (block ++ '\n' :: rest)) (front.byteSize + index) wanted? =
        ((declaration? block index wanted?).map fun (line, id) =>
          ({ line with start := front.byteSize + line.start }, id)).or earlier? := by
  obtain ⟨earlier, lines, starts⟩ := Text.lines_append (block ++ '\n' :: rest) lineStart
  have before : ∀ line ∈ earlier, decide (line.start ≤ front.byteSize + index) = true := fun line member =>
    decide_eq_true (Nat.le_trans (Nat.le_of_lt (starts line member)) (Nat.le_add_right _ _))
  have behind : (rest.lines (front.byteSize + (block.byteSize + 1))).takeWhile
      (fun line => decide (line.start ≤ front.byteSize + index)) = [] := by
    have stop : ∀ line ∈ (rest.lines (front.byteSize + (block.byteSize + 1))).head?,
        decide (line.start ≤ front.byteSize + index) = false := by
      intro line first
      rw [Text.start_of_mem_head?_lines first, decide_eq_false_iff_not]
      omega
    exact Text.takeWhile_append_stop (List.forall_mem_nil _) stop
  have upTo : (block.lines front.byteSize ++ rest.lines (front.byteSize + (block.byteSize + 1))).takeWhile
      (fun line => decide (line.start ≤ front.byteSize + index)) =
        (block.lines front.byteSize).takeWhile fun line => decide (line.start ≤ front.byteSize + index) := by
    rw [List.takeWhile_append, behind, List.append_nil]
    split
    · next full => exact ((List.takeWhile_sublist _).eq_of_length full).symm
    · rfl
  have within : ((block.lines front.byteSize).takeWhile fun line => decide (line.start ≤ front.byteSize + index)) =
      (block.lines.takeWhile fun line => decide (line.start ≤ index)).map
        fun line => { line with start := front.byteSize + line.start } := by
    have moved := Text.lines_add block front.byteSize 0
    rw [Nat.add_zero] at moved
    rw [moved, List.takeWhile_map]
    simp only [Function.comp_def, Nat.add_le_add_iff_left]
  refine ⟨(declarations wanted? earlier).getLast?, ?_, ?_⟩
  · intro found last
    exact starts _ (declarations_subset (List.mem_of_getLast? last))
  · show (declarations wanted? _).getLast? = (Option.map _ (declarations wanted? _).getLast?).or _
    rw [lines, Text.lines_append_feed, List.takeWhile_append_of_pos before, upTo, within, declarations_append,
      List.getLast?_append, declarations_shift, List.getLast?_map]

/-- A declaration on the first line of some text is found wherever the text stands. -/
theorem declaration?_elsewhere {front before block rest : Text} (after : Text) {index : Nat} {wanted? : Option Text}
    {line : Line} {id : Text} (lineStart : ∀ c ∈ front.getLast?, c = '\n')
    (lineStart' : ∀ c ∈ before.getLast?, c = '\n') (ended : block.getLast? = some '\n')
    (inside : index < block.byteSize)
    (declared : declaration? (front ++ (block ++ rest)) (front.byteSize + index) wanted? = some (line, id))
    (start : line.start = front.byteSize) :
    ∃ line', declaration? (before ++ (block ++ after)) (before.byteSize + index) wanted? = some (line', id) ∧
      line'.start = before.byteSize := by
  obtain ⟨inner, rfl⟩ := List.getLast?_eq_some_iff.mp ended
  have feed : '\n'.utf8Size = 1 := rfl
  rw [Text.byteSize_append, Text.byteSize_cons, Text.byteSize_nil, feed] at inside
  have upTo := Nat.le_of_lt_succ inside
  obtain ⟨earlier?, starts, here⟩ := declaration?_within rest wanted? lineStart upTo
  obtain ⟨_, -, there⟩ := declaration?_within after wanted? lineStart' upTo
  rw [List.append_assoc, List.singleton_append] at declared ⊢
  rw [declared] at here
  rw [there]
  cases found : declaration? inner index wanted? with
  | none =>
    rw [found, Option.map_none, Option.none_or] at here
    exact absurd start (Nat.ne_of_lt (starts (line, id) here.symm))
  | some first =>
    rw [found, Option.map_some, Option.some_or] at here
    obtain ⟨rfl, rfl⟩ := Prod.mk.inj (Option.some.inj here)
    have first : first.1.start = 0 := Nat.add_eq_left.mp start
    exact ⟨_, rfl, by rw [first]; rfl⟩

/-- A dialog, and the directives that it is read from besides those of its body. -/
structure Consists (d : Dialog) (start : Nat) (header : List Directive) (opening close : Directive) : Prop where
  outside : ∀ x ∈ header, x.isNamed (lit "BEGIN") = false
  opens : opening.isNamed (lit "BEGIN") = true
  inside : ∀ x ∈ d.body, x.isNamed (lit "END") = false
  closes : close.isNamed (lit "END") = true
  properties : d.header = .ofDirectives header
  span : d.span = .ofBounds start close.span.stop

private theorem Consists.shifted {d : Dialog} {start : Nat} {header : List Directive} {opening close : Directive}
    (consists : d.Consists start header opening close) (ahead : Nat) :
    (d.moved (Span.shifted start ahead)).Consists ahead (header.map (Directive.moved (Span.shifted start ahead)))
      (opening.moved (Span.shifted start ahead)) (close.moved (Span.shifted start ahead)) where
  outside := by
    intro x member
    obtain ⟨y, inside, rfl⟩ := List.mem_map.mp member
    exact consists.outside y inside
  opens := consists.opens
  inside := by
    intro x member
    obtain ⟨y, inside, rfl⟩ := List.mem_map.mp member
    exact consists.inside y inside
  closes := consists.closes
  properties := by
    rw [Header.ofDirectives_moved]
    exact consists.properties
  span := by
    rw [moved, consists.span]
    apply Span.ext
    · simp only [Span.shifted, Span.ofBounds]
      omega
    · simp only [Directive.moved, Span.shifted, Span.ofBounds]
      omega

/-- A dialog is read from its declaration, its header, the keyword that opens its body, the body and the
keyword that closes it. -/
theorem parse_eq_ok {source : Text} {index : Nat} {wanted? : Option Text} {d : Dialog} :
    parse source index wanted? = .ok d ↔ ∃ line header opening close rest,
      declaration? source (source.boundary index) wanted? = some (line, d.id) ∧
      (Cursor.ofOffset source line.start).directives = header ++ opening :: (d.body ++ close :: rest) ∧
      d.Consists line.start header opening close := by
  constructor
  · intro parsed
    unfold parse at parsed
    dsimp only at parsed
    split at parsed
    · cases parsed
    · next line id declared =>
      split at parsed
      · cases parsed
      · next opening inner opened =>
        split at parsed
        · cases parsed
        · next close rest closed =>
          cases parsed
          obtain ⟨read, outside, opens⟩ := Text.of_span_eq_cons (Prod.ext rfl opened)
          obtain ⟨innerEq, inside, closes⟩ := Text.of_span_eq_cons (Prod.ext rfl closed)
          rw [innerEq] at read
          exact ⟨line, _, opening, close, rest, declared, read, {
            outside := fun x member => by simpa using outside x member
            opens := by simpa using opens
            inside := fun x member => by simpa using inside x member
            closes := by simpa using closes
            properties := rfl
            span := rfl }⟩
  · rintro ⟨line, header, opening, close, rest, declared, read, consists⟩
    have front : ∀ x ∈ header, (!x.isNamed (lit "BEGIN")) = true := fun x member => by
      rw [consists.outside x member]
      rfl
    have body : ∀ x ∈ d.body, (!x.isNamed (lit "END")) = true := fun x member => by
      rw [consists.inside x member]
      rfl
    rw [parse]
    dsimp only
    rw [declared]
    dsimp only
    rw [read, Text.span_append_stop front (by simp [consists.opens])]
    dsimp only
    rw [Text.span_append_stop body (by simp [consists.closes])]
    dsimp only
    rw [← consists.properties, ← consists.span]

private theorem closing?_of_directives {source : Text} {d : Dialog} {start : Nat} {header rest : List Directive}
    {opening close : Directive} (consists : d.Consists start header opening close)
    (read : (Cursor.ofOffset source start).directives = header ++ opening :: (d.body ++ close :: rest)) :
    ∃ text closing after, closing? source start = some closing ∧ closing.next = (some close, after) ∧
      (Cursor.ofOffset source start).Passes (header ++ ([opening] ++ d.body)) text closing := by
  obtain ⟨text, c, inner, found, passes, next, behind⟩ :=
    Cursor.upTo?_of_directives read consists.outside consists.opens
  obtain ⟨text', closing, after, found', passes', next', -⟩ :=
    Cursor.upTo?_of_directives behind consists.inside consists.closes
  obtain ⟨text'', -, passes''⟩ := Cursor.next_isEnded next (Cursor.isEnded_of_directives next (by simp [behind]))
  refine ⟨text ++ (text'' ++ text'), closing, after, ?_, next', passes.trans (passes''.trans passes')⟩
  rw [closing?, found]
  show c.next.2.upTo? (lit "END") = _
  rw [next, found']

/-- A dialog that is read alone is read in the same way wherever its text stands. -/
theorem parse_of_passes {front before block rest : Text} (after : Text) {index : Nat} {wanted? : Option Text}
    {d : Dialog} {line : Line} {header : List Directive} {opening close : Directive} {behind : Cursor}
    (lineStart : ∀ c ∈ front.getLast?, c = '\n') (lineStart' : ∀ c ∈ before.getLast?, c = '\n')
    (ended : block.getLast? = some '\n') (inside : index < block.byteSize)
    (boundary : (front ++ (block ++ rest)).boundary (front.byteSize + index) = front.byteSize + index)
    (declared : declaration? (front ++ (block ++ rest)) (front.byteSize + index) wanted? = some (line, d.id))
    (start : line.start = front.byteSize)
    (passes : Cursor.Passes ⟨front.byteSize, block ++ rest⟩ (header ++ ([opening] ++ d.body) ++ [close]) block behind)
    (consists : d.Consists front.byteSize header opening close) :
    parse (before ++ (block ++ after)) (before.byteSize + index) wanted? =
      .ok (d.moved (Span.shifted front.byteSize before.byteSize)) := by
  obtain ⟨⟨start', text⟩, declared', startEq⟩ :=
    declaration?_elsewhere after lineStart lineStart' ended inside declared start
  obtain rfl : start' = before.byteSize := startEq
  have bound : (before ++ (block ++ after)).boundary (before.byteSize + index) = before.byteSize + index := by
    rw [Text.boundary_append_add, Text.boundary_append_of_lt _ inside] at boundary ⊢
    omega
  refine parse_eq_ok.mpr ⟨⟨before.byteSize, text⟩, _, _, _,
    Cursor.directives ⟨before.byteSize + block.byteSize, after⟩, ?_, ?_, consists.shifted before.byteSize⟩
  · rw [bound]
    exact declared'
  · rw [Cursor.ofOffset_byteSize, passes.elsewhere]
    simp [moved]

private theorem start_le_of_declaration? {source : Text} {index : Nat} {wanted? : Option Text} {line : Line} {id : Text}
    (declared : declaration? source index wanted? = some (line, id)) : line.start ≤ index := by
  have among := declarations_subset (List.mem_of_getLast? declared)
  simpa using List.all_eq_true.mp List.all_takeWhile _ among

/-- A dialog whose last line is ended is read from its own text: from any other script that holds the text at
the beginning of a line the same dialog is read, with its spans moved to where it stands there. -/
theorem parse_elsewhere {source : Text} {index : Nat} {wanted? : Option Text} {d : Dialog}
    (boundary : source.boundary index = index) (parsed : parse source index wanted? = .ok d) :
    ∃ closing, closing? source d.span.start = some closing ∧ d.span.start ≤ index ∧
      (∀ x ∈ d.body, d.span.start ≤ x.span.start) ∧
      (closing.isEnded = true → index < closing.next.2.offset →
        ∀ before after : Text, (∀ c ∈ before.getLast?, c = '\n') →
          parse (before ++ (source.slice d.span.start closing.next.2.offset ++ after))
              (before.byteSize + index - d.span.start) wanted? =
            .ok (d.moved (Span.shifted d.span.start before.byteSize))) := by
  obtain ⟨line, header, opening, close, rest, declared, read, consists⟩ := parse_eq_ok.mp parsed
  rw [boundary] at declared
  obtain ⟨front, behind, sourceEq, lineEq, lineStart⟩ :=
    Text.exists_of_mem_lines [] (by simp) (mem_lines_of_declaration? declared)
  rw [List.nil_append] at sourceEq
  obtain ⟨text, closing, last, found, next, passes⟩ := closing?_of_directives consists read
  have low := start_le_of_declaration? declared
  have start : d.span.start = line.start := by rw [consists.span]; rfl
  rw [start]
  rw [lineEq] at low found passes consists ⊢
  rw [sourceEq, Cursor.ofOffset_byteSize] at passes
  refine ⟨closing, found, low, fun x member => passes.behind x (by simp [member]),
    fun ended inBlock before after startsLine => ?_⟩
  obtain ⟨text', feed, passes'⟩ := Cursor.next_isEnded next ended
  have whole := passes.trans passes'
  have blockEnd : (text ++ text').getLast? = some '\n' := by rw [List.getLast?_append, feed]; rfl
  generalize text ++ text' = block at whole blockEnd
  have stop : closing.next.2.offset = front.byteSize + block.byteSize := by rw [next, whole.offset]
  obtain rfl : behind = block ++ last.rest := whole.rest
  obtain ⟨ahead, rfl⟩ := Nat.exists_eq_add_of_le low
  rw [stop] at inBlock ⊢
  rw [sourceEq] at boundary declared ⊢
  have index : before.byteSize + (front.byteSize + ahead) - front.byteSize = before.byteSize + ahead := by omega
  rw [Text.slice_append, index]
  exact parse_of_passes after lineStart startsLine blockEnd (Nat.lt_of_add_lt_add_left inBlock) boundary declared
    lineEq whole consists

/-- A dialog that is taken from between two lines and put behind another declaration. -/
theorem parse_elsewhere_behind :
    let source := lit "X\nA DIALOG\nBEGIN\nY 8\nEND\nZ\n"
    source.boundary 12 = 12 ∧
      parse source 12 none = .ok {
        id := ['A'], header := [(['A'], [lit "DIALOG"])], body := [⟨['Y'], [['8']], .ofBounds 17 20⟩]
        span := .ofBounds 2 24 } ∧
      parse (lit "V DIALOG\nA DIALOG\nBEGIN\nY 8\nEND\nEND\n") 19 none = .ok {
        id := ['A'], header := [(['A'], [lit "DIALOG"])], body := [⟨['Y'], [['8']], .ofBounds 24 27⟩]
        span := .ofBounds 9 31 } := by
  intro source
  have first : Cursor.next ⟨2, lit "A DIALOG\nBEGIN\nY 8\nEND\nZ\n"⟩ =
      (some ⟨['A'], [lit "DIALOG"], .ofBounds 2 10⟩, ⟨11, lit "BEGIN\nY 8\nEND\nZ\n"⟩) := by decide +kernel
  have second : Cursor.next ⟨11, lit "BEGIN\nY 8\nEND\nZ\n"⟩ =
      (some ⟨lit "BEGIN", [], .ofBounds 11 16⟩, ⟨17, lit "Y 8\nEND\nZ\n"⟩) := by decide +kernel
  have third : Cursor.next ⟨17, lit "Y 8\nEND\nZ\n"⟩ =
      (some ⟨['Y'], [['8']], .ofBounds 17 20⟩, ⟨21, lit "END\nZ\n"⟩) := by decide +kernel
  have fourth : Cursor.next ⟨21, lit "END\nZ\n"⟩ =
      (some ⟨lit "END", [], .ofBounds 21 24⟩, ⟨25, lit "Z\n"⟩) := by decide +kernel
  have start : Cursor.ofOffset source 2 = ⟨2, lit "A DIALOG\nBEGIN\nY 8\nEND\nZ\n"⟩ := rfl
  have bound : source.boundary 12 = 12 := by decide +kernel
  have parsed : parse source 12 none = .ok {
      id := ['A'], header := [(['A'], [lit "DIALOG"])], body := [⟨['Y'], [['8']], .ofBounds 17 20⟩]
      span := .ofBounds 2 24 } := by
    refine parse_eq_ok.mpr ⟨⟨2, lit "A DIALOG"⟩, [⟨['A'], [lit "DIALOG"], .ofBounds 2 10⟩],
      ⟨lit "BEGIN", [], .ofBounds 11 16⟩, ⟨lit "END", [], .ofBounds 21 24⟩, Cursor.directives ⟨25, lit "Z\n"⟩,
      by decide +kernel, ?_, ⟨by decide, by decide, by decide, by decide, by decide, by decide⟩⟩
    rw [start, Cursor.directives_of_next first, Cursor.directives_of_next second, Cursor.directives_of_next third,
      Cursor.directives_of_next fourth]
    rfl
  obtain ⟨closing, found, -, -, elsewhere⟩ := parse_elsewhere bound parsed
  have closes : closing? source 2 = some ⟨21, lit "END\nZ\n"⟩ := by
    rw [closing?, start, Cursor.upTo?_of_next _ first, if_neg (by decide), Cursor.upTo?_of_next _ second,
      if_pos (by decide)]
    show (Cursor.next _).2.upTo? _ = _
    rw [second, Cursor.upTo?_of_next _ third, if_neg (by decide), Cursor.upTo?_of_next _ fourth, if_pos (by decide)]
  obtain rfl : closing = ⟨21, lit "END\nZ\n"⟩ := Option.some.inj (found.symm.trans closes)
  rw [fourth] at elsewhere
  exact ⟨bound, parsed, elsewhere (by decide +kernel) (by decide) (lit "V DIALOG\n") (lit "END\n")
    fun c last => (Option.some.inj last).symm⟩

end Dialog

end DialogGrid
