import DialogGrid.Proofs.Coverage

/-!
# Putting scripts together and taking directives out

A line feed separates what is read before it from what is read behind it, whatever stands in the two texts: no open
quote and no separator with a blank behind it reaches over it (`directives_joined`). A directive is also read from its
own text, without the blanks around it (`directives_slice`).
-/

namespace DialogGrid

/-! ## Argument lists -/

namespace ArgumentList

/-- A list that the text ends is the same when a line feed ends it, if that is not one behind a separator. -/
private theorem scan_append_feed {quoted separated : Bool} {t : Text} (rest : Text)
    (unended : isEnded quoted separated t = false) (last : ∀ c ∈ t.getLast?, c ≠ '\r' ∧ c ≠ ',')
    (start : t = [] → separated = false) :
    scan quoted separated (t ++ '\n' :: rest) = ⟨(scan quoted separated t).pieces, t ++ ['\n'], rest⟩ := by
  fun_induction isEnded quoted separated t with
  | case1 quoted separated =>
    rw [start rfl]
    rfl
  | case2 => cases unended
  | case3 quoted separated behind notFeed ih =>
    have goesOn : behind ≠ [] := by
      rintro rfl
      exact (last '\r' rfl).1 rfl
    have later := ih unended (fun d member => last d (List.mem_getLast?_cons member)) fun nothing => absurd nothing goesOn
    rw [List.cons_append, scan_return, later, scan_return]
    rfl
  | case4 quoted separated c behind notFeed notCarriage separator ih =>
    have goesOn : behind ≠ [] := by
      rintro rfl
      exact (last c rfl).2 separator.1
    have later := ih unended (fun d member => last d (List.mem_getLast?_cons member)) fun nothing => absurd nothing goesOn
    obtain ⟨rfl, rfl⟩ := separator
    rw [List.cons_append, scan_separator, later, scan_separator]
    rfl
  | case5 quoted separated c behind notFeed notCarriage inner ih =>
    have later := ih unended (fun d member => last d (List.mem_getLast?_cons member)) fun _ => rfl
    rw [List.cons_append, scan_inner notFeed notCarriage inner, later, scan_inner notFeed notCarriage inner]
    rfl

private theorem pieces_of_isBlank {quoted separated : Bool} {t : Text}
    (blank : (scan quoted separated t).read.IsBlank) :
    ∃ piece, (scan quoted separated t).pieces = [piece] ∧ piece.IsBlank := by
  fun_induction scan quoted separated t with
  | case1 => exact ⟨[], rfl, Text.IsBlank.nil⟩
  | case2 => exact ⟨[], rfl, Text.IsBlank.nil⟩
  | case3 quoted separated behind notFeed ih => exact ih fun c member => blank c (List.mem_cons_of_mem _ member)
  | case4 => exact absurd (blank ',' List.mem_cons_self) (by decide)
  | case5 quoted separated c behind notFeed notCarriage inner ih =>
    obtain ⟨piece, pieces, all⟩ := ih fun c member => blank c (List.mem_cons_of_mem _ member)
    refine ⟨c :: piece, by rw [push, pieces], fun d member => ?_⟩
    rcases List.mem_cons.mp member with rfl | later
    · exact blank d List.mem_cons_self
    · exact all d later

/-- The blanks at the end of a list belong to its last piece, and what is visible of it is a list of its own with the
same pieces but for these blanks. -/
private theorem scan_shown {quoted separated : Bool} {t shown blank : Text}
    (whole : (scan quoted separated t).read = shown ++ blank) (all : blank.IsBlank)
    (visible : ∀ c ∈ shown.getLast?, isBlank c = false) :
    ∃ front last more, scan quoted separated shown = ⟨front ++ [last], shown, []⟩ ∧
      (scan quoted separated t).pieces = front ++ [last ++ more] ∧ more.IsBlank := by
  induction shown generalizing quoted separated t with
  | nil =>
    rw [List.nil_append] at whole
    obtain ⟨piece, pieces, blank⟩ := pieces_of_isBlank (by rw [whole]; exact all)
    exact ⟨[], [], piece, rfl, pieces, blank⟩
  | cons c shown ih =>
    cases t with
    | nil => cases whole
    | cons d behind =>
      have later : ∀ e ∈ shown.getLast?, isBlank e = false := fun e member => visible e (List.mem_getLast?_cons member)
      by_cases feed : d = '\n' ∧ separated = false
      · -- The line feed at the end of a list is a blank, so it cannot be the last visible character.
        rw [scan, if_pos feed] at whole
        obtain ⟨rfl, nothing⟩ := List.cons.inj whole
        obtain ⟨rfl, -⟩ := List.append_eq_nil_iff.mp nothing.symm
        have seen := visible d rfl
        rw [feed.1] at seen
        cases seen
      · by_cases carriage : d = '\r'
        · subst carriage
          rw [scan_return] at whole
          obtain ⟨rfl, inner⟩ := List.cons.inj whole
          obtain ⟨front, last, more, alone, pieces, blanks⟩ := ih inner later
          rw [scan_return, scan_return, alone]
          exact ⟨front, last, more, rfl, pieces, blanks⟩
        · by_cases separator : d = ',' ∧ quoted = false
          · obtain ⟨rfl, rfl⟩ := separator
            rw [scan_separator] at whole
            obtain ⟨rfl, inner⟩ := List.cons.inj whole
            obtain ⟨front, last, more, alone, pieces, blanks⟩ := ih inner later
            rw [scan_separator, scan_separator, alone, separate, separate, pieces]
            exact ⟨[] :: front, last, more, rfl, rfl, blanks⟩
          · have step := scan_inner feed carriage separator
            rw [step] at whole
            obtain ⟨rfl, inner⟩ := List.cons.inj whole
            obtain ⟨front, last, more, alone, pieces, blanks⟩ := ih inner later
            rw [step, step, alone, push, push, pieces]
            cases front with
            | nil => exact ⟨[], d :: last, more, rfl, rfl, blanks⟩
            | cons first front => exact ⟨(d :: first) :: front, last, more, rfl, rfl, blanks⟩

private theorem trim_shown {quoted separated : Bool} {t shown blank : Text}
    (whole : (scan quoted separated t).read = shown ++ blank) (all : blank.IsBlank)
    (visible : ∀ c ∈ shown.getLast?, isBlank c = false) :
    ∃ pieces, scan quoted separated shown = ⟨pieces, shown, []⟩ ∧
      pieces.map Text.trim = (scan quoted separated t).pieces.map Text.trim := by
  obtain ⟨front, last, more, alone, pieces, blanks⟩ := scan_shown whole all visible
  have pad : Text.trim (last ++ more) = last.trim := Text.trim_pad last Text.IsBlank.nil blanks
  refine ⟨front ++ [last], alone, ?_⟩
  rw [pieces, List.map_append, List.map_append, List.map_singleton, List.map_singleton, pad]

end ArgumentList

/-! ## Line ends -/

private theorem lineEnd?_inline {t : Text} (inline : Inline t) : lineEnd? t = some (t, []) := by
  have ended := lineEnd?_blanks none [] inline fun _ => rfl
  simpa only [LineBreak.optional, Option.elim_none, List.append_nil] using ended

private theorem inline_of_lineEnd? {t read rest : Text} (ended : lineEnd? t = some (read, rest))
    (unbroken : read.getLast? ≠ some '\n') : Inline t := by
  have whole := lineEnd?_append ended
  obtain ⟨blanks, ending?, inline, rfl, unended⟩ := exists_of_lineEnd? ended
  cases ending? with
  | none =>
    rw [unended rfl] at whole
    rw [← whole]
    simpa only [LineBreak.optional, Option.elim_none, List.append_nil] using inline
  | some lineBreak => cases lineBreak <;> exact absurd (by simp [LineBreak.optional, LineBreak.text]) unbroken

private theorem lineEnd?_shown {shown behind : Text} {c : Char} (ongoing : lineEnd? (shown ++ behind) = none)
    (last : shown.getLast? = some c) (visible : isBlank c = false) : lineEnd? shown = none := by
  have notInline : ¬ Inline shown := by
    intro inline
    rw [inline.isBlank c (List.mem_of_getLast? last)] at visible
    cases visible
  have noReturn : shown.getLast? ≠ some '\r' := by
    intro carriage
    obtain rfl : c = '\r' := Option.some.inj (last.symm.trans carriage)
    cases visible
  rwa [lineEnd?_append_of_not_inline notInline noReturn, Option.map_eq_none_iff] at ongoing

namespace Cursor

/-! ## Reading further behind -/

/-- What is read does not depend on the place where it is read, which is told by the spans only. -/
theorem read?_shifted (c : Cursor) (ahead : Nat) :
    read? ⟨c.offset + ahead, c.rest⟩ =
      c.read?.map fun (d, after) => (d.moved (Span.shifted 0 ahead), ⟨after.offset + ahead, after.rest⟩) := by
  have moved : ∀ name args size, Directive.moved (Span.shifted 0 ahead) ⟨name, args, .ofBounds c.offset (c.offset + size)⟩ =
      ⟨name, args, .ofBounds (c.offset + ahead) (c.offset + ahead + size)⟩ := by
    intro name args size
    have same := moved_ofBounds name args 0 ahead c.offset (c.offset + size)
    rw [Nat.zero_add, Nat.zero_add, Nat.add_comm ahead, Nat.add_comm ahead, Nat.add_right_comm] at same
    exact same
  unfold read?
  dsimp only
  split
  · rfl
  · split
    · simp [forward, moved, Nat.add_right_comm]
    · simp [forward, moved, Nat.add_right_comm, Nat.add_assoc]

theorem next_shifted (c : Cursor) (ahead : Nat) :
    next ⟨c.offset + ahead, c.rest⟩ =
      (c.next.1.map (Directive.moved (Span.shifted 0 ahead)), ⟨c.next.2.offset + ahead, c.next.2.rest⟩) := by
  have gap : skipGap ⟨c.offset + ahead, c.rest⟩ = ⟨c.skipGap.offset + ahead, c.skipGap.rest⟩ := by
    simp only [skipGap, forward, Nat.add_right_comm]
  rw [next, next, gap, read?_shifted]
  cases c.skipGap.read? with
  | none => rfl
  | some found => rfl

theorem directives_shifted (c : Cursor) (ahead : Nat) :
    directives ⟨c.offset + ahead, c.rest⟩ = c.directives.map (Directive.moved (Span.shifted 0 ahead)) := by
  induction c using Cursor.directives.induct with
  | case1 c d after found ih =>
    have shifted := c.next_shifted ahead
    rw [found] at shifted
    rw [directives_of_next found, directives_of_next shifted, ih]
    rfl
  | case2 c after found =>
    have shifted := c.next_shifted ahead
    rw [found] at shifted
    rw [directives_of_none found, directives_of_none shifted]
    rfl

private theorem directives_of_rest {c : Cursor} (nothing : c.rest = []) : c.directives = [] := by
  obtain ⟨offset, rest⟩ := c
  subst nothing
  exact directives_gap (by simp) offset

theorem directives_append_gap {gap : Text} (all : ∀ b ∈ gap, isGap b = true) (offset : Nat) (rest : Text) :
    directives ⟨offset, gap ++ rest⟩ = directives ⟨offset + gap.byteSize, rest⟩ := by
  have skipped : skipGap ⟨offset, gap ++ rest⟩ = skipGap ⟨offset + gap.byteSize, rest⟩ := by
    simp only [skipGap, forward, List.takeWhile_append_of_pos all, List.dropWhile_append_of_pos all,
      Text.byteSize_append, Nat.add_assoc]
  have same : next ⟨offset, gap ++ rest⟩ = next ⟨offset + gap.byteSize, rest⟩ := by rw [next, next, skipped]
  cases found : next ⟨offset + gap.byteSize, rest⟩ with
  | mk directive? after =>
    rw [found] at same
    cases directive? with
    | some d => rw [directives_of_next found, directives_of_next same]
    | none => rw [directives_of_none found, directives_of_none same]

/-! ## A line feed between two scripts -/

private theorem Parts.append_feed {t gap name behind : Text} (parts : Parts t gap name behind) (rest : Text) :
    Parts (t ++ '\n' :: rest) gap name (behind ++ '\n' :: rest) where
  text := by rw [parts.text, List.append_assoc, List.append_assoc]
  gaps := parts.gaps
  name_ne_nil := parts.name_ne_nil
  visible := parts.visible
  divided := by
    intro b first
    cases behind with
    | nil =>
      cases first
      decide
    | cons e more => exact parts.divided b first

variable {c after : Cursor} {d : Directive}

theorem next_append_feed (next : c.next = (some d, after)) (unended : c.isEnded = false)
    (last : ∀ b ∈ c.rest.getLast?, b ≠ '\r' ∧ b ≠ ',') (rest : Text) :
    Cursor.next ⟨c.offset, c.rest ++ '\n' :: rest⟩ = (some d, ⟨c.offset + (c.rest.byteSize + 1), rest⟩) := by
  obtain ⟨gap, name, behind, parts⟩ := exists_parts next
  have feed : '\n'.utf8Size = 1 := rfl
  have size : c.rest.byteSize = gap.byteSize + name.byteSize + behind.byteSize := by
    rw [parts.text, Text.byteSize_append, Text.byteSize_append, Nat.add_assoc]
  have parts' := parts.append_feed rest
  have lastBehind : ∀ b ∈ behind.getLast?, b ≠ '\r' ∧ b ≠ ',' := by
    intro b member
    refine last b ?_
    rw [parts.text]
    exact List.mem_getLast?_append_of_mem_getLast? (List.mem_getLast?_append_of_mem_getLast? member)
  rw [parts.isEnded_eq] at unended
  cases line : lineEnd? behind with
  | some found =>
    obtain ⟨read, nothing⟩ := found
    have here := parts.next_lineEnd line
    rw [next] at here
    obtain ⟨directive, -⟩ := Prod.mk.inj here
    rw [line] at unended
    have inline := inline_of_lineEnd? line (by simpa using unended)
    have line' : lineEnd? (behind ++ '\n' :: rest) = some (behind ++ ['\n'], rest) :=
      lineEnd?_blanks (some .lf) rest inline (by simp)
    have there := @Parts.next_lineEnd ⟨c.offset, c.rest ++ '\n' :: rest⟩ _ _ _ _ _ parts' line'
    rw [there, directive, size]
    simp [feed, Nat.add_assoc]
  | none =>
    rw [line] at unended
    have here := parts.next_arguments line
    rw [next] at here
    obtain ⟨directive, -⟩ := Prod.mk.inj here
    have ongoing : ¬ Inline behind := by
      intro inline
      rw [lineEnd?_inline inline] at line
      cases line
    have line' : lineEnd? (behind ++ '\n' :: rest) = none := by
      rw [lineEnd?_append_of_not_inline ongoing fun carriage => (lastBehind '\r' carriage).1 rfl, line]
      rfl
    have there := @Parts.next_arguments ⟨c.offset, c.rest ++ '\n' :: rest⟩ _ _ _ parts' line'
    have whole := ArgumentList.read_append_rest false false behind
    rw [ArgumentList.rest_of_not_isEnded unended, List.append_nil] at whole
    have trimmed : Text.trimEnd (behind ++ ['\n']) = behind.trimEnd :=
      Text.trimEnd_append_blank behind (LineBreak.isBlank_optional (some .lf))
    rw [ArgumentList.scan_append_feed rest unended lastBehind fun _ => rfl] at there
    rw [there, directive, whole, size, trimmed]
    simp [feed, Nat.add_assoc]

theorem directives_append_feed (c : Cursor) (last : ∀ b ∈ c.rest.getLast?, b ≠ '\r' ∧ b ≠ ',')
    (ends : c.final.rest = []) (rest : Text) :
    directives ⟨c.offset, c.rest ++ '\n' :: rest⟩ =
      c.directives ++ directives ⟨c.offset + (c.rest.byteSize + 1), rest⟩ := by
  have feed : '\n'.utf8Size = 1 := rfl
  induction c using Cursor.directives.induct with
  | case1 c d after found ih =>
    rw [final_of_next found] at ends
    rw [directives_of_next found]
    cases ended : c.isEnded with
    | true =>
      -- What is read up to its own line break is the same before any other text.
      obtain ⟨text, -, passes⟩ := next_isEnded found ended
      have stays : Span.shifted c.offset c.offset = id := by
        funext s
        apply Span.ext <;> simp [Span.shifted]
      have last' : ∀ b ∈ after.rest.getLast?, b ≠ '\r' ∧ b ≠ ',' := by
        intro b member
        refine last b ?_
        rw [passes.rest]
        exact List.mem_getLast?_append_of_mem_getLast? member
      have behind := ih last' ends
      rw [passes.offset] at behind
      rw [passes.rest, List.append_assoc, passes.elsewhere, behind, stays]
      simp [Directive.moved, Nat.add_assoc]
    | false =>
      have nothing := directives_of_rest (rest_of_not_isEnded found ended)
      rw [directives_of_next (next_append_feed found ended last rest), nothing]
      rfl
  | case2 c after found =>
    -- Only blanks are left, and the line feed is one more of them.
    rw [final_of_none found, (next_of_none found).1] at ends
    have gap : c.rest.takeWhile isGap = c.rest := by
      have whole := List.takeWhile_append_dropWhile (p := isGap) (l := c.rest)
      rwa [show c.rest.dropWhile isGap = [] from ends, List.append_nil] at whole
    have all : ∀ b ∈ c.rest ++ ['\n'], isGap b = true := by
      intro b member
      rcases List.mem_append.mp member with early | late
      · rw [← gap] at early
        exact List.all_eq_true.mp List.all_takeWhile b early
      · rw [List.mem_singleton.mp late]
        decide
    have skipped := directives_append_gap all c.offset rest
    rw [Text.byteSize_append, Text.byteSize_cons, Text.byteSize_nil, feed, List.append_assoc, List.singleton_append]
      at skipped
    rw [directives_of_none found, skipped, List.nil_append]

end Cursor

theorem Cursor.ofOffset_zero (source : Text) : Cursor.ofOffset source 0 = ⟨0, source⟩ := ofOffset_byteSize [] source

/-- A script that is read to its end and another one are read as one script when a line feed is put between them: the
directives of the first, and those of the second, further behind. The first script must not end with a separator, which
the line feed would continue, or with a carriage return, which would become a part of the line break. -/
theorem directives_joined {a : Text} (last : ∀ c ∈ a.getLast?, c ≠ '\r' ∧ c ≠ ',')
    (ends : (Cursor.ofOffset a 0).final.rest = []) (b : Text) :
    directives (a ++ '\n' :: b) =
      directives a ++ (directives b).map (Directive.moved (Span.shifted 0 (a.byteSize + 1))) := by
  rw [Cursor.ofOffset_zero] at ends
  have separated := Cursor.directives_append_feed ⟨0, a⟩ last ends b
  simp only [directives, Cursor.ofOffset_zero]
  rw [separated, ← Cursor.directives_shifted]

/-- Neither the open quote of the first script nor the separator before its last blank reaches over the line feed. -/
theorem directives_joined_quote :
    let a := lit "A \"x\nB 1, "
    (∀ c ∈ a.getLast?, c ≠ '\r' ∧ c ≠ ',') ∧ (Cursor.ofOffset a 0).final.rest = [] ∧
      directives (a ++ '\n' :: lit "C \"é, 2\", 3\n") =
        [⟨['A'], [lit "\"x"], .ofBounds 0 4⟩, ⟨['B'], [['1'], []], .ofBounds 5 9⟩,
          ⟨['C'], [lit "\"é, 2\"", ['3']], .ofBounds 11 23⟩] := by
  intro a
  have read₁ : Cursor.next ⟨0, a⟩ = (some ⟨['A'], [lit "\"x"], .ofBounds 0 4⟩, ⟨5, lit "B 1, "⟩) := by decide +kernel
  have read₂ : Cursor.next ⟨5, lit "B 1, "⟩ = (some ⟨['B'], [['1'], []], .ofBounds 5 9⟩, ⟨10, []⟩) := by decide +kernel
  have ended₂ : Cursor.next ⟨10, []⟩ = (none, ⟨10, []⟩) := by decide +kernel
  have read₃ : Cursor.next ⟨0, lit "C \"é, 2\", 3\n"⟩ =
      (some ⟨['C'], [lit "\"é, 2\"", ['3']], .ofBounds 0 12⟩, ⟨13, []⟩) := by decide +kernel
  have ended₃ : Cursor.next ⟨13, []⟩ = (none, ⟨13, []⟩) := by decide +kernel
  have last : ∀ c ∈ a.getLast?, c ≠ '\r' ∧ c ≠ ',' := by
    intro c last
    obtain rfl : ' ' = c := Option.some.inj last
    decide
  have ends : (Cursor.ofOffset a 0).final.rest = [] := by
    rw [Cursor.ofOffset_zero, Cursor.final_of_next read₁, Cursor.final_of_next read₂, Cursor.final_of_none ended₂]
  refine ⟨last, ends, ?_⟩
  rw [directives_joined last ends, directives, directives, Cursor.ofOffset_zero, Cursor.ofOffset_zero,
    Cursor.directives_of_next read₁, Cursor.directives_of_next read₂, Cursor.directives_of_none ended₂,
    Cursor.directives_of_next read₃, Cursor.directives_of_none ended₃]
  decide

/-! ## Directives of their own -/

namespace Cursor

variable {source : Text} {c after : Cursor} {d : Directive} {gap shown blank : Text}

/-- Every directive that is read is the next one from some position of the script on. -/
theorem Stands.exists_next (stands : c.Stands source) (member : d ∈ c.directives) :
    ∃ before after : Cursor, before.Stands source ∧ before.next = (some d, after) := by
  obtain ⟨n, inside, rfl⟩ := List.getElem_of_mem member
  exact ⟨c.after n, c.after (n + 1), stands.stands_after n, next_after c n inside⟩

/-- The span of a directive is about its name and what is shown of its arguments. -/
theorem Takes.slice? (takes : c.Takes d after gap shown blank) (stands : c.Stands source) :
    source.slice? d.span.start d.span.stop = some (d.name ++ shown) := by
  obtain ⟨front, whole, offset⟩ := takes.exists_split stands
  have slice := Text.slice?_append (front ++ gap) (d.name ++ shown) (blank ++ after.rest)
  rw [List.append_assoc, ← whole, Text.byteSize_append front, ← offset] at slice
  simpa [takes.span, Span.ofBounds] using slice

theorem Parts.alone {t gap name front behind : Text} (parts : Parts t gap name (front ++ behind)) :
    Parts (name ++ front) [] name front where
  text := rfl
  gaps := by simp
  name_ne_nil := parts.name_ne_nil
  visible := parts.visible
  divided := by
    intro b first
    refine parts.divided b ?_
    rw [List.head?_append, Option.mem_def.mp first]
    rfl

/-- A directive is read from its own text, less the blanks that are read behind it. -/
theorem Takes.directives_alone (takes : c.Takes d after gap shown blank) (args : d.args ≠ [[]]) :
    directives ⟨0, d.name ++ shown⟩ = [{ d with span := .ofBounds 0 (Text.byteSize (d.name ++ shown)) }] := by
  have parts := takes.parts.alone
  rcases takes.args with ⟨unshown, noArgs, -⟩ | ⟨pieces, ongoing, trimmed, scanned, argsEq⟩
  · rw [unshown] at parts ⊢
    have ended : lineEnd? [] = some ([], []) := rfl
    have next := @Parts.next_lineEnd ⟨0, d.name ++ []⟩ _ _ _ _ _ parts ended
    rw [directives_of_next next, directives_of_rest rfl, noArgs]
    simp
  · have visible : ∀ b ∈ shown.getLast?, isBlank b = false := by
      intro b member
      rw [trimmed] at member
      exact Text.visible_of_getLast?_trimEnd member
    obtain ⟨pieces', alone, same⟩ := ArgumentList.trim_shown (by rw [scanned]) takes.blanks visible
    rw [scanned, ← argsEq] at same
    -- A list of which nothing is visible is one empty argument.
    obtain ⟨b, last⟩ : ∃ b, shown.getLast? = some b := by
      refine Option.ne_none_iff_exists'.mp fun unshown => args ?_
      rw [List.getLast?_eq_none_iff.mp unshown] at alone
      have piece : pieces' = [[]] := (congrArg ArgumentList.pieces alone).symm
      rw [← same, piece]
      rfl
    have next := @Parts.next_arguments ⟨0, d.name ++ shown⟩ _ _ _ parts (lineEnd?_shown ongoing last (visible b last))
    dsimp only at next
    rw [Text.trimEnd_append_blank shown takes.blanks] at trimmed
    rw [alone, same, ← trimmed] at next
    rw [directives_of_next next, directives_of_rest rfl]
    simp

end Cursor

/-- The text that a directive spans is read as this directive alone. An argument of blanks only, behind a name, is
no part of the span and would be missing. -/
theorem directives_slice {source : Text} {d : Directive} (member : d ∈ directives source) (args : d.args ≠ [[]]) :
    ∃ text, source.slice? d.span.start d.span.stop = some text ∧
      directives text = [{ d with span := .ofBounds 0 text.byteSize }] := by
  obtain ⟨c, after, stands, next⟩ := Cursor.Stands.exists_next (Cursor.stands_ofByte source 0) member
  obtain ⟨gap, shown, blank, takes⟩ := Cursor.exists_takes next
  refine ⟨d.name ++ shown, takes.slice? stands, ?_⟩
  rw [directives, Cursor.ofOffset_zero]
  exact takes.directives_alone args

/-- A directive over two lines, with carriage returns that are dropped and a quote that stays open. -/
theorem directives_slice_continued :
    let source := lit "\n A \"é\",\r\n 2\r3 , \"z \u00a0\r\nB\n"
    let text := lit "A \"é\",\r\n 2\r3 , \"z"
    let d : Directive := ⟨['A'], [lit "\"é\"", lit "23", lit "\"z"], .ofBounds 2 20⟩
    d ∈ directives source ∧ d.args ≠ [[]] ∧ source.slice? 2 20 = some text ∧
      directives text = [{ d with span := .ofBounds 0 18 }] := by
  intro source text d
  have read : Cursor.next ⟨0, source⟩ = (some d, ⟨25, lit "B\n"⟩) := by decide +kernel
  have member : d ∈ directives source := by
    rw [directives, Cursor.ofOffset_zero, Cursor.directives_of_next read]
    exact List.mem_cons_self
  have args : d.args ≠ [[]] := by decide
  have slice : source.slice? 2 20 = some text := by decide +kernel
  obtain ⟨text', slice', alone⟩ := directives_slice member args
  obtain rfl : text = text' := Option.some.inj (slice.symm.trans slice')
  exact ⟨member, args, slice, alone⟩

end DialogGrid
