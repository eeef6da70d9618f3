import DialogGrid.Proofs.Layout
import DialogGrid.Proofs.Text

/-!
# Reading what was written

Whatever layout a directive is written in, reading gives its name, its arguments and the span of
what is visible of it, and goes on with the text behind it (`Cursor.next_written`). So a script is
read as the directives it was written from (`directives_written`).
-/

namespace DialogGrid

theorem Inline.isBlank {t : Text} (inline : Inline t) : t.IsBlank := by
  intro c member
  rcases inline c member with rfl | rfl <;> decide

theorem LineBreak.isBlank_optional (b? : Option LineBreak) : Text.IsBlank (LineBreak.optional b?) := by
  intro c member
  cases b? with
  | none => cases member
  | some b =>
    cases b with
    | lf =>
      rw [List.mem_singleton.mp member]
      decide
    | crlf =>
      rcases List.mem_cons.mp member with rfl | feed
      · decide
      · rw [List.mem_singleton.mp feed]
        decide

/-! ## Single characters of an argument list -/

namespace ArgumentList

theorem scan_return (quoted separated : Bool) (rest : Text) :
    scan quoted separated ('\r' :: rest) = (scan quoted separated rest).skip '\r' := by
  rw [scan, if_neg (by simp), if_pos rfl]

theorem scan_separator (separated : Bool) (rest : Text) :
    scan false separated (',' :: rest) = (scan false true rest).separate := by
  rw [scan, if_neg (by simp), if_neg (by decide), if_pos ⟨rfl, rfl⟩]

theorem scan_inner {quoted separated : Bool} {c : Char} (notFeed : ¬ (c = '\n' ∧ separated = false))
    (notCarriage : ¬ c = '\r') (notSeparator : ¬ (c = ',' ∧ quoted = false)) (rest : Text) :
    scan quoted separated (c :: rest) = (scan (quoted ^^ c == '"') false rest).push c := by
  rw [scan, if_neg notFeed, if_neg notCarriage, if_neg notSeparator]

end ArgumentList

/-! ## Quotes along a text -/

/-- Whether a quote is open after a text, when `quoted` tells whether one was open before it. -/
def quoteAfter (quoted : Bool) (t : Text) : Bool := t.foldl (fun q c => q ^^ c == '"') quoted

theorem quoteAfter_append (quoted : Bool) (a b : Text) :
    quoteAfter quoted (a ++ b) = quoteAfter (quoteAfter quoted a) b :=
  List.foldl_append

theorem quoteAfter_eq (quoted : Bool) (t : Text) :
    quoteAfter quoted t = (quoted ^^ decide (t.count '"' % 2 = 1)) := by
  induction t generalizing quoted with
  | nil => simp [quoteAfter]
  | cons c rest ih =>
    have step : quoteAfter quoted (c :: rest) = quoteAfter (quoted ^^ c == '"') rest := rfl
    rw [step, ih, List.count_cons]
    cases quote : c == '"' with
    | false => simp
    | true =>
      rcases Nat.mod_two_eq_zero_or_one (rest.count '"') with even | odd
      · simp [even, Nat.add_mod]
      · simp [odd, Nat.add_mod]

private theorem quoteAfter_inline {t : Text} (quoted : Bool) (inline : Inline t) : quoteAfter quoted t = quoted := by
  induction t generalizing quoted with
  | nil => rfl
  | cons c rest ih =>
    have none : (c == '"') = false := by
      rcases inline c List.mem_cons_self with rfl | rfl <;> rfl
    have step : quoteAfter quoted (c :: rest) = quoteAfter (quoted ^^ c == '"') rest := rfl
    rw [step, none, Bool.xor_false, ih _ fun d m => inline d (List.mem_cons_of_mem c m)]

/-! ## Argument lists -/

namespace ArgumentList

/-- A text that holds no separator, no line end and no carriage return, so that all of it belongs
to one argument. -/
def Unsplit (quoted : Bool) : Text → Prop
  | [] => True
  | c :: rest => c ≠ '\n' ∧ c ≠ '\r' ∧ (c = ',' → quoted = true) ∧ Unsplit (quoted ^^ c == '"') rest

theorem Unsplit.append {quoted : Bool} {a b : Text} (front : Unsplit quoted a)
    (back : Unsplit (quoteAfter quoted a) b) : Unsplit quoted (a ++ b) := by
  induction a generalizing quoted with
  | nil => exact back
  | cons c rest ih =>
    obtain ⟨notLf, notCr, comma, later⟩ := front
    exact ⟨notLf, notCr, comma, ih later back⟩

private theorem unsplit_inline {t : Text} (quoted : Bool) (inline : Inline t) : Unsplit quoted t := by
  induction t generalizing quoted with
  | nil => trivial
  | cons c rest ih =>
    have later := ih (quoted ^^ c == '"') fun d m => inline d (List.mem_cons_of_mem c m)
    rcases inline c List.mem_cons_self with rfl | rfl
    · exact ⟨by decide, by decide, by simp, later⟩
    · exact ⟨by decide, by decide, by simp, later⟩

private theorem unsplit_arg {arg : Text} (oneLine : '\r' ∉ arg ∧ '\n' ∉ arg) (commas : CommasQuoted arg) :
    Unsplit false arg := by
  have general : ∀ (t : Text) (quoted : Bool), '\r' ∉ t → '\n' ∉ t →
      (∀ i < t.length, t[i]? = some ',' → quoteAfter quoted (t.take i) = true) → Unsplit quoted t := by
    intro t
    induction t with
    | nil => intros; trivial
    | cons c rest ih =>
      intro quoted noCr noLf open_
      rw [List.mem_cons, not_or] at noCr noLf
      refine ⟨Ne.symm noLf.1, Ne.symm noCr.1, ?_, ih _ noCr.2 noLf.2 ?_⟩
      · intro comma
        exact open_ 0 (by simp) (by simp [comma])
      · intro i inside comma
        exact open_ (i + 1) (by simpa using inside) (by simpa using comma)
  refine general arg false oneLine.1 oneLine.2 ?_
  intro i inside comma
  rw [quoteAfter_eq, commas i inside comma]
  rfl

private theorem scan_unsplit {t rest read after piece : Text} {pieces : List Text} {quoted separated : Bool}
    (unsplit : Unsplit quoted t)
    (tail : scan (quoteAfter quoted t) (separated && t.isEmpty) rest = ⟨piece :: pieces, read, after⟩) :
    scan quoted separated (t ++ rest) = ⟨(t ++ piece) :: pieces, t ++ read, after⟩ := by
  induction t generalizing quoted separated with
  | nil => simpa [quoteAfter] using tail
  | cons c t ih =>
    obtain ⟨notLf, notCr, comma, later⟩ := unsplit
    have notSeparator : ¬ (c = ',' ∧ quoted = false) := by
      rintro ⟨isComma, closed⟩
      rw [comma isComma] at closed
      cases closed
    have read := @ih (quoted ^^ c == '"') false later (by simpa [quoteAfter] using tail)
    rw [List.cons_append, scan_inner (by simp [notLf]) notCr notSeparator, read]
    rfl

private theorem scan_lineBreak (lineBreak : LineBreak) {rest read after piece : Text} {pieces : List Text}
    (tail : scan false false rest = ⟨piece :: pieces, read, after⟩) :
    scan false true (lineBreak.text ++ rest) = ⟨('\n' :: piece) :: pieces, lineBreak.text ++ read, after⟩ := by
  have feed : scan false true ('\n' :: rest) = ⟨('\n' :: piece) :: pieces, '\n' :: read, after⟩ := by
    rw [scan_inner (by simp) (by decide) (by simp)]
    show (scan false false rest).push '\n' = _
    rw [tail]
    rfl
  cases lineBreak with
  | lf => exact feed
  | crlf =>
    show scan false true ('\r' :: '\n' :: rest) = _
    rw [scan_return, feed]
    rfl

private theorem scan_ending (ending? : Option LineBreak) {rest : Text} (quoted : Bool)
    (ended : ending? = none → rest = []) :
    scan quoted false (LineBreak.optional ending? ++ rest) = ⟨[[]], LineBreak.optional ending?, rest⟩ := by
  cases ending? with
  | none =>
    rw [ended rfl]
    rfl
  | some lineBreak => cases lineBreak <;> rfl

end ArgumentList

/-! ### Written arguments -/

namespace Slot

/-- The piece that is read for a written argument: all of it, less the carriage return of a line
break. -/
def piece (s : Slot) : Text := (if s.lineBreak?.isSome then ['\n'] else []) ++ (s.before ++ s.arg ++ s.after)

private theorem trim_piece {s : Slot} (before : Inline s.before) (after : Inline s.after)
    (trimmed : s.arg.trim = s.arg) : s.piece.trim = s.arg := by
  have lineBreak : Text.IsBlank (if s.lineBreak?.isSome then ['\n'] else []) := by
    split
    · intro c member
      rw [List.mem_singleton.mp member]
      decide
    · intro c member
      cases member
  have front : Text.IsBlank ((if s.lineBreak?.isSome then ['\n'] else []) ++ s.before) := by
    intro c member
    rcases List.mem_append.mp member with early | late
    · exact lineBreak c early
    · exact before.isBlank c late
  have regrouped : s.piece = (if s.lineBreak?.isSome then ['\n'] else []) ++ s.before ++ s.arg ++ s.after := by
    simp [piece]
  rw [regrouped, Text.trim_pad s.arg front after.isBlank, trimmed]

/-- Reading a written argument reads its piece. A line break may stand in it only directly after
a separator. -/
private theorem scan_text {s : Slot} {rest read after piece : Text} {pieces : List Text} {separated : Bool}
    (inlineBefore : Inline s.before) (inlineAfter : Inline s.after) (unsplit : ArgumentList.Unsplit false s.arg)
    (opened : separated = false → s.lineBreak? = none)
    (tail : ArgumentList.scan (quoteAfter false s.arg) (separated && s.text.isEmpty) rest =
      ⟨piece :: pieces, read, after⟩) :
    ArgumentList.scan false separated (s.text ++ rest) = ⟨(s.piece ++ piece) :: pieces, s.text ++ read, after⟩ := by
  have inner : ArgumentList.Unsplit false (s.before ++ s.arg ++ s.after) := by
    refine ((ArgumentList.unsplit_inline _ inlineBefore).append ?_).append (ArgumentList.unsplit_inline _ inlineAfter)
    rwa [quoteAfter_inline _ inlineBefore]
  have quote : quoteAfter false (s.before ++ s.arg ++ s.after) = quoteAfter false s.arg := by
    rw [quoteAfter_append, quoteAfter_append, quoteAfter_inline _ inlineBefore, quoteAfter_inline _ inlineAfter]
  cases broken : s.lineBreak? with
  | none =>
    have text : s.text = s.before ++ s.arg ++ s.after := by simp [Slot.text, LineBreak.optional, broken]
    have whole : s.piece = s.before ++ s.arg ++ s.after := by simp [Slot.piece, broken]
    rw [text, whole]
    rw [text] at tail
    exact ArgumentList.scan_unsplit inner (by rwa [quote])
  | some lineBreak =>
    have text : s.text = lineBreak.text ++ (s.before ++ s.arg ++ s.after) := by
      simp [Slot.text, LineBreak.optional, broken]
    have whole : s.piece = '\n' :: (s.before ++ s.arg ++ s.after) := by simp [Slot.piece, broken]
    cases separated with
    | false =>
      rw [opened rfl] at broken
      cases broken
    | true =>
      have nonempty : s.text.isEmpty = false := by cases lineBreak <;> simp [text, LineBreak.text]
      rw [nonempty, Bool.and_false] at tail
      have scanned : ArgumentList.scan false false (s.before ++ s.arg ++ s.after ++ rest) = _ :=
        ArgumentList.scan_unsplit inner (by rwa [quote, Bool.false_and])
      rw [text, whole, List.append_assoc, ArgumentList.scan_lineBreak lineBreak scanned]
      simp

private theorem scan_listText {slots : List Slot} {trailing rest : Text} {ending? : Option LineBreak} {separated : Bool}
    (nonempty : slots ≠ [])
    (blanks : ∀ s ∈ slots, Inline s.before ∧ Inline s.after) (blankTrailing : Inline trailing)
    (trimmed : ∀ s ∈ slots, s.arg.trim = s.arg) (unsplit : ∀ s ∈ slots, ArgumentList.Unsplit false s.arg)
    (closed : ∀ s ∈ slots.dropLast, quoteAfter false s.arg = false)
    (opened : separated = false → ∀ s ∈ slots.head?, s.lineBreak? = none)
    (last : ∀ s ∈ slots.getLast?, s.text ++ trailing ≠ [])
    (ended : ending? = none → rest = []) :
    ∃ pieces, ArgumentList.scan false separated
        (listText slots ++ (trailing ++ (LineBreak.optional ending? ++ rest))) =
          ⟨pieces, listText slots ++ (trailing ++ LineBreak.optional ending?), rest⟩ ∧
      pieces.map Text.trim = slots.map (·.arg) := by
  -- Over the arguments: from the second one on a separator stands before them, so `separated` changes.
  induction slots generalizing separated with
  | nil => exact absurd rfl nonempty
  | cons s more ih =>
    obtain ⟨before, after⟩ := blanks s List.mem_cons_self
    have piece := trim_piece before after (trimmed s List.mem_cons_self)
    have open_ : separated = false → s.lineBreak? = none := fun first => opened first s rfl
    cases more with
    | nil =>
      have something : ((separated && s.text.isEmpty) && trailing.isEmpty) = false := by
        have := last s rfl
        cases emptyText : s.text <;> cases emptyTrailing : trailing <;> simp_all
      have behind : ArgumentList.scan (quoteAfter false s.arg) (separated && s.text.isEmpty)
          (trailing ++ (LineBreak.optional ending? ++ rest)) =
            ⟨[trailing ++ []], trailing ++ LineBreak.optional ending?, rest⟩ := by
        refine ArgumentList.scan_unsplit (ArgumentList.unsplit_inline _ blankTrailing) ?_
        rw [something]
        exact ArgumentList.scan_ending ending? _ ended
      refine ⟨_, scan_text before after (unsplit s List.mem_cons_self) open_ behind, ?_⟩
      have padded := Text.trim_pad s.piece .nil blankTrailing.isBlank
      simpa [piece] using padded
    | cons next rest' =>
      obtain ⟨pieces, scanned, args⟩ := @ih true (by simp)
        (fun t m => blanks t (List.mem_cons_of_mem s m)) (fun t m => trimmed t (List.mem_cons_of_mem s m))
        (fun t m => unsplit t (List.mem_cons_of_mem s m))
        (fun t m => closed t (by simpa using Or.inr m)) (by simp)
        (fun t m => last t (by simpa using m))
      have behind : ArgumentList.scan (quoteAfter false s.arg) (separated && s.text.isEmpty)
          (',' :: (listText (next :: rest') ++ (trailing ++ (LineBreak.optional ending? ++ rest)))) =
            ⟨[] :: pieces, ',' :: (listText (next :: rest') ++ (trailing ++ LineBreak.optional ending?)), rest⟩ := by
        rw [closed s (by simp), ArgumentList.scan_separator, scanned]
        rfl
      have whole := scan_text before after (unsplit s List.mem_cons_self) open_ behind
      refine ⟨_, by simpa [listText] using whole, ?_⟩
      simp [piece, args]

end Slot

/-! ## Directives -/

theorem lineEnd?_blanks {trailing : Text} (ending? : Option LineBreak) (rest : Text) (inline : Inline trailing)
    (ended : ending? = none → rest = []) :
    lineEnd? (trailing ++ (LineBreak.optional ending? ++ rest)) =
      some (trailing ++ LineBreak.optional ending?, rest) := by
  have all : ∀ c ∈ trailing, (c == ' ' || c == '\t') = true := by
    intro c member
    rcases inline c member with rfl | rfl <;> rfl
  have stop : ∀ c ∈ (LineBreak.optional ending? ++ rest).head?, (c == ' ' || c == '\t') = false := by
    intro c first
    cases ending? with
    | none =>
      rw [ended rfl] at first
      cases first
    | some lineBreak => cases lineBreak <;> cases first <;> rfl
  unfold lineEnd?
  dsimp only
  rw [Text.takeWhile_append_stop all stop, Text.dropWhile_append_stop all stop]
  cases ending? with
  | none =>
    rw [ended rfl]
    simp [LineBreak.optional]
  | some lineBreak => cases lineBreak <;> rfl

theorem isBlank_of_isGap {c : Char} (gap : isGap c = true) : isBlank c = true := by
  simp only [isGap, Bool.or_eq_true, beq_iff_eq] at gap
  rcases gap with ((rfl | rfl) | rfl) | rfl <;> decide

theorem isGap_of_visible {c : Char} (visible : isBlank c = false) : isGap c = false := by
  cases gap : isGap c with
  | false => rfl
  | true =>
    rw [isBlank_of_isGap gap] at visible
    cases visible

theorem lineEnd?_eq_none {blanks rest : Text} {c : Char} (inline : Inline blanks) (ongoing : isGap c = false) :
    lineEnd? (blanks ++ c :: rest) = none := by
  have all : ∀ d ∈ blanks, (d == ' ' || d == '\t') = true := by
    intro d member
    rcases inline d member with rfl | rfl <;> rfl
  have stop : ∀ d ∈ (c :: rest).head?, (d == ' ' || d == '\t') = false := by
    intro d first
    cases first
    simp only [isGap, Bool.or_eq_false_iff] at ongoing
    rw [Bool.or_eq_false_iff]
    exact ⟨ongoing.1.1.1, ongoing.1.1.2⟩
  unfold lineEnd?
  dsimp only
  rw [Text.dropWhile_append_stop all stop]
  split
  · next nothing => cases nothing
  · next same =>
    cases same
    cases ongoing
  · next same =>
    cases same
    cases ongoing
  · rfl

namespace Written

variable {w : Written}

private theorem isBlank_behind_name {rest : Text} (fits : w.Fits) (ended : w.ending? = none → rest = []) :
    ∀ c ∈ (Slot.listText w.slots ++ (w.trailing ++ (LineBreak.optional w.ending? ++ rest))).head?,
      (!isBlank c) = false := by
  intro c first
  rw [Bool.not_eq_false']
  cases slots : w.slots with
  | nil =>
    rw [slots] at first
    cases trailing : w.trailing with
    | nil =>
      rw [trailing] at first
      cases ending : w.ending? with
      | none =>
        rw [ending, ended ending] at first
        cases first
      | some lineBreak =>
        rw [ending] at first
        cases lineBreak <;> cases first <;> decide
    | cons d more =>
      rw [trailing] at first
      cases first
      exact fits.trailing.isBlank c (by rw [trailing]; exact List.mem_cons_self)
  | cons s more =>
    obtain ⟨unbroken, divided⟩ := fits.first s (by rw [slots]; rfl)
    obtain ⟨d, before, beforeEq⟩ := List.exists_cons_of_ne_nil divided
    have text : ∃ behind, Slot.listText (s :: more) = d :: behind := by
      cases more <;> simp [Slot.listText, Slot.text, LineBreak.optional, unbroken, beforeEq]
    obtain ⟨behind, textEq⟩ := text
    rw [slots, textEq] at first
    cases first
    refine (fits.blanks s (by rw [slots]; exact List.mem_cons_self)).1.isBlank c ?_
    rw [beforeEq]
    exact List.mem_cons_self

private theorem lineEnd?_arguments {behind : Text} (canonical : Canonical w.name w.args) (fits : w.Fits)
    (slots : w.slots ≠ []) : lineEnd? (Slot.listText w.slots ++ behind) = none := by
  cases slotsEq : w.slots with
  | nil => exact absurd slotsEq slots
  | cons s more =>
    obtain ⟨unbroken, -⟩ := fits.first s (by rw [slotsEq]; rfl)
    obtain ⟨before, after⟩ := fits.blanks s (by rw [slotsEq]; exact List.mem_cons_self)
    have text : s.text = s.before ++ s.arg ++ s.after := by simp [Slot.text, LineBreak.optional, unbroken]
    cases arg : s.arg with
    | cons c rest =>
      have trimmed := canonical.trimmed s.arg (by simp [args, slotsEq])
      rw [arg] at trimmed
      have visible : isBlank c = false := Text.visible_of_trim_eq trimmed
      have shape : ∃ tail, Slot.listText (s :: more) ++ behind = s.before ++ c :: tail := by
        cases more <;> simp [Slot.listText, text, arg]
      obtain ⟨tail, shapeEq⟩ := shape
      rw [shapeEq]
      exact lineEnd?_eq_none before (isGap_of_visible visible)
    | nil =>
      cases more with
      | nil => exact absurd (by simp [args, slotsEq, arg]) canonical.args_ne
      | cons next rest =>
        have shape : Slot.listText (s :: next :: rest) ++ behind =
            (s.before ++ s.after) ++ ',' :: (Slot.listText (next :: rest) ++ behind) := by
          simp [Slot.listText, text, arg]
        rw [shape]
        refine lineEnd?_eq_none ?_ (by decide)
        intro c member
        rcases List.mem_append.mp member with early | late
        · exact before c early
        · exact after c late

theorem trimEnd_content (canonical : Canonical w.name w.args) :
    w.content.trimEnd = w.name ++ (Slot.listText w.slots).trimEnd := by
  unfold content
  rcases Text.blank_or_visible (Slot.listText w.slots) with all | ⟨front, c, blank, split, visible, -⟩
  · rw [Text.trimEnd_append_blank _ all, Text.trimEnd_eq_nil all, List.append_nil]
    rcases List.eq_nil_or_concat w.name with nothing | ⟨front, c, concat⟩
    · exact absurd nothing canonical.name_ne_nil
    · rw [List.concat_eq_append] at concat
      rw [concat]
      exact Text.trimEnd_append_visible front (canonical.name_visible c (by simp [concat]))
  · refine Text.trimEnd_append _ fun all => ?_
    have := all c (by rw [split]; simp)
    rw [visible] at this
    cases this

/-- The arguments of a written directive are read back up to its end. -/
theorem scan_arguments {rest : Text} (canonical : Canonical w.name w.args) (fits : w.Fits) (slots : w.slots ≠ [])
    (ended : w.ending? = none → rest = []) :
    ∃ pieces, ArgumentList.scan false false
        (Slot.listText w.slots ++ (w.trailing ++ (LineBreak.optional w.ending? ++ rest))) =
          ⟨pieces, Slot.listText w.slots ++ (w.trailing ++ LineBreak.optional w.ending?), rest⟩ ∧
      pieces.map Text.trim = w.args := by
  have member : ∀ s ∈ w.slots, s.arg ∈ w.args := fun s m => List.mem_map_of_mem m
  refine Slot.scan_listText slots fits.blanks fits.trailing (fun s m => canonical.trimmed _ (member s m)) ?_ ?_
    (fun _ s m => (fits.first s m).1) ?_ ended
  · intro s m
    exact ArgumentList.unsplit_arg (canonical.oneLine _ (member s m)) (canonical.commasQuoted _ (member s m))
  · intro s m
    have even := canonical.closed s.arg (by rw [args, ← List.map_dropLast]; exact List.mem_map_of_mem m)
    simp [quoteAfter_eq, even]
  · intro s m nothing
    obtain ⟨text, trailing⟩ := List.append_eq_nil_iff.mp nothing
    obtain ⟨broken, inner⟩ := List.append_eq_nil_iff.mp text
    have unbroken : s.lineBreak? = none := by
      cases lineBreak : s.lineBreak? with
      | none => rfl
      | some b =>
        rw [lineBreak] at broken
        cases b <;> cases broken
    simp only [List.append_eq_nil_iff] at inner
    exact fits.last s m inner.1.2 unbroken (by rw [inner.1.1, inner.2, trailing]; rfl)

private theorem skipGap_name {behind : Text} (canonical : Canonical w.name w.args) (fits : w.Fits) (offset : Nat) :
    Cursor.skipGap ⟨offset, w.gap ++ (w.name ++ behind)⟩ = ⟨offset + w.gap.byteSize, w.name ++ behind⟩ := by
  have stop : ∀ c ∈ (w.name ++ behind).head?, isGap c = false := by
    intro c first
    obtain ⟨d, name, nameEq⟩ := List.exists_cons_of_ne_nil canonical.name_ne_nil
    have visible := canonical.name_visible d (by rw [nameEq]; exact List.mem_cons_self)
    rw [nameEq] at first
    cases first
    exact isGap_of_visible visible
  rw [Cursor.skipGap, Cursor.forward, Text.takeWhile_append_stop fits.gap stop,
    Text.dropWhile_append_stop fits.gap stop]

private theorem read?_name {rest : Text} (canonical : Canonical w.name w.args) (fits : w.Fits) (offset : Nat)
    (ended : w.ending? = none → rest = []) :
    Cursor.read? ⟨offset, w.name ++ (Slot.listText w.slots ++ (w.trailing ++ (LineBreak.optional w.ending? ++ rest)))⟩ =
      some (⟨w.name, w.args, .ofBounds offset (offset + w.content.trimEnd.byteSize)⟩,
        ⟨offset + Text.byteSize (w.content ++ (w.trailing ++ LineBreak.optional w.ending?)), rest⟩) := by
  have visible : ∀ c ∈ w.name, (!isBlank c) = true := by
    intro c member
    rw [canonical.name_visible c member]
    rfl
  have stop := isBlank_behind_name fits ended
  have blank : Text.IsBlank (w.trailing ++ LineBreak.optional w.ending?) := by
    intro c member
    rcases List.mem_append.mp member with early | late
    · exact fits.trailing.isBlank c early
    · exact LineBreak.isBlank_optional w.ending? c late
  rw [Cursor.read?]
  dsimp only
  rw [Text.takeWhile_append_stop visible stop, Text.dropWhile_append_stop visible stop,
    if_neg canonical.name_ne_nil, trimEnd_content canonical]
  by_cases slots : w.slots = []
  · have line := lineEnd?_blanks w.ending? _ fits.trailing ended
    simp [slots, Slot.listText, line, Cursor.forward, content, args, Text.trimEnd, Nat.add_assoc]
  · obtain ⟨pieces, scanned, pieceArgs⟩ := scan_arguments canonical fits slots ended
    rw [lineEnd?_arguments canonical fits slots, scanned]
    simp [Cursor.forward, content, pieceArgs, Text.trimEnd_append_blank _ blank, Nat.add_assoc]

end Written

/-- A written directive is the next one, and reading goes on behind it. -/
theorem Cursor.next_written {w : Written} (canonical : Canonical w.name w.args) (fits : w.Fits) (offset : Nat)
    {rest : Text} (ended : w.ending? = none → rest = []) :
    Cursor.next ⟨offset, w.text ++ rest⟩ = (some (w.directive offset), ⟨offset + w.text.byteSize, rest⟩) := by
  have text : w.text ++ rest =
      w.gap ++ (w.name ++ (Slot.listText w.slots ++ (w.trailing ++ (LineBreak.optional w.ending? ++ rest)))) := by
    simp [Written.text, Written.content]
  rw [text, Cursor.next, Written.skipGap_name canonical fits, Written.read?_name canonical fits _ ended]
  simp [Written.directive, Written.text, Nat.add_assoc]

/-- Reading from a position on gives the next directive and what is read from behind it on. -/
theorem Cursor.directives_of_next {c after : Cursor} {d : Directive} (next : c.next = (some d, after)) :
    c.directives = d :: after.directives := by
  rw [Cursor.directives]
  split
  · next found =>
    rw [next] at found
    cases found
    rfl
  · next ended =>
    rw [next] at ended
    cases ended

theorem Cursor.directives_of_none {c after : Cursor} (next : c.next = (none, after)) : c.directives = [] := by
  rw [Cursor.directives]
  split
  · next found =>
    rw [next] at found
    cases found
  · rfl

/-- The directives from a position on, if there are fewer than some number of them. -/
def Cursor.directivesWithin? : Nat → Cursor → Option (List Directive)
  | 0, _ => none
  | n + 1, c =>
    match c.next with
    | (some d, after) => (directivesWithin? n after).map (d :: ·)
    | (none, _) => some []

/-- With a bound on their number the directives of a given script can be computed by recursion on the bound. -/
theorem Cursor.directives_of_within {n : Nat} {c : Cursor} {ds : List Directive}
    (within : c.directivesWithin? n = some ds) : c.directives = ds := by
  induction n generalizing c ds with
  | zero => cases within
  | succ n ih =>
    rw [directivesWithin?] at within
    split at within
    · next d after next =>
      obtain ⟨later, read, rfl⟩ := Option.map_eq_some_iff.mp within
      rw [directives_of_next next, ih read]
    · next after next =>
      cases within
      exact directives_of_none next

/-- Written directives are read in order, and then what stands behind them. -/
theorem Cursor.directives_textOf {ws : List Written} {rest : Text} (offset : Nat)
    (canonical : ∀ w ∈ ws, Canonical w.name w.args) (fits : ∀ w ∈ ws, w.Fits)
    (ended : ∀ w ∈ ws.dropLast, w.ending? ≠ none)
    (last : rest = [] ∨ ∀ w ∈ ws, w.ending? ≠ none) :
    Cursor.directives ⟨offset, Written.textOf ws ++ rest⟩ =
      Written.directives offset ws ++ Cursor.directives ⟨offset + (Written.textOf ws).byteSize, rest⟩ := by
  induction ws generalizing offset with
  | nil => rfl
  | cons w more ih =>
    have behind : w.ending? = none → Written.textOf more ++ rest = [] := by
      intro unended
      cases more with
      | nil =>
        rcases last with nothing | all
        · exact nothing
        · exact absurd unended (all w List.mem_cons_self)
      | cons next _ => exact absurd unended (ended w (by simp))
    have text : Written.textOf (w :: more) ++ rest = w.text ++ (Written.textOf more ++ rest) := by
      simp [Written.textOf]
    have next := Cursor.next_written (canonical w List.mem_cons_self) (fits w List.mem_cons_self) offset behind
    rw [text, Cursor.directives_of_next next, ih _ (fun v m => canonical v (List.mem_cons_of_mem w m))
      (fun v m => fits v (List.mem_cons_of_mem w m)) ?_ ?_]
    · simp [Written.directives, Written.textOf, Nat.add_assoc]
    · intro v member
      cases more with
      | nil => cases member
      | cons next _ => exact ended v (by simpa using Or.inr member)
    · exact last.imp_right fun all v m => all v (List.mem_cons_of_mem w m)

namespace Written

theorem textOf_cons (w : Written) (ws : List Written) : textOf (w :: ws) = w.text ++ textOf ws := rfl

theorem textOf_append (ws vs : List Written) : textOf (ws ++ vs) = textOf ws ++ textOf vs :=
  List.flatMap_append

theorem directives_append (offset : Nat) (ws vs : List Written) :
    directives offset (ws ++ vs) = directives offset ws ++ directives (offset + (textOf ws).byteSize) vs := by
  induction ws generalizing offset with
  | nil => rfl
  | cons w rest ih => simp [directives, textOf, ih, Nat.add_assoc]

/-- Where directives are written makes no difference to their names and arguments. -/
theorem map_directives {α : Type} (f : Text → List Text → α) (offset : Nat) (ws : List Written) :
    (directives offset ws).map (fun d => f d.name d.args) = ws.map fun w => f w.name w.args := by
  induction ws generalizing offset with
  | nil => rfl
  | cons w rest ih => rw [directives, List.map_cons, List.map_cons, ih]; rfl

theorem exists_of_mem_directives {offset : Nat} {ws : List Written} {d : Directive}
    (member : d ∈ directives offset ws) : ∃ w ∈ ws, w.name = d.name ∧ w.args = d.args := by
  have mapped : (d.name, d.args) ∈ (directives offset ws).map fun d => (d.name, d.args) :=
    List.mem_map_of_mem member
  rw [map_directives Prod.mk, List.mem_map] at mapped
  obtain ⟨w, inside, same⟩ := mapped
  exact ⟨w, inside, congrArg Prod.fst same, congrArg Prod.snd same⟩

end Written

theorem Cursor.ofOffset_byteSize (a b : Text) : Cursor.ofOffset (a ++ b) a.byteSize = ⟨a.byteSize, b⟩ := by
  rw [Cursor.ofOffset, Text.splitAtByte_byteSize]

theorem Cursor.directives_gap {blank : Text} (all : ∀ c ∈ blank, isGap c = true) (offset : Nat) :
    Cursor.directives ⟨offset, blank⟩ = [] := by
  have skipped := Text.dropWhile_append_stop (b := []) all (by simp)
  have none : Cursor.next ⟨offset, blank⟩ = (none, Cursor.skipGap ⟨offset, blank⟩) := by
    rw [List.append_nil] at skipped
    simp [Cursor.next, Cursor.skipGap, Cursor.forward, Cursor.read?, skipped]
  exact Cursor.directives_of_none none

/-- A script is read as the directives it was written from, in whatever layout they were written:
with blank lines and indentation before them, line breaks directly after separators, blanks around
names and arguments, and either kind of line break behind them or, behind the last one, none. -/
theorem directives_written (ws : List Written) (tail : Text)
    (canonical : ∀ w ∈ ws, Canonical w.name w.args) (fits : ∀ w ∈ ws, w.Fits)
    (ended : ∀ w ∈ ws.dropLast, w.ending? ≠ none)
    (blank : ∀ c ∈ tail, isGap c = true) (last : tail = [] ∨ ∀ w ∈ ws, w.ending? ≠ none) :
    directives (Written.textOf ws ++ tail) = Written.directives 0 ws := by
  have start : Cursor.ofOffset (Written.textOf ws ++ tail) 0 = ⟨0, Written.textOf ws ++ tail⟩ :=
    Cursor.ofOffset_byteSize [] _
  rw [directives, start, Cursor.directives_textOf 0 canonical fits ended last, Cursor.directives_gap blank,
    List.append_nil]

/-- A continued list, an argument with a separator in quotes, an empty argument behind a line
break, and an argument that leaves its quote open. -/
theorem directives_written_mixed :
    let ws : List Written :=
      [{ name := lit "BEGIN", trailing := lit " \t", ending? := some .crlf },
        { gap := lit "\n  ", name := lit "CONTROL", slots :=
          [{ before := lit " ", arg := lit "\"a, b\"", after := lit " " },
            { lineBreak? := some .crlf, before := lit "\t", arg := lit "8" },
            { lineBreak? := some .lf, arg := [] }] },
        { name := lit "TEXT", slots := [{ before := lit " ", arg := lit "\"c, d" }], ending? := none }]
    (∀ w ∈ ws, Canonical w.name w.args) ∧ (∀ w ∈ ws, w.Fits) ∧ (∀ w ∈ ws.dropLast, w.ending? ≠ none) ∧
      directives (Written.textOf ws ++ []) =
        [⟨lit "BEGIN", [], .ofBounds 0 5⟩,
          ⟨lit "CONTROL", [lit "\"a, b\"", lit "8", []], .ofBounds 12 33⟩,
          ⟨lit "TEXT", [lit "\"c, d"], .ofBounds 35 45⟩] := by
  intro ws
  have canonical : ∀ w ∈ ws, Canonical w.name w.args := by decide
  have fits : ∀ w ∈ ws, w.Fits := by decide
  have ended : ∀ w ∈ ws.dropLast, w.ending? ≠ none := by decide
  refine ⟨canonical, fits, ended, ?_⟩
  rw [directives_written ws [] canonical fits ended (by decide) (.inl rfl)]
  decide

end DialogGrid
