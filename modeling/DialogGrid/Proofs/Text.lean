import DialogGrid.Blank
import DialogGrid.Lines
import Mathlib.Data.List.TakeDrop

/-!
# Texts

Facts about trimming, about cuts at a byte and about the lines of a text that starts with known
characters. Most say what one of these does to two texts put together.
-/

namespace DialogGrid.Text

/-! ## Leading elements of one kind -/

section
variable {α : Type} {p : α → Bool} {a b : List α}

theorem takeWhile_append_stop (all : ∀ c ∈ a, p c = true) (stop : ∀ c ∈ b.head?, p c = false) :
    (a ++ b).takeWhile p = a := by
  rw [List.takeWhile_append_of_pos all]
  cases b with
  | nil => simp
  | cons c rest => simp [stop c rfl]

theorem dropWhile_append_stop (all : ∀ c ∈ a, p c = true) (stop : ∀ c ∈ b.head?, p c = false) :
    (a ++ b).dropWhile p = b := by
  rw [List.dropWhile_append_of_pos all]
  cases b with
  | nil => rfl
  | cons c rest => simp [stop c rfl]

theorem span_append_stop (all : ∀ c ∈ a, p c = true) (stop : ∀ c ∈ b.head?, p c = false) :
    (a ++ b).span p = (a, b) := by
  rw [List.span_eq_takeWhile_dropWhile, takeWhile_append_stop all stop, dropWhile_append_stop all stop]

theorem of_span_eq_cons {l rest : List α} {c : α} (split : l.span p = (a, c :: rest)) :
    l = a ++ c :: rest ∧ (∀ d ∈ a, p d = true) ∧ p c = false := by
  rw [List.span_eq_takeWhile_dropWhile] at split
  obtain ⟨front, back⟩ := Prod.mk.inj split
  have whole := List.takeWhile_append_dropWhile (p := p) (l := l)
  have all : ∀ d ∈ l.takeWhile p, p d = true := fun d member => List.all_eq_true.mp List.all_takeWhile d member
  have stop := List.head?_dropWhile_not p l
  rw [front, back] at whole
  rw [front] at all
  rw [back] at stop
  exact ⟨whole.symm, all, by simpa using stop⟩

end

/-! ## Trimming -/

/-- A text of blanks only. -/
def IsBlank (t : Text) : Prop := ∀ c ∈ t, isBlank c = true

instance (t : Text) : Decidable t.IsBlank := List.decidableBAll (isBlank · = true) t

theorem IsBlank.nil : IsBlank [] := fun _ member => absurd member List.not_mem_nil

theorem trimStart_eq_nil {t : Text} (blank : IsBlank t) : t.trimStart = [] := by
  have gone : (t ++ []).dropWhile isBlank = [] := List.dropWhile_append_of_pos blank
  rwa [List.append_nil] at gone

theorem trimEnd_eq_nil {t : Text} (blank : IsBlank t) : t.trimEnd = [] := by
  have reversed : trimStart t.reverse = [] := trimStart_eq_nil fun c m => blank c (List.mem_reverse.mp m)
  unfold trimStart at reversed
  rw [trimEnd, reversed, List.reverse_nil]

theorem exists_trimEnd_append (t : Text) : ∃ blank, t.trimEnd ++ blank = t ∧ IsBlank blank := by
  have whole := List.takeWhile_append_dropWhile (p := isBlank) (l := t.reverse)
  refine ⟨(t.reverse.takeWhile isBlank).reverse, ?_, fun c member => ?_⟩
  · rw [trimEnd, ← List.reverse_append, whole, List.reverse_reverse]
  · exact List.all_eq_true.mp List.all_takeWhile c (List.mem_reverse.mp member)

theorem visible_of_getLast?_trimEnd {t : Text} {c : Char} (last : t.trimEnd.getLast? = some c) : isBlank c = false := by
  have stop := List.head?_dropWhile_not isBlank t.reverse
  rw [trimEnd, List.getLast?_reverse] at last
  rw [last] at stop
  simpa using stop

theorem trimStart_append_blank {blank : Text} (t : Text) (all : IsBlank blank) :
    (blank ++ t).trimStart = t.trimStart :=
  List.dropWhile_append_of_pos all

theorem trimEnd_append_blank {blank : Text} (t : Text) (all : IsBlank blank) :
    (t ++ blank).trimEnd = t.trimEnd := by
  unfold trimEnd
  rw [List.reverse_append, List.dropWhile_append_of_pos fun c m => all c (List.mem_reverse.mp m)]

theorem trimEnd_append_visible {c : Char} (t : Text) (visible : isBlank c = false) :
    (t ++ [c]).trimEnd = t ++ [c] := by
  simp [trimEnd, visible]

/-- Either all of a text is blank, or it ends with a visible character and then blanks. -/
theorem blank_or_visible (t : Text) :
    IsBlank t ∨ ∃ front c blank, t = front ++ [c] ++ blank ∧ isBlank c = false ∧ IsBlank blank := by
  induction t with
  | nil => exact .inl fun c m => by cases m
  | cons c rest ih =>
    rcases ih with all | ⟨front, d, blank, split, visible, all⟩
    · cases first : isBlank c with
      | true =>
        left
        intro d member
        rcases List.mem_cons.mp member with rfl | later
        · exact first
        · exact all d later
      | false => exact .inr ⟨[], c, rest, rfl, first, all⟩
    · exact .inr ⟨c :: front, d, blank, by rw [split]; rfl, visible, all⟩

/-- Trimming the end of two texts, where the second is not all blank, trims the second. -/
theorem trimEnd_append {t : Text} (s : Text) (visible : ¬ IsBlank t) : (s ++ t).trimEnd = s ++ t.trimEnd := by
  rcases blank_or_visible t with all | ⟨front, c, blank, rfl, shown, all⟩
  · exact absurd all visible
  · rw [← List.append_assoc, trimEnd_append_blank _ all, trimEnd_append_blank _ all, ← List.append_assoc,
      trimEnd_append_visible _ shown, trimEnd_append_visible _ shown, List.append_assoc]

/-- Blanks around a text are trimmed away. -/
theorem trim_pad {before after : Text} (t : Text) (front : IsBlank before) (back : IsBlank after) :
    (before ++ t ++ after).trim = t.trim := by
  unfold trim
  rw [List.append_assoc, trimStart_append_blank _ front]
  unfold trimStart
  rw [List.dropWhile_append]
  split
  · next gone =>
    rw [List.isEmpty_iff.mp gone]
    have none : after.trimStart = [] := trimStart_eq_nil back
    unfold trimStart at none
    rw [none]
  · exact trimEnd_append_blank _ back

theorem visible_of_trim_eq {c : Char} {rest : Text} (trimmed : trim (c :: rest) = c :: rest) :
    isBlank c = false := by
  cases first : isBlank c with
  | false => rfl
  | true =>
    have shorter : (trim (c :: rest)).length ≤ rest.length := by
      have start : trimStart (c :: rest) = trimStart rest := by simp [trimStart, first]
      rw [trim, start, trimEnd, List.length_reverse]
      calc ((trimStart rest).reverse.dropWhile isBlank).length
          ≤ (trimStart rest).reverse.length := (List.dropWhile_sublist _).length_le
        _ = (trimStart rest).length := List.length_reverse
        _ ≤ rest.length := (List.dropWhile_sublist _).length_le
    rw [trimmed, List.length_cons] at shorter
    omega

theorem trim_eq_self {t : Text} (first : ∀ c ∈ t.head?, isBlank c = false)
    (last : ∀ c ∈ t.getLast?, isBlank c = false) : t.trim = t := by
  have start : t.trimStart = t := by
    cases t with
    | nil => rfl
    | cons c rest => simp [trimStart, first c rfl]
  rw [trim, start]
  rcases List.eq_nil_or_concat t with rfl | ⟨front, c, rfl⟩
  · rfl
  · rw [List.concat_eq_append] at last ⊢
    exact trimEnd_append_visible front (last c (by simp))

/-! ## Words -/

/-- A blank divides the words before it from those behind it. -/
theorem words_append_blank (a b : Text) {blank : Char} (stop : isBlank blank = true) :
    words (a ++ blank :: b) = words a ++ words b := by
  rw [words, List.splitOnP_append_cons a b stop, List.filter_append, words, words]

theorem words_pad {before after : Text} (t : Text) (front : IsBlank before) (back : IsBlank after) :
    words (before ++ t ++ after) = words t := by
  have behind : ∀ t, words (t ++ after) = words t := by
    intro t
    induction after generalizing t with
    | nil => rw [List.append_nil]
    | cons c rest ih =>
      have nothing := ih (fun d member => back d (List.mem_cons_of_mem c member)) []
      rw [words_append_blank t rest (back c List.mem_cons_self), ← List.nil_append rest, nothing]
      simp [words, List.splitOnP_nil]
  rw [behind]
  induction before with
  | nil => rfl
  | cons c rest ih =>
    have first := words_append_blank [] (rest ++ t) (front c List.mem_cons_self)
    rw [List.nil_append] at first
    rw [List.cons_append, first, ih fun d member => front d (List.mem_cons_of_mem c member)]
    simp [words, List.splitOnP_nil]

theorem words_eq_singleton {word : Text} (nonempty : word ≠ []) (visible : ∀ c ∈ word, isBlank c = false) :
    words word = [word] := by
  rw [words, List.splitOnP_eq_singleton visible]
  simp [nonempty]

theorem words_cons {word : Text} (rest : Text) {blank : Char} (nonempty : word ≠ [])
    (visible : ∀ c ∈ word, isBlank c = false) (stop : isBlank blank = true) :
    words (word ++ blank :: rest) = word :: words rest := by
  simp [words, List.splitOnP_append_cons_of_forall_mem visible blank stop, nonempty]

/-- What stands between the characters that a text is split at is part of the text, and holds none of them. -/
theorem of_mem_splitOnP {p : Char → Bool} {t piece : Text} (member : piece ∈ t.splitOnP p) :
    ∀ c ∈ piece, p c = false ∧ c ∈ t := by
  induction t generalizing piece with
  | nil =>
    rw [List.splitOnP_nil, List.mem_singleton] at member
    simp [member]
  | cons d rest ih =>
    have later : ∀ piece ∈ rest.splitOnP p, ∀ c ∈ piece, p c = false ∧ c ∈ d :: rest :=
      fun piece member c inside => (ih member c inside).imp_right (List.mem_cons_of_mem d)
    rw [List.splitOnP_cons_eq_if_modifyHead] at member
    split at member
    · rcases List.mem_cons.mp member with rfl | behind
      · simp
      · exact later piece behind
    · next other =>
      obtain ⟨first, more, split⟩ := List.exists_cons_of_ne_nil (List.splitOnP_ne_nil p rest)
      rw [split] at member later
      rcases List.mem_cons.mp member with rfl | behind
      · intro c inside
        rcases List.mem_cons.mp inside with rfl | behind
        · exact ⟨by simpa using other, List.mem_cons_self⟩
        · exact later first List.mem_cons_self c behind
      · exact later piece (List.mem_cons_of_mem first behind)

theorem of_mem_words {t word : Text} (member : word ∈ t.words) :
    word ≠ [] ∧ ∀ c ∈ word, isBlank c = false ∧ c ∈ t := by
  obtain ⟨piece, nonempty⟩ := List.mem_filter.mp member
  exact ⟨by simpa using nonempty, of_mem_splitOnP piece⟩

/-! ## Occurrences -/

theorem exists_of_before? {t needle before : Text} (found : t.before? needle = some before) :
    ∃ rest, t = before ++ rest := by
  induction t generalizing before with
  | nil =>
    unfold before? at found
    split at found <;> cases found
    exact ⟨[], rfl⟩
  | cons c rest ih =>
    unfold before? at found
    split at found
    · cases found
      exact ⟨c :: rest, rfl⟩
    · obtain ⟨inner, later, rfl⟩ := Option.map_eq_some_iff.mp found
      obtain ⟨behind, split⟩ := ih later
      exact ⟨behind, by rw [split]; rfl⟩

theorem hasInfix_iff (t needle : Text) : t.hasInfix needle = true ↔ needle <:+: t := by
  unfold hasInfix
  induction t with
  | nil =>
    rw [before?, List.infix_nil]
    split
    · simp [*]
    · simp [*]
  | cons c rest ih =>
    rw [before?, List.infix_cons_iff, ← List.isPrefixOf_iff_prefix, ← ih]
    split
    · simp [*]
    · simp [*]

theorem afterLast?_eq_none {t needle : Text} (absent : ¬ needle <:+: t) : t.afterLast? needle = none := by
  induction t with
  | nil => rw [afterLast?, if_neg fun nothing => absent (List.infix_nil.mpr nothing)]
  | cons c rest ih =>
    rw [List.infix_cons_iff, not_or, ← List.isPrefixOf_iff_prefix] at absent
    rw [afterLast?, ih absent.2]
    exact if_neg absent.1

/-- What stands behind an occurrence, if no other one begins later. -/
theorem afterLast?_eq_some {t before needle after : Text} (whole : t = before ++ (needle ++ after))
    (last : ∀ front back, t = front ++ (needle ++ back) → front.length ≤ before.length) :
    t.afterLast? needle = some after := by
  induction before generalizing t with
  | nil =>
    cases t with
    | nil =>
      rw [List.nil_append] at whole
      obtain ⟨rfl, rfl⟩ := List.append_eq_nil_iff.mp whole.symm
      rfl
    | cons c rest =>
      have absent : ¬ needle <:+: rest := by
        rintro ⟨front, back, split⟩
        have later := last (c :: front) back (by rw [← split, List.append_assoc]; rfl)
        exact absurd later (Nat.not_succ_le_zero _)
      have first : needle.isPrefixOf (c :: rest) = true := by
        rw [whole]
        exact List.isPrefixOf_iff_prefix.mpr (List.prefix_append needle after)
      rw [afterLast?, afterLast?_eq_none absent]
      dsimp only
      rw [if_pos first, whole]
      exact congrArg some List.drop_left
  | cons c before ih =>
    subst whole
    have later : afterLast? (before ++ (needle ++ after)) needle = some after := by
      refine ih rfl fun front back split => ?_
      have bound := last (c :: front) back (by rw [List.cons_append, split]; rfl)
      exact Nat.le_of_succ_le_succ bound
    rw [List.cons_append, afterLast?, later]

theorem dropLead?_append (lead t : Text) : (lead ++ t).dropLead? lead = some t := by
  rw [dropLead?, if_pos (List.isPrefixOf_iff_prefix.mpr (List.prefix_append lead t)), List.drop_left]

theorem cutAt_append {p : Char → Bool} {a : Text} {c : Char} (b : Text) (before : ∀ d ∈ a, p d = false)
    (here : p c = true) : cutAt (a ++ c :: b) p = (a, b) := by
  have all : ∀ d ∈ a, (!p d) = true := fun d member => by rw [before d member]; rfl
  have stop : ∀ d ∈ (c :: b).head?, (!p d) = false := by
    intro d first
    cases first
    rw [here]
    rfl
  rw [cutAt, takeWhile_append_stop all stop, dropWhile_append_stop all stop]
  rfl

/-! ## Letter case -/

/-- Letters that upper case leaves alone are those of every text with the same letters. -/
theorem mem_of_sameLetters {t s : Text} {c : Char} (same : t.sameLetters s = true) (member : c ∈ t)
    (fixed : c.toUpper = c) : c ∈ s.upper := by
  rw [← eq_of_beq same, upper, List.mem_map]
  exact ⟨c, member, fixed⟩

theorem toUpper_of_isBlank {c : Char} (blank : isBlank c = true) : c.toUpper = c := by
  unfold Char.toUpper
  split
  · next letter =>
    have low : 97 ≤ c.toNat := letter.1
    have high : c.toNat ≤ 122 := letter.2
    simp [isBlank, blankRanges] at blank
    omega
  · rfl

/-! ## Cuts at a byte -/

theorem splitAtByte_byteSize (a b : Text) : splitAtByte a.byteSize (a ++ b) = (a, b) := by
  induction a with
  | nil =>
    cases b with
    | nil => rfl
    | cons c rest =>
      have positive := c.utf8Size_pos
      rw [List.nil_append, splitAtByte, byteSize_nil, if_neg (by omega)]
  | cons c rest ih =>
    rw [List.cons_append, splitAtByte, byteSize_cons, if_pos (by omega), Nat.add_sub_cancel_left, ih]

theorem byteSize_le_boundary {a : Text} {n : Nat} (b : Text) (behind : a.byteSize ≤ n) :
    a.byteSize ≤ (a ++ b).boundary n := by
  unfold boundary
  induction a generalizing n with
  | nil => simp
  | cons c rest ih =>
    rw [byteSize_cons] at behind
    have later := ih (n := n - c.utf8Size) (by omega)
    rw [List.cons_append, splitAtByte, if_pos (by omega), byteSize_cons, byteSize_cons]
    omega

theorem boundary_le (t : Text) (n : Nat) : t.boundary n ≤ n := byteSize_splitAtByte_le n t

theorem boundary_append_add (a b : Text) (n : Nat) :
    (a ++ b).boundary (a.byteSize + n) = a.byteSize + b.boundary n := by
  unfold boundary
  induction a with
  | nil => simp
  | cons c rest ih =>
    have behind : c.utf8Size + byteSize rest + n - c.utf8Size = byteSize rest + n := by omega
    rw [List.cons_append, byteSize_cons, splitAtByte, if_pos (by omega), behind, byteSize_cons, ih, Nat.add_assoc]

theorem boundary_append_of_lt {a : Text} (b : Text) {n : Nat} (inside : n < a.byteSize) :
    (a ++ b).boundary n = a.boundary n := by
  unfold boundary
  induction a generalizing n with
  | nil => exact absurd inside (Nat.not_lt_zero n)
  | cons c rest ih =>
    rw [byteSize_cons] at inside
    rw [List.cons_append, splitAtByte, splitAtByte]
    split
    · rw [byteSize_cons, byteSize_cons, ih (by omega)]
    · rfl

/-- The text from one byte to another. -/
def slice (t : Text) (start stop : Nat) : Text := (((t.splitAtByte start).2).splitAtByte (stop - start)).1

theorem slice_append (a b c : Text) : (a ++ (b ++ c)).slice a.byteSize (a.byteSize + b.byteSize) = b := by
  rw [slice, splitAtByte_byteSize, Nat.add_sub_cancel_left, splitAtByte_byteSize]

end DialogGrid.Text

namespace DialogGrid

/-! ## Lines -/

/-- Lines with a line feed behind each. -/
def Text.joined (lines : List Text) : Text := lines.flatMap (· ++ ['\n'])

private theorem Text.byteSize_joined_cons (line : Text) (rest : List Text) :
    byteSize (joined (line :: rest)) = line.byteSize + (1 + byteSize (joined rest)) := by
  have feed : '\n'.utf8Size = 1 := rfl
  rw [joined, List.flatMap_cons, byteSize_append, byteSize_append, byteSize_cons, byteSize_nil, feed, Nat.add_assoc]
  rfl

private theorem Text.joined_splitOn (t : Text) : joined (t.splitOn '\n') = t ++ ['\n'] := by
  induction t with
  | nil => rfl
  | cons c rest ih =>
    rw [List.splitOn_cons_eq_if_modifyHead]
    obtain ⟨first, more, split⟩ := List.exists_cons_of_ne_nil (List.splitOn_ne_nil '\n' rest)
    rw [split] at ih ⊢
    split
    · next feed =>
      rw [joined, List.flatMap_cons, ← joined, ih, eq_of_beq feed]
      rfl
    · rw [List.cons_append, ← ih]
      rfl

private theorem Line.consecutive_append (start : Nat) (front back : List Text) :
    consecutive start (front ++ back) =
      consecutive start front ++ consecutive (start + Text.byteSize (Text.joined front)) back := by
  induction front generalizing start with
  | nil => rfl
  | cons t rest ih =>
    rw [List.cons_append, consecutive, consecutive, ih, Text.byteSize_joined_cons, List.cons_append]
    simp only [Nat.add_assoc]

/-- The lines of two texts with a line feed between them. -/
theorem Text.lines_append_feed (start : Nat) (a b : Text) :
    lines (a ++ '\n' :: b) start = a.lines start ++ b.lines (start + (a.byteSize + 1)) := by
  have feed : '\n'.utf8Size = 1 := rfl
  rw [lines, List.splitOn_append_cons_self, Line.consecutive_append, joined_splitOn, byteSize_append, byteSize_cons,
    byteSize_nil, feed]
  rfl

theorem Text.map_text_lines (start : Nat) (t : Text) : (t.lines start).map Line.text = t.splitOn '\n' := by
  have general : ∀ (pieces : List Text) (start : Nat), (Line.consecutive start pieces).map Line.text = pieces := by
    intro pieces
    induction pieces with
    | nil => intro start; rfl
    | cons s rest ih => intro start; rw [Line.consecutive, List.map_cons, ih]
  exact general _ start

theorem Text.start_of_mem_head?_lines {t : Text} {start : Nat} {line : Line} (first : line ∈ (t.lines start).head?) :
    line.start = start := by
  obtain ⟨piece, more, split⟩ := List.exists_cons_of_ne_nil (List.splitOn_ne_nil '\n' t)
  rw [lines, split] at first
  cases first
  rfl

private theorem Text.start_le_of_mem_lines {t : Text} {start : Nat} {line : Line} (member : line ∈ t.lines start) :
    line.start ≤ start + t.byteSize := by
  have general : ∀ (pieces : List Text) (start : Nat), line ∈ Line.consecutive start pieces →
      line.start + 1 ≤ start + byteSize (joined pieces) := by
    intro pieces
    induction pieces with
    | nil =>
      intro start member
      cases member
    | cons s rest ih =>
      intro start member
      rw [byteSize_joined_cons]
      rcases List.mem_cons.mp member with rfl | later
      · show start + 1 ≤ _
        omega
      · have := ih _ later
        omega
  have feed : '\n'.utf8Size = 1 := rfl
  have bound := general _ _ member
  rw [joined_splitOn, byteSize_append, byteSize_cons, byteSize_nil, feed] at bound
  omega

theorem Text.lines_single (start : Nat) {line : Text} (oneLine : '\n' ∉ line) : lines line start = [⟨start, line⟩] := by
  rw [lines, List.splitOn_eq_singleton oneLine]
  rfl

theorem Text.lines_cons (start : Nat) {line : Text} (rest : Text) (oneLine : '\n' ∉ line) :
    lines (line ++ '\n' :: rest) start = ⟨start, line⟩ :: rest.lines (start + (line.byteSize + 1)) := by
  rw [lines_append_feed, lines_single start oneLine, List.singleton_append]

/-- Behind the end of a line the lines go on as if the text began there. -/
theorem Text.lines_append {front : Text} (rest : Text) (ended : ∀ c ∈ front.getLast?, c = '\n') :
    ∃ earlier, lines (front ++ rest) = earlier ++ rest.lines front.byteSize ∧
      ∀ line ∈ earlier, line.start < front.byteSize := by
  rcases List.eq_nil_or_concat front with rfl | ⟨before, c, rfl⟩
  · exact ⟨[], rfl, by simp⟩
  · rw [List.concat_eq_append] at ended ⊢
    obtain rfl := ended c (by simp)
    refine ⟨lines before 0, ?_, ?_⟩
    · rw [List.append_assoc, List.singleton_append, lines_append_feed, byteSize_append, Nat.zero_add]
      rfl
    · intro line member
      have feed : '\n'.utf8Size = 1 := rfl
      have := start_le_of_mem_lines member
      rw [byteSize_append, byteSize_cons, byteSize_nil, feed]
      omega

theorem Text.lines_add (t : Text) (ahead start : Nat) :
    t.lines (ahead + start) = (t.lines start).map fun line => { line with start := ahead + line.start } := by
  have general : ∀ (pieces : List Text) (start : Nat), Line.consecutive (ahead + start) pieces =
      (Line.consecutive start pieces).map fun line => { line with start := ahead + line.start } := by
    intro pieces
    induction pieces with
    | nil => intro start; rfl
    | cons s rest ih =>
      intro start
      rw [Line.consecutive, Line.consecutive, List.map_cons, ← ih, Nat.add_assoc ahead, Nat.add_assoc ahead]
  exact general _ start

/-- Every text is one line, or a line and its line feed before another text. -/
theorem Text.line_induction {motive : Text → Prop} (last : ∀ line, '\n' ∉ line → motive line)
    (more : ∀ line rest, '\n' ∉ line → motive rest → motive (line ++ '\n' :: rest)) (t : Text) : motive t := by
  by_cases broken : '\n' ∈ t
  · obtain ⟨line, rest, split, oneLine⟩ := List.eq_append_cons_of_mem broken
    rw [split]
    exact more line rest oneLine (line_induction last more rest)
  · exact last t broken
termination_by t.length
decreasing_by
  rw [split, List.length_append, List.length_cons]
  omega

/-- A line begins behind some first part of the text, which is ended. -/
theorem Text.exists_of_mem_lines (front : Text) {t : Text} {line : Line} (ended : ∀ c ∈ front.getLast?, c = '\n')
    (member : line ∈ t.lines front.byteSize) :
    ∃ a b, front ++ t = a ++ b ∧ line.start = a.byteSize ∧ ∀ c ∈ a.getLast?, c = '\n' := by
  induction t using line_induction generalizing front with
  | last only oneLine =>
    rw [lines_single _ oneLine, List.mem_singleton] at member
    exact ⟨front, only, rfl, by rw [member], ended⟩
  | more first rest oneLine ih =>
    rw [lines_cons _ _ oneLine] at member
    rcases List.mem_cons.mp member with rfl | later
    · exact ⟨front, _, rfl, rfl, ended⟩
    · have size : byteSize (front ++ first ++ ['\n']) = front.byteSize + (first.byteSize + 1) := by
        have feed : '\n'.utf8Size = 1 := rfl
        simp [feed]
      rw [← size] at later
      obtain ⟨a, b, split, start⟩ := ih _ (by simp) later
      exact ⟨a, b, by rw [← split]; simp, start⟩

end DialogGrid
