import DialogGrid.Proofs.Text

/-!
# Carriage returns before line feeds

`Text.crlf` puts a carriage return before every line feed of a text. Each step that reads a script
is followed on both texts: what it finds in the one is what it finds in the other, with the
carriage returns put in, and every position `n` becomes `Text.relocated t n`.
-/

namespace DialogGrid.Text

/-- The text with a carriage return before every line feed. -/
def crlf (t : Text) : Text := t.flatMap fun c => if c = '\n' then ['\r', '\n'] else [c]

theorem crlf_append (a b : Text) : crlf (a ++ b) = crlf a ++ crlf b := List.flatMap_append

theorem crlf_feed (t : Text) : crlf ('\n' :: t) = '\r' :: '\n' :: crlf t := rfl

theorem crlf_cons {c : Char} (t : Text) (other : c ≠ '\n') : crlf (c :: t) = c :: crlf t := by
  simp [crlf, other]

theorem crlf_eq_self {t : Text} (oneLine : '\n' ∉ t) : crlf t = t := by
  induction t with
  | nil => rfl
  | cons c rest ih =>
    rw [List.mem_cons, not_or] at oneLine
    rw [crlf_cons rest (Ne.symm oneLine.1), ih oneLine.2]

theorem byteSize_crlf (t : Text) : byteSize (crlf t) = t.byteSize + t.count '\n' := by
  induction t with
  | nil => rfl
  | cons c rest ih =>
    by_cases feed : c = '\n'
    · subst feed
      have sizes : ('\r'.utf8Size, '\n'.utf8Size) = (1, 1) := rfl
      obtain ⟨return', feed⟩ := Prod.mk.inj sizes
      rw [crlf_feed, List.count_cons_self]
      simp only [byteSize_cons, ih, return', feed]
      omega
    · rw [crlf_cons rest feed, List.count_cons_of_ne feed]
      simp only [byteSize_cons, ih]
      omega

/-! ## Leading characters, trimming and words -/

section
variable {p : Char → Bool} (same : p '\r' = p '\n') (t : Text)
include same

theorem takeWhile_crlf : (crlf t).takeWhile p = crlf (t.takeWhile p) := by
  induction t with
  | nil => rfl
  | cons c rest ih =>
    by_cases feed : c = '\n'
    · subst feed
      rw [crlf_feed, List.takeWhile_cons, List.takeWhile_cons, List.takeWhile_cons, same, ih]
      cases p '\n' <;> rfl
    · rw [crlf_cons rest feed, List.takeWhile_cons, List.takeWhile_cons, ih]
      cases p c with
      | false => rfl
      | true => exact (crlf_cons _ feed).symm

theorem dropWhile_crlf : (crlf t).dropWhile p = crlf (t.dropWhile p) := by
  induction t with
  | nil => rfl
  | cons c rest ih =>
    by_cases feed : c = '\n'
    · subst feed
      rw [crlf_feed, List.dropWhile_cons, List.dropWhile_cons, List.dropWhile_cons, same, ih]
      cases p '\n' <;> rfl
    · rw [crlf_cons rest feed, List.dropWhile_cons, List.dropWhile_cons, ih]
      cases p c with
      | false => exact (crlf_cons _ feed).symm
      | true => rfl

end

theorem IsBlank.crlf {t : Text} (all : IsBlank t) : IsBlank t.crlf := by
  intro c member
  obtain ⟨d, inside, piece⟩ := List.mem_flatMap.mp member
  split at piece
  · rcases List.mem_cons.mp piece with rfl | feed
    · decide
    · rw [List.mem_singleton.mp feed]
      decide
  · rw [List.mem_singleton.mp piece]
    exact all d inside

theorem trimEnd_crlf (t : Text) : (crlf t).trimEnd = crlf t.trimEnd := by
  rcases blank_or_visible t with all | ⟨front, c, blank, rfl, visible, all⟩
  · rw [trimEnd_eq_nil all, trimEnd_eq_nil all.crlf]
    rfl
  · have kept : crlf [c] = [c] := crlf_eq_self fun feed => by
      rw [← List.mem_singleton.mp feed] at visible
      cases visible
    rw [crlf_append, crlf_append, kept, trimEnd_append_blank _ all, trimEnd_append_blank _ all.crlf,
      trimEnd_append_visible _ visible, trimEnd_append_visible _ visible, crlf_append, kept]

theorem words_append_return (line : Text) : words (line ++ ['\r']) = words line := by
  have blank : isBlank '\r' = true := by decide
  simp [words, List.splitOnP_append_cons line [] blank]

theorem trim_append_return (line : Text) : trim (line ++ ['\r']) = trim line :=
  trim_pad line .nil fun c member => by
    rw [List.mem_singleton.mp member]
    decide

/-! ## Occurrences of a text that holds no line break -/

private theorem isSome_afterLast?_nil (t : Text) : (t.afterLast? []).isSome = true := by
  induction t with
  | nil => rfl
  | cons c rest ih =>
    obtain ⟨after, found⟩ := Option.isSome_iff_exists.mp ih
    simp [afterLast?, found]

section
variable {needle : Text} (unbroken : '\r' ∉ needle ∧ '\n' ∉ needle)
include unbroken

private theorem isPrefixOf_crlf (t : Text) : needle.isPrefixOf (crlf t) = needle.isPrefixOf t := by
  induction needle generalizing t with
  | nil => simp
  | cons d needle ih =>
    simp only [List.mem_cons, not_or] at unbroken
    cases t with
    | nil => rfl
    | cons c rest =>
      by_cases feed : c = '\n'
      · subst feed
        rw [crlf_feed, List.isPrefixOf_cons_cons, List.isPrefixOf_cons_cons, beq_false_of_ne (Ne.symm unbroken.1.1),
          beq_false_of_ne (Ne.symm unbroken.2.1), Bool.false_and, Bool.false_and]
      · rw [crlf_cons rest feed, List.isPrefixOf_cons_cons, List.isPrefixOf_cons_cons,
          ih ⟨unbroken.1.2, unbroken.2.2⟩]

private theorem isPrefixOf_break {c : Char} (t : Text) (nonempty : needle ≠ []) (lineBreak : c = '\r' ∨ c = '\n') :
    needle.isPrefixOf (c :: t) = false := by
  obtain ⟨d, rest, needleEq⟩ := List.exists_cons_of_ne_nil nonempty
  rw [needleEq] at unbroken ⊢
  simp only [List.mem_cons, not_or] at unbroken
  have other : (d == c) = false := by
    rcases lineBreak with rfl | rfl
    · exact beq_false_of_ne (Ne.symm unbroken.1.1)
    · exact beq_false_of_ne (Ne.symm unbroken.2.1)
  rw [List.isPrefixOf_cons_cons, other, Bool.false_and]

theorem before?_crlf (t : Text) : (crlf t).before? needle = (t.before? needle).map crlf := by
  by_cases nonempty : needle = []
  · subst nonempty
    cases t with
    | nil => rfl
    | cons c rest =>
      by_cases feed : c = '\n'
      · subst feed
        rfl
      · rw [crlf_cons rest feed]
        rfl
  · induction t with
    | nil => simp [crlf, before?, nonempty]
    | cons c rest ih =>
      by_cases feed : c = '\n'
      · subst feed
        rw [crlf_feed, before?, before?, before?, isPrefixOf_break unbroken _ nonempty (.inl rfl),
          isPrefixOf_break unbroken _ nonempty (.inr rfl), isPrefixOf_break unbroken _ nonempty (.inr rfl), ih]
        cases before? rest needle <;> rfl
      · have here := isPrefixOf_crlf unbroken (c :: rest)
        rw [crlf_cons rest feed] at here ⊢
        rw [before?, before?, here, ih]
        split
        · rfl
        · cases before? rest needle with
          | none => rfl
          | some before => simp [crlf_cons before feed]

theorem afterLast?_crlf (t : Text) : (crlf t).afterLast? needle = (t.afterLast? needle).map crlf := by
  induction t with
  | nil =>
    by_cases nonempty : needle = []
    · subst nonempty
      rfl
    · simp [crlf, afterLast?, nonempty]
  | cons c rest ih =>
    by_cases feed : c = '\n'
    · subst feed
      rw [crlf_feed, afterLast?, afterLast?, afterLast?, ih]
      cases later : afterLast? rest needle with
      | some after => rfl
      | none =>
        have nonempty : needle ≠ [] := by
          rintro rfl
          have found := isSome_afterLast?_nil rest
          rw [later] at found
          cases found
        simp only [Option.map_none, isPrefixOf_break unbroken _ nonempty (.inl rfl),
          isPrefixOf_break unbroken _ nonempty (.inr rfl)]
        rfl
    · have here := isPrefixOf_crlf unbroken (c :: rest)
      rw [crlf_cons rest feed] at here ⊢
      rw [afterLast?, afterLast?, here, ih]
      cases afterLast? rest needle with
      | some after => rfl
      | none =>
        dsimp only [Option.map_none]
        split
        · next occurs =>
          obtain ⟨after, whole⟩ := List.isPrefixOf_iff_prefix.mp occurs
          have both : c :: crlf rest = needle ++ crlf after := by
            rw [← crlf_cons rest feed, ← whole, crlf_append, crlf_eq_self unbroken.2]
          rw [both, ← whole]
          simp
        · rfl

end

theorem isPrefixOf_append_return {needle : Text} (unbroken : '\r' ∉ needle) (line : Text) :
    needle.isPrefixOf (line ++ ['\r']) = needle.isPrefixOf line := by
  induction needle generalizing line with
  | nil => rw [List.isPrefixOf_nil_left, List.isPrefixOf_nil_left]
  | cons d needle ih =>
    rw [List.mem_cons, not_or] at unbroken
    cases line with
    | nil => rw [List.nil_append, List.isPrefixOf_cons_cons, beq_false_of_ne (Ne.symm unbroken.1)]; rfl
    | cons c rest => rw [List.cons_append, List.isPrefixOf_cons_cons, List.isPrefixOf_cons_cons, ih unbroken.2]

theorem hasInfix_append_return {needle : Text} (unbroken : '\r' ∉ needle) (line : Text) :
    hasInfix (line ++ ['\r']) needle = hasInfix line needle := by
  unfold hasInfix
  induction line with
  | nil =>
    cases needle with
    | nil => rfl
    | cons d needle =>
      rw [List.mem_cons, not_or] at unbroken
      simp [before?, List.isPrefixOf, Ne.symm unbroken.1]
  | cons c rest ih =>
    have here := isPrefixOf_append_return unbroken (c :: rest)
    rw [List.cons_append] at here ⊢
    rw [before?, before?, here]
    split
    · rfl
    · rw [Option.isSome_map, Option.isSome_map, ih]

/-! ## Positions -/

/-- Where a position of a text lies once the carriage returns are put in: one byte further for each
line feed before it. -/
def relocated (t : Text) (n : Nat) : Nat := n + (t.splitAtByte n).1.count '\n'

theorem relocated_byteSize (a b : Text) : relocated (a ++ b) a.byteSize = byteSize (crlf a) := by
  rw [relocated, splitAtByte_byteSize, byteSize_crlf]

private theorem splitAtByte_le {n m : Nat} (t : Text) (before : n ≤ m) :
    (t.splitAtByte n).1 <+: (t.splitAtByte m).1 := by
  induction t generalizing n m with
  | nil => exact List.prefix_rfl
  | cons c rest ih =>
    by_cases fits : c.utf8Size ≤ n
    · rw [splitAtByte, splitAtByte, if_pos fits, if_pos (Nat.le_trans fits before), List.prefix_cons_inj]
      exact ih (Nat.sub_le_sub_right before _)
    · rw [splitAtByte, if_neg fits]
      exact List.nil_prefix

private theorem relocated_lt (t : Text) {n m : Nat} (before : n < m) : t.relocated n < t.relocated m := by
  have feeds := (splitAtByte_le t (Nat.le_of_lt before)).sublist.count_le '\n'
  unfold relocated
  omega

theorem relocated_le_iff (t : Text) {n m : Nat} : t.relocated n ≤ t.relocated m ↔ n ≤ m := by
  constructor
  · intro ordered
    exact Nat.le_of_not_lt fun after => Nat.not_le_of_lt (t.relocated_lt after) ordered
  · intro ordered
    rcases Nat.lt_or_eq_of_le ordered with before | rfl
    · exact Nat.le_of_lt (t.relocated_lt before)
    · exact Nat.le_refl _

/-! ## Lines -/

/-- Each line ends with a carriage return once these are put in, except for the last one, and begins
where its beginning is relocated to. What does not notice a carriage return at the end of a line finds
the same in all of them. -/
theorem map_lines_crlf {α : Type} {f : Text → α} (same : ∀ line, f (line ++ ['\r']) = f line) (front t : Text) :
    (lines (crlf t) (byteSize (crlf front))).map (fun line => (line.start, f line.text)) =
      (lines t front.byteSize).map fun line => (relocated (front ++ t) line.start, f line.text) := by
  -- Line by line; `front` is all before the next line, and positions are counted from its beginning.
  induction t using line_induction generalizing front with
  | last line oneLine =>
    rw [crlf_eq_self oneLine, lines_single _ oneLine, lines_single _ oneLine]
    simp [relocated_byteSize]
  | more line rest oneLine ih =>
    have broken : crlf (line ++ '\n' :: rest) = (line ++ ['\r']) ++ '\n' :: crlf rest := by
      rw [crlf_append, crlf_feed, crlf_eq_self oneLine]
      simp
    have oneLine' : '\n' ∉ line ++ ['\r'] := by simp [oneLine]
    have sizes : ('\r'.utf8Size, '\n'.utf8Size) = (1, 1) := rfl
    obtain ⟨return', feed⟩ := Prod.mk.inj sizes
    have size : byteSize (front ++ line ++ ['\n']) = front.byteSize + (line.byteSize + 1) := by
      simp [feed]
    have size' : byteSize (crlf (front ++ line ++ ['\n'])) =
        byteSize (crlf front) + (byteSize (line ++ ['\r']) + 1) := by
      rw [crlf_append, crlf_append, crlf_eq_self oneLine, crlf_feed]
      simp [crlf, return', feed, Nat.add_assoc]
    have later := ih (front ++ line ++ ['\n'])
    rw [size, size', List.append_assoc, List.append_assoc, List.singleton_append] at later
    rw [broken, lines_cons _ _ oneLine', lines_cons _ _ oneLine, List.map_cons, List.map_cons, later, same,
      relocated_byteSize]

theorem map_splitOn_crlf {α : Type} {f : Text → α} (same : ∀ line, f (line ++ ['\r']) = f line) (t : Text) :
    ((crlf t).splitOn '\n').map f = (t.splitOn '\n').map f := by
  have lines := congrArg (List.map Prod.snd) (map_lines_crlf same [] t)
  rw [List.map_map, List.map_map] at lines
  rw [← map_text_lines 0, ← map_text_lines 0, List.map_map, List.map_map]
  exact lines

end DialogGrid.Text
