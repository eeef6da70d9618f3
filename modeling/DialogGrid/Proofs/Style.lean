import DialogGrid.Proofs.Text
import DialogGrid.Style
import Mathlib.Data.List.Infix

/-!
# Styles as texts

A flag in normal form is read as it is, and blanks around it take no part. So a style is read back
from the text of its flags (`Style.parse_text`).
-/

namespace DialogGrid.Style

/-- A flag in normal form: no bar, and no blanks but single spaces inside. -/
structure NormalFlag (flag : Text) : Prop where
  ne_nil : flag ≠ []
  noBar : '|' ∉ flag
  blanks : ∀ c ∈ flag, isBlank c = true → c = ' '
  first : flag.head? ≠ some ' '
  last : flag.getLast? ≠ some ' '
  single : ¬ [' ', ' '] <:+: flag

instance (flag : Text) : Decidable (NormalFlag flag) :=
  -- Named, for a quantifier over all characters could be decided by trying every one of them.
  letI := List.decidableBAll (fun c => isBlank c = true → c = ' ') flag
  decidable_of_iff
    (flag ≠ [] ∧ '|' ∉ flag ∧ (∀ c ∈ flag, isBlank c = true → c = ' ') ∧ flag.head? ≠ some ' ' ∧
      flag.getLast? ≠ some ' ' ∧ ¬ [' ', ' '] <:+: flag)
    ⟨fun ⟨a, b, c, d, e, f⟩ => ⟨a, b, c, d, e, f⟩, fun ⟨a, b, c, d, e, f⟩ => ⟨a, b, c, d, e, f⟩⟩

private theorem NormalFlag.behind_space {word rest : Text} (normal : NormalFlag (word ++ ' ' :: rest)) :
    NormalFlag rest := by
  have nonempty : rest ≠ [] := by
    rintro rfl
    exact normal.last (by simp)
  exact {
    ne_nil := nonempty
    noBar := fun bar => normal.noBar (by simp [bar])
    blanks := fun c member => normal.blanks c (by simp [member])
    first := by
      intro space
      obtain ⟨behind, rfl⟩ := List.head?_eq_some_iff.mp space
      exact normal.single ⟨word, behind, by simp⟩
    last := by
      intro space
      refine normal.last ?_
      rw [List.getLast?_append, List.getLast?_cons_of_ne_nil nonempty, space]
      rfl
    single := fun ⟨front, back, split⟩ => normal.single ⟨word ++ ' ' :: front, back, by simp [← split]⟩ }

theorem normalFlag_eq_self {flag : Text} (normal : NormalFlag flag) : normalFlag flag = flag := by
  by_cases space : ' ' ∈ flag
  · obtain ⟨word, rest, split, single⟩ := List.eq_append_cons_of_mem space
    rw [split] at normal ⊢
    have nonempty : word ≠ [] := by
      rintro rfl
      exact normal.first rfl
    have visible : ∀ c ∈ word, isBlank c = false := by
      intro c member
      by_contra blank
      obtain rfl := normal.blanks c (by simp [member]) (by simpa using blank)
      exact single member
    have later := normalFlag_eq_self normal.behind_space
    have more : Text.words rest ≠ [] := by
      intro nothing
      rw [normalFlag, nothing] at later
      exact normal.behind_space.ne_nil later.symm
    rw [normalFlag, Text.words_cons rest nonempty visible (by decide), List.intercalate_cons_of_ne_nil more,
      ← normalFlag, later, List.append_assoc, List.singleton_append]
  · have visible : ∀ c ∈ flag, isBlank c = false := by
      intro c member
      by_contra blank
      obtain rfl := normal.blanks c member (by simpa using blank)
      exact space member
    rw [normalFlag, Text.words_eq_singleton normal.ne_nil visible, List.intercalate_singleton]
termination_by flag.length
decreasing_by
  rw [split, List.length_append, List.length_cons]
  omega

theorem normalFlag_pad {before after : Text} (flag : Text) (front : before.IsBlank) (back : after.IsBlank) :
    normalFlag (before ++ flag ++ after) = normalFlag flag := by
  rw [normalFlag, Text.words_pad flag front back, normalFlag]

/-- A style is read back from its text, if its flags are in normal form. -/
theorem parse_text {s : Style} (normal : ∀ flag ∈ s.flags, NormalFlag flag) : parse s.text = s := by
  obtain ⟨flags⟩ := s
  have bar : lit " | " = [' ', '|', ' '] := rfl
  have space : Text.IsBlank [' '] := by
    intro c member
    rw [List.mem_singleton.mp member]
    decide
  -- Each flag but the first has a space before it, so the first one is given a blank text before it.
  have general : ∀ (flags : List Text) (before : Text), before.IsBlank → '|' ∉ before →
      flags ≠ [] → (∀ flag ∈ flags, NormalFlag flag) →
        ((before ++ (lit " | ").intercalate flags).splitOn '|').map normalFlag = flags := by
    intro flags
    induction flags with
    | nil =>
      intro before _ _ nonempty
      exact absurd rfl nonempty
    | cons flag rest ih =>
      intro before blank noBar _ normal
      have first := normal flag List.mem_cons_self
      cases rest with
      | nil =>
        have single : '|' ∉ before ++ flag := by simp [noBar, first.noBar]
        have padded := normalFlag_pad flag blank .nil
        rw [List.append_nil] at padded
        rw [List.intercalate_singleton, List.splitOn_eq_singleton single, List.map_cons, padded,
          normalFlag_eq_self first]
        rfl
      | cons next more =>
        have single : '|' ∉ before ++ flag ++ [' '] := by simp [noBar, first.noBar]
        have split : before ++ (lit " | ").intercalate (flag :: next :: more) =
            (before ++ flag ++ [' ']) ++ '|' :: ([' '] ++ (lit " | ").intercalate (next :: more)) := by
          rw [List.intercalate_cons_cons, bar]
          simp
        rw [split, List.splitOn_append_cons_self_of_not_mem single, List.map_cons, normalFlag_pad flag blank space,
          normalFlag_eq_self first, ih [' '] space (by decide) (by simp)
            fun f member => normal f (List.mem_cons_of_mem flag member)]
  cases flags with
  | nil => rfl
  | cons flag rest =>
    have read := general (flag :: rest) [] .nil (by simp) (by simp) normal
    have kept : (flag :: rest).filter (· ≠ []) = flag :: rest :=
      List.filter_eq_self.mpr fun f member => by simpa using (normal f member).ne_nil
    rw [List.nil_append] at read
    rw [parse, text, read, kept]

/-! ## The characters of a text -/

theorem mem_text {s : Style} {c : Char} (member : c ∈ s.text) :
    (∃ flag ∈ s.flags, c ∈ flag) ∨ c = ' ' ∨ c = '|' := by
  obtain ⟨flags⟩ := s
  have bar : lit " | " = [' ', '|', ' '] := rfl
  induction flags with
  | nil => cases member
  | cons flag rest ih =>
    cases rest with
    | nil => exact .inl ⟨flag, List.mem_cons_self, by simpa [text] using member⟩
    | cons next more =>
      rw [text, List.intercalate_cons_cons, bar, List.mem_append, List.mem_append] at member
      rcases member with (early | between) | late
      · exact .inl ⟨flag, List.mem_cons_self, early⟩
      · right
        simpa [or_comm] using between
      · exact (ih late).imp_left fun ⟨f, inside, here⟩ => ⟨f, List.mem_cons_of_mem flag inside, here⟩

theorem text_ne_nil {s : Style} (something : s.flags ≠ []) (nonempty : ∀ flag ∈ s.flags, flag ≠ []) :
    s.text ≠ [] := by
  obtain ⟨flags⟩ := s
  obtain ⟨flag, rest, rfl⟩ := List.exists_cons_of_ne_nil something
  have first := nonempty flag List.mem_cons_self
  cases rest <;> simp [text, List.intercalate_cons_cons, first]

private theorem ends_text {s : Style} (nonempty : ∀ flag ∈ s.flags, flag ≠ []) :
    (∀ c ∈ s.text.head?, ∃ flag ∈ s.flags, flag.head? = some c) ∧
      ∀ c ∈ s.text.getLast?, ∃ flag ∈ s.flags, flag.getLast? = some c := by
  obtain ⟨flags⟩ := s
  induction flags with
  | nil => simp [text]
  | cons flag rest ih =>
    have something := nonempty flag List.mem_cons_self
    cases rest with
    | nil => simp [text]
    | cons next more =>
      obtain ⟨-, last⟩ := ih fun f member => nonempty f (List.mem_cons_of_mem flag member)
      have behind : text ⟨next :: more⟩ ≠ [] :=
        text_ne_nil (by simp) fun f member => nonempty f (List.mem_cons_of_mem flag member)
      have whole : text ⟨flag :: next :: more⟩ = flag ++ (lit " | " ++ text ⟨next :: more⟩) := by
        rw [text, List.intercalate_cons_cons, List.append_assoc, text]
      refine ⟨?_, ?_⟩
      · intro c first
        rw [whole, List.head?_append, List.head?_eq_some_head something] at first
        exact ⟨flag, List.mem_cons_self, (List.head?_eq_some_head something).trans first⟩
      · intro c final
        rw [whole, List.getLast?_append, List.getLast?_append, List.getLast?_eq_some_getLast behind] at final
        obtain ⟨f, inside, here⟩ := last c (by rw [List.getLast?_eq_some_getLast behind]; exact final)
        exact ⟨f, List.mem_cons_of_mem flag inside, here⟩

theorem trim_text {s : Style} (normal : ∀ flag ∈ s.flags, NormalFlag flag) : s.text.trim = s.text := by
  obtain ⟨first, last⟩ := ends_text fun flag member => (normal flag member).ne_nil
  apply Text.trim_eq_self
  · intro c head
    obtain ⟨flag, inside, here⟩ := first c head
    by_contra blank
    obtain rfl := (normal flag inside).blanks c (List.mem_of_mem_head? here) (by simpa using blank)
    exact (normal flag inside).first here
  · intro c final
    obtain ⟨flag, inside, here⟩ := last c final
    by_contra blank
    obtain rfl := (normal flag inside).blanks c (List.mem_of_mem_getLast? here) (by simpa using blank)
    exact (normal flag inside).last here

end DialogGrid.Style
