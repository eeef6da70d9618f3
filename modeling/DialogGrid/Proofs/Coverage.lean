import DialogGrid.Proofs.Positions
import Mathlib.Data.List.Forall2

/-!
# What reading takes up

Directives are read one by one from any byte of a script on, until none is found. Every call that gives a directive
moves over it, and only blanks stand between two directives, so that each visible character that has been passed
belongs to exactly one of them (`Cursor.reading_covers`). Reading ends at the end of the script or before a blank that
is not skipped before a name, and then it stays there (`Cursor.reading_ends`).
-/

namespace DialogGrid

/-! ## What stands at a byte -/

namespace Text

private theorem eq_nil_of_byteSize {t : Text} (size : t.byteSize = 0) : t = [] := by
  cases t with
  | nil => rfl
  | cons c rest =>
    have := c.utf8Size_pos
    rw [byteSize_cons] at size
    omega

/-- Of two ways to divide a text, the one that divides it later divides what is behind the other one. -/
theorem exists_between {a b c d : Text} (same : a ++ b = c ++ d) (le : a.byteSize ≤ c.byteSize) :
    ∃ m, c = a ++ m ∧ b = m ++ d := by
  rcases List.append_eq_append_iff.mp same with ⟨m, rfl, rfl⟩ | ⟨m, rfl, rfl⟩
  · exact ⟨m, rfl, rfl⟩
  · have nothing : m = [] := eq_nil_of_byteSize (by rw [byteSize_append] at le; omega)
    exact ⟨[], by simp [nothing], by simp [nothing]⟩

/-- Some text stands in another one from a byte on. -/
def Holds (t : Text) (n : Nat) (s : Text) : Prop := ∃ front back, t = front ++ (s ++ back) ∧ n = front.byteSize

/-- Only blanks stand from one byte to another. -/
def BlankBetween (t : Text) (start stop : Nat) : Prop :=
  ∃ blank, t.Holds start blank ∧ IsBlank blank ∧ stop = start + blank.byteSize

theorem Holds.append {t a b : Text} {n : Nat} (first : t.Holds n a) (second : t.Holds (n + a.byteSize) b) :
    t.Holds n (a ++ b) := by
  obtain ⟨front, back, rfl, rfl⟩ := first
  obtain ⟨front', back', same, offset⟩ := second
  rw [← List.append_assoc] at same
  have size := byteSize_append front a
  obtain ⟨m, rfl, rfl⟩ := exists_between same (by omega)
  have nothing : m = [] := eq_nil_of_byteSize (by rw [byteSize_append] at offset; omega)
  exact ⟨front, back', by simp [nothing], rfl⟩

theorem Holds.mem {t s : Text} {n i : Nat} {c : Char} (holds : t.Holds n s) (here : t.Holds i [c]) (low : n ≤ i)
    (high : i < n + s.byteSize) : c ∈ s := by
  obtain ⟨front, back, rfl, rfl⟩ := holds
  obtain ⟨front', back', same, rfl⟩ := here
  obtain ⟨m, rfl, inner⟩ := exists_between same low
  rw [byteSize_append] at high
  obtain ⟨k, rfl, behind⟩ := exists_between inner.symm (by omega)
  cases k with
  | nil => simp at high
  | cons d rest =>
    obtain ⟨rfl, -⟩ := List.cons.inj behind
    simp

private theorem Holds.add_utf8Size_le {t : Text} {i n : Nat} {c : Char} (here : t.Holds i [c]) (bound : t.IsBoundary n)
    (before : i < n) : i + c.utf8Size ≤ n := by
  obtain ⟨front, back, rfl, rfl⟩ := here
  obtain ⟨a, b, same, rfl⟩ := isBoundary_iff.mp bound
  obtain ⟨m, rfl, behind⟩ := exists_between same (Nat.le_of_lt before)
  rw [byteSize_append] at before ⊢
  cases m with
  | nil => simp at before
  | cons d rest =>
    obtain ⟨rfl, -⟩ := List.cons.inj behind
    rw [byteSize_cons]
    omega

theorem BlankBetween.trans {t : Text} {a b c : Nat} (first : t.BlankBetween a b) (second : t.BlankBetween b c) :
    t.BlankBetween a c := by
  obtain ⟨x, holds, blank, rfl⟩ := first
  obtain ⟨y, holds', blank', rfl⟩ := second
  refine ⟨x ++ y, holds.append holds', fun d member => ?_, by rw [byteSize_append, Nat.add_assoc]⟩
  rcases List.mem_append.mp member with early | late
  · exact blank d early
  · exact blank' d late

theorem BlankBetween.isBlank {t : Text} {a b i : Nat} {c : Char} (blank : t.BlankBetween a b) (here : t.Holds i [c])
    (low : a ≤ i) (high : i < b) : isBlank c = true := by
  obtain ⟨x, holds, all, rfl⟩ := blank
  exact all c (holds.mem here low high)

end Text

/-! ## Reading on -/

namespace Cursor

/-- The position behind some calls of `next`. -/
def after (c : Cursor) (n : Nat) : Cursor := (fun c => c.next.2)^[n] c

/-- The position at which reading stays: behind all directives and a call that gives none. -/
def final (c : Cursor) : Cursor := c.after (c.directives.length + 1)

variable {source : Text} {c later : Cursor} {d : Directive}

private theorem after_succ (c : Cursor) (n : Nat) : c.after (n + 1) = c.next.2.after n := rfl

theorem after_succ' (c : Cursor) (n : Nat) : c.after (n + 1) = (c.after n).next.2 := Function.iterate_succ_apply' ..

private theorem after_of_next {found : Option Directive} (next : c.next = (found, later)) (n : Nat) :
    c.after (n + 1) = later.after n := by
  rw [after_succ, next]

theorem final_of_next (next : c.next = (some d, later)) : c.final = later.final := by
  rw [final, directives_of_next next, List.length_cons, after_of_next next, final]

theorem final_of_none (next : c.next = (none, later)) : c.final = later := by
  rw [final, directives_of_none next, List.length_nil, after_of_next next]
  rfl

/-! ### Where reading ends -/

private theorem isGap_of_mem_head?_skipGap {b : Char} (first : b ∈ c.skipGap.rest.head?) : isGap b = false := by
  have stop := List.head?_dropWhile_not isGap c.rest
  have behind : (c.rest.dropWhile isGap).head? = some b := first
  rw [behind] at stop
  simpa using stop

private theorem skipGap_skipGap (c : Cursor) : c.skipGap.skipGap = c.skipGap := by
  have none : c.skipGap.rest.takeWhile isGap = [] :=
    Text.takeWhile_append_stop (a := []) (by simp) fun b first => isGap_of_mem_head?_skipGap first
  have all : c.skipGap.rest.dropWhile isGap = c.skipGap.rest :=
    Text.dropWhile_append_stop (a := []) (by simp) fun b first => isGap_of_mem_head?_skipGap first
  rw [skipGap, none, all]
  rfl

theorem read?_eq_none_iff : c.read? = none ↔ ∀ b ∈ c.rest.head?, isBlank b = true := by
  have name : c.read? = none ↔ c.rest.takeWhile (!isBlank ·) = [] := by
    unfold read?
    dsimp only
    split
    · simp [*]
    · split
      · simp [*]
      · simp [*]
  rw [name]
  cases c.rest with
  | nil => simp
  | cons b behind => simp [List.takeWhile_cons]

private theorem next_fst_eq_none_iff : c.next.1 = none ↔ ∀ b ∈ c.skipGap.rest.head?, isBlank b = true := by
  rw [← read?_eq_none_iff, next]
  split
  · simp [*]
  · simp [*]

theorem next_of_none (next : c.next = (none, later)) : later = c.skipGap ∧ later.next = (none, later) := by
  have ended := next_fst_eq_none_iff.mp (congrArg Prod.fst next)
  have skipped : later = c.skipGap := by
    rw [Cursor.next, read?_eq_none_iff.mpr ended] at next
    exact (Prod.mk.inj next).2.symm
  refine ⟨skipped, ?_⟩
  rw [skipped, Cursor.next, skipGap_skipGap, read?_eq_none_iff.mpr ended]

/-! ### Single calls -/

/-- What a call of `next` does that gives a directive: it moves forward, over the whole directive, which begins with
its name. -/
structure Advances (source : Text) (c : Cursor) (d : Directive) (later : Cursor) : Prop where
  next : c.next = (some d, later)
  before : c.offset ≤ d.span.start
  nonempty : d.span.start < d.span.stop
  behind : d.span.stop ≤ later.offset
  forward : c.offset < later.offset
  start : source.IsBoundary d.span.start
  stop : source.IsBoundary d.span.stop
  name : source.Holds d.span.start d.name

private theorem Stands.advances (stands : c.Stands source) (next : c.next = (some d, later)) :
    c.Advances source d later := by
  obtain ⟨located, before, behind, -⟩ := stands.located_next next
  obtain ⟨gap, shown, blank, takes⟩ := exists_takes next
  obtain ⟨front, whole, offset⟩ := takes.exists_split stands
  have nonempty := located.nonempty
  refine ⟨next, before, nonempty, behind, by omega, located.span.start, located.span.stop,
    front ++ gap, shown ++ (blank ++ later.rest), ?_, ?_⟩
  · rw [whole]
    simp
  · rw [takes.span, Text.byteSize_append front gap, ← offset]
    rfl

private theorem Stands.blankBetween (stands : c.Stands source) (next : c.next = (some d, later)) :
    source.BlankBetween c.offset d.span.start ∧ source.BlankBetween d.span.stop later.offset := by
  obtain ⟨gap, shown, blank, takes⟩ := exists_takes next
  obtain ⟨front, whole, offset⟩ := takes.exists_split stands
  have stop : d.span.stop = c.offset + gap.byteSize + Text.byteSize (d.name ++ shown) := by
    rw [takes.span, Span.ofBounds]
    simp
  refine ⟨⟨gap, ⟨front, _, whole, offset⟩, fun b member => isBlank_of_isGap (takes.parts.gaps b member), ?_⟩,
    ⟨blank, ⟨front ++ gap ++ (d.name ++ shown), later.rest, ?_, ?_⟩, takes.blanks, ?_⟩⟩
  · rw [takes.span]
    rfl
  · rw [whole]
    simp
  · rw [stop, offset]
    simp [Nat.add_assoc]
  · rw [stop, takes.behind]

private theorem Stands.blankBetween_none (stands : c.Stands source) (next : c.next = (none, later)) :
    source.BlankBetween c.offset later.offset := by
  obtain ⟨front, whole, offset⟩ := stands
  obtain ⟨rfl, -⟩ := next_of_none next
  refine ⟨c.rest.takeWhile isGap, ⟨front, c.rest.dropWhile isGap, ?_, offset⟩, fun b member => ?_, rfl⟩
  · rw [List.takeWhile_append_dropWhile, whole]
  · exact isBlank_of_isGap (List.all_eq_true.mp List.all_takeWhile b member)

/-! ### All calls -/

theorem Stands.stands_after (stands : c.Stands source) (n : Nat) : (c.after n).Stands source := stands.stands_iterate n

private theorem Stands.of_next {found : Option Directive} (stands : c.Stands source) (next : c.next = (found, later)) :
    later.Stands source := by
  have behind := stands.stands_next
  rwa [next] at behind

theorem next_after (c : Cursor) (n : Nat) (inside : n < c.directives.length) :
    (c.after n).next = (some c.directives[n], c.after (n + 1)) := by
  induction n generalizing c with
  | zero =>
    obtain ⟨d, rest, read⟩ := List.exists_cons_of_length_pos inside
    obtain ⟨later, next, -⟩ := exists_of_directives read
    simp only [read, List.getElem_cons_zero]
    rw [after_of_next next]
    exact next
  | succ n ih =>
    obtain ⟨d, rest, read⟩ := List.exists_cons_of_length_pos (Nat.zero_lt_of_lt inside)
    obtain ⟨later, next, behind⟩ := exists_of_directives read
    simp only [read, List.length_cons, Nat.add_lt_add_iff_right] at inside
    have further := ih later (by rw [behind]; exact inside)
    simp only [read, List.getElem_cons_succ]
    rw [after_of_next next, after_of_next next]
    simpa only [behind] using further

/-- Behind the last directive every call gives none, and all but the first stay where they are. -/
theorem next_after_of_le (c : Cursor) (n : Nat) (behind : c.directives.length ≤ n) :
    (c.after n).next.1 = none ∧ c.after (n + 1) = c.final := by
  induction n generalizing c with
  | zero =>
    have nothing : c.directives = [] := List.eq_nil_of_length_eq_zero (Nat.le_zero.mp behind)
    cases next : c.next with
    | mk found later =>
      cases found with
      | some d =>
        rw [directives_of_next next] at nothing
        cases nothing
      | none =>
        refine ⟨congrArg Prod.fst next, ?_⟩
        rw [final_of_none next, after_of_next next]
        rfl
  | succ n ih =>
    cases next : c.next with
    | mk found later =>
      rw [after_of_next next, after_of_next next]
      cases found with
      | some d =>
        rw [final_of_next next]
        refine ih later ?_
        rw [directives_of_next next, List.length_cons] at behind
        omega
      | none =>
        obtain ⟨-, stays⟩ := next_of_none next
        have here := ih later (by rw [directives_of_none stays]; exact Nat.zero_le n)
        rw [final_of_none stays] at here
        rw [final_of_none next]
        exact here

/-- Between the spans of the directives that some calls give, before the first one and behind the last one stand
blanks. -/
theorem Stands.blankBetween_after (stands : c.Stands source) {p : Nat} (blank : source.BlankBetween p c.offset) (n : Nat) :
    List.Forall₂ source.BlankBetween (p :: (c.directives.take n).map (·.span.stop))
      ((c.directives.take n).map (·.span.start) ++ [(c.after n).offset]) := by
  induction n generalizing c p with
  | zero => simpa [after] using blank
  | succ n ih =>
    cases next : c.next with
    | mk found later =>
      have behind := stands.of_next next
      rw [after_of_next next]
      cases found with
      | some d =>
        obtain ⟨before, following⟩ := stands.blankBetween next
        rw [directives_of_next next]
        exact .cons (blank.trans before) (ih behind following)
      | none =>
        have stays := ih behind (blank.trans (stands.blankBetween_none next))
        rw [directives_of_none (next_of_none next).2, List.take_nil] at stays
        rw [directives_of_none next, List.take_nil]
        exact stays

/-- A visible character that some calls have passed belongs to a directive that they gave. -/
theorem Stands.exists_directive (stands : c.Stands source) (n : Nat) {i : Nat} {b : Char} (here : source.Holds i [b])
    (visible : isBlank b = false) (low : c.offset ≤ i) (high : i < (c.after n).offset) :
    ∃ d ∈ c.directives.take n, d.span.start ≤ i ∧ i + b.utf8Size ≤ d.span.stop := by
  induction n generalizing c with
  | zero => exact absurd high (Nat.not_lt.mpr low)
  | succ n ih =>
    cases next : c.next with
    | mk found later =>
      have behind := stands.of_next next
      rw [after_of_next next] at high
      cases found with
      | some d =>
        obtain ⟨before, following⟩ := stands.blankBetween next
        have advances := stands.advances next
        rw [directives_of_next next, List.take_succ_cons]
        have start : d.span.start ≤ i := by
          by_contra outside
          rw [before.isBlank here low (by omega)] at visible
          cases visible
        by_cases inside : i < d.span.stop
        · exact ⟨d, List.mem_cons_self, start, here.add_utf8Size_le advances.stop inside⟩
        · have later' : later.offset ≤ i := by
            by_contra outside
            rw [following.isBlank here (by omega) (by omega)] at visible
            cases visible
          obtain ⟨e, member, covers⟩ := ih behind later' high
          exact ⟨e, List.mem_cons_of_mem d member, covers⟩
      | none =>
        have later' : later.offset ≤ i := by
          by_contra outside
          rw [(stands.blankBetween_none next).isBlank here low (by omega)] at visible
          cases visible
        have nothing := ih behind later' high
        rw [directives_of_none (next_of_none next).2] at nothing
        simp at nothing

/-- No byte belongs to two of the directives that are read. -/
theorem Stands.eq_of_covers (stands : c.Stands source) {d e : Directive} {i : Nat} (first : d ∈ c.directives)
    (second : e ∈ c.directives) (inFirst : d.span.start ≤ i ∧ i < d.span.stop)
    (inSecond : e.span.start ≤ i ∧ i < e.span.stop) : d = e := by
  obtain ⟨-, ordered⟩ := stands.located_directives
  obtain ⟨m, inside, rfl⟩ := List.getElem_of_mem first
  obtain ⟨n, inside', rfl⟩ := List.getElem_of_mem second
  rcases Nat.lt_trichotomy m n with early | rfl | late
  · have := (List.pairwise_iff_getElem.mp ordered m n inside inside' early).2
    omega
  · rfl
  · have := (List.pairwise_iff_getElem.mp ordered n m inside' inside late).2
    omega

/-- Reading from any byte of a script on gives finitely many directives and then stays where it is. Each call that
gives a directive moves forward over it. Whatever the number of calls, only blanks stand before, between and behind
the spans of the directives that they gave, and each visible character that they passed belongs to exactly one of
these. -/
theorem reading_covers (source : Text) (offset : Nat) :
    let start := ofOffset source offset
    let ds := start.directives
    start.offset = source.boundary offset ∧
      (∀ n, source.IsBoundary (start.after n).offset) ∧
      (∀ n (inside : n < ds.length), (start.after n).Advances source ds[n] (start.after (n + 1))) ∧
      (∀ n, ds.length ≤ n → (start.after n).next.1 = none ∧ start.after (n + 1) = start.final) ∧
      ∀ n, List.Forall₂ source.BlankBetween (start.offset :: (ds.take n).map (·.span.stop))
            ((ds.take n).map (·.span.start) ++ [(start.after n).offset]) ∧
          ∀ i b, source.Holds i [b] → isBlank b = false → start.offset ≤ i → i < (start.after n).offset →
            ∃! d, d ∈ ds.take n ∧ d.span.start ≤ i ∧ i + b.utf8Size ≤ d.span.stop := by
  intro start ds
  have stands : start.Stands source := stands_ofByte source offset
  have empty : source.BlankBetween start.offset start.offset := by
    obtain ⟨front, whole, here⟩ := stands
    exact ⟨[], ⟨front, start.rest, by simpa using whole, here⟩, Text.IsBlank.nil, rfl⟩
  refine ⟨rfl, fun n => ?_, fun n inside => ?_, fun n behind => ?_, fun n => ⟨?_, fun i b here visible low high => ?_⟩⟩
  · obtain ⟨front, whole, here⟩ := stands.stands_after n
    exact Text.isBoundary_iff.mpr ⟨front, _, whole, here⟩
  · exact (stands.stands_after n).advances (next_after start n inside)
  · exact next_after_of_le start n behind
  · exact stands.blankBetween_after empty n
  · obtain ⟨d, member, covers⟩ := stands.exists_directive n here visible low high
    have size := b.utf8Size_pos
    refine ⟨d, ⟨member, covers⟩, fun e other => ?_⟩
    exact stands.eq_of_covers (List.mem_of_mem_take other.1) (List.mem_of_mem_take member)
      ⟨other.2.1, by omega⟩ ⟨covers.1, by omega⟩

/-- Reading from inside a character of two bytes on, over separators in quotes and behind a continued line, up to a
form feed. -/
theorem reading_covers_umlauts :
    let source := lit "ÄÖ\n B \"ü, é\",\r\n\t1\u00a0\r\n\x0cX"
    let start := ofOffset source 3
    let second : Directive := ⟨['B'], [lit "\"ü, é\"", ['1']], .ofBounds 6 21⟩
    start.offset = 2 ∧ start.directives = [⟨['Ö'], [], .ofBounds 2 4⟩, second] ∧
      (start.after 1).Advances source second (start.after 2) ∧
      (start.after 7).next.1 = none ∧ start.after 8 = start.final ∧
      List.Forall₂ source.BlankBetween [2, 4, 21] [2, 6, 25] ∧
      ∃! d, d ∈ start.directives.take 2 ∧ d.span.start ≤ 13 ∧ 13 + 'é'.utf8Size ≤ d.span.stop := by
  intro source start second
  have begins : ofOffset source 3 = ⟨2, lit "Ö\n B \"ü, é\",\r\n\t1\u00a0\r\n\x0cX"⟩ := by decide +kernel
  have read₁ : (ofOffset source 3).next =
      (some ⟨['Ö'], [], .ofBounds 2 4⟩, ⟨5, lit " B \"ü, é\",\r\n\t1\u00a0\r\n\x0cX"⟩) := by decide +kernel
  have read₂ : Cursor.next ⟨5, lit " B \"ü, é\",\r\n\t1\u00a0\r\n\x0cX"⟩ = (some second, ⟨25, lit "\x0cX"⟩) := by
    decide +kernel
  have ended : Cursor.next ⟨25, lit "\x0cX"⟩ = (none, ⟨25, lit "\x0cX"⟩) := by decide +kernel
  have directives : (ofOffset source 3).directives = [⟨['Ö'], [], .ofBounds 2 4⟩, second] := by
    rw [directives_of_next read₁, directives_of_next read₂, directives_of_none ended]
  have passed : (ofOffset source 3).after 2 = ⟨25, lit "\x0cX"⟩ := by
    rw [after_of_next read₁, after_of_next read₂]
    rfl
  have here : source.Holds 13 ['é'] := ⟨lit "ÄÖ\n B \"ü, ", lit "\",\r\n\t1\u00a0\r\n\x0cX", rfl, rfl⟩
  obtain ⟨-, -, gives, stays, covers⟩ := reading_covers source 3
  obtain ⟨blanks, belongs⟩ := covers 2
  have advances := gives 1 (by rw [directives]; decide)
  have ends := stays 7 (by rw [directives]; decide)
  have belongs := belongs 13 'é' here (by decide) (by rw [begins]; decide) (by rw [passed]; decide)
  simp only [directives, List.getElem_cons_succ, List.getElem_cons_zero] at advances
  rw [directives, passed, begins] at blanks
  exact ⟨congrArg offset begins, directives, advances, ends.1, ends.2, blanks, belongs⟩

/-! ### What is left unread -/

/-- A call gives no directive at the end of the script and before a blank that it does not skip. -/
theorem next_fst_eq_none_iff_exists : c.next.1 = none ↔
    c.skipGap.rest = [] ∨ ∃ b behind, c.skipGap.rest = b :: behind ∧ isBlank b = true ∧ isGap b = false := by
  have notGap : ∀ b ∈ c.skipGap.rest.head?, isGap b = false := fun b first => isGap_of_mem_head?_skipGap first
  rw [next_fst_eq_none_iff]
  cases rest : c.skipGap.rest with
  | nil => simp
  | cons b behind =>
    rw [rest] at notGap
    simp [notGap b rfl]

theorem rest_final (c : Cursor) :
    c.final.rest = [] ∨ ∃ b behind, c.final.rest = b :: behind ∧ isBlank b = true ∧ isGap b = false := by
  have ended := (next_after_of_le c _ (Nat.le_refl _)).1
  have position : c.final = (c.after c.directives.length).skipGap := by
    rw [final, after_succ']
    exact (next_of_none (Prod.ext ended rfl)).1
  rw [position]
  exact next_fst_eq_none_iff_exists.mp ended

/-- Where all blanks of a script are skipped, none of them is left before other text. -/
theorem Stands.rest_eq_nil (stands : c.Stands source) (skipped : ∀ b ∈ source, isBlank b = true → isGap b = true)
    (ended : c.rest = [] ∨ ∃ b behind, c.rest = b :: behind ∧ isBlank b = true ∧ isGap b = false) : c.rest = [] := by
  rcases ended with nothing | ⟨b, behind, rest, blank, notGap⟩
  · exact nothing
  · obtain ⟨front, whole, -⟩ := stands
    rw [rest] at whole
    rw [skipped b (by rw [whole]; simp) blank] at notGap
    cases notGap

/-- Reading ends at the end of a script, or before a blank that is not skipped before a name, such as a form feed;
nothing behind such a blank is read. Where all blanks of a script are skipped, nothing is left of it when reading
ends. -/
theorem reading_ends (stands : c.Stands source) :
    (c.next.1 = none ↔
        c.skipGap.rest = [] ∨ ∃ b behind, c.skipGap.rest = b :: behind ∧ isBlank b = true ∧ isGap b = false) ∧
      (c.next.1 = none → c.next.2 = c.skipGap) ∧
      (c.final.rest = [] ∨ ∃ b behind, c.final.rest = b :: behind ∧ isBlank b = true ∧ isGap b = false) ∧
      ((∀ b ∈ source, isBlank b = true → isGap b = true) →
        (c.next.1 = none → c.next.2.rest = []) ∧ c.final.rest = []) := by
  have position : c.next.1 = none → c.next.2 = c.skipGap := fun ended => (next_of_none (Prod.ext ended rfl)).1
  refine ⟨next_fst_eq_none_iff_exists, position, c.rest_final, fun skipped => ⟨fun ended => ?_, ?_⟩⟩
  · refine stands.stands_next.rest_eq_nil skipped ?_
    rw [position ended]
    exact next_fst_eq_none_iff_exists.mp ended
  · have final : c.final.Stands source := stands.stands_after _
    exact final.rest_eq_nil skipped c.rest_final

/-- A line behind a form feed is not read, although it holds a directive. -/
theorem reading_ends_formFeed :
    let source := lit "A\n\x0cB\n"
    let c : Cursor := ⟨2, lit "\x0cB\n"⟩
    c.Stands source ∧ c.next.1 = none ∧ c.next.2.rest = lit "\x0cB\n" ∧
      (∀ b ∈ lit " A\t1\r\nB\n", isBlank b = true → isGap b = true) ∧ (ofOffset (lit " A\t1\r\nB\n") 0).final.rest = [] := by
  intro source c
  have stands : c.Stands source := ⟨lit "A\n", rfl, rfl⟩
  have skipped : ∀ b ∈ lit " A\t1\r\nB\n", isBlank b = true → isGap b = true := by decide
  obtain ⟨ends, stays, -, -⟩ := reading_ends stands
  have ended : c.next.1 = none := ends.mpr (.inr ⟨'\x0c', lit "B\n", by decide, by decide, by decide⟩)
  obtain ⟨-, -, -, read⟩ := reading_ends (stands_ofByte (lit " A\t1\r\nB\n") 0)
  exact ⟨stands, ended, by rw [stays ended]; decide, skipped, (read skipped).2⟩

end Cursor

end DialogGrid
