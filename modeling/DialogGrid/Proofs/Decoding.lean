import DialogGrid.Proofs.Escape
import Mathlib.Data.List.Forall2

/-!
# Decoding item by item

A text with escapes consists of items: characters that stand for themselves, escapes, and backslashes that are kept because
no escape begins there. Every text consists of items in exactly one way, and decoding puts in the place of each what it
stands for. So decoding undoes every way to escape a text (`Escape.decode_items`).
-/

namespace DialogGrid.Escape

/-! ## Items -/

/-- An item of a text with escapes. -/
inductive Item where
  | plain (c : Char) (itself : c ≠ '\\')
  | escape (written : Text) (c : Char) (means : Means written c)
  | kept

namespace Item

def text : Item → Text
  | plain c _ => [c]
  | escape written _ _ => '\\' :: written
  | kept => ['\\']

/-- The character that an item stands for. -/
def char : Item → Char
  | plain c _ => c
  | escape _ c _ => c
  | kept => '\\'

/-- An item that a character is written as when it is escaped or stands for itself. -/
def Spells (item : Item) (c : Char) : Prop := item ≠ kept ∧ item.char = c

/-- The text that consists of some items. -/
def joined (items : List Item) : Text := items.flatMap text

private theorem joined_cons (item : Item) (rest : List Item) : joined (item :: rest) = item.text ++ joined rest :=
  List.flatMap_cons

end Item

/-- A text that would be read as the rest of an escape if it stood behind a backslash. -/
def Completes (t : Text) : Prop := ∃ written c, Means written c ∧ written <+: t

/-- Items of which none reads on into the next one: a backslash is kept only where it begins no escape. -/
inductive Separate : List Item → Prop
  | nil : Separate []
  | cons {item : Item} {rest : List Item} (ends : item = .kept → ¬ Completes (Item.joined rest))
      (later : Separate rest) : Separate (item :: rest)

/-! ## Reading an escape -/

private theorem mem_letters_of_single? {letter c : Char} (found : single? letter = some c) : (letter, c) ∈ letters := by
  unfold single? at found
  split at found
  all_goals cases found
  all_goals decide

private theorem isHexDigit_of_hexDigit? {digit : Char} {n : Nat} (found : hexDigit? digit = some n) :
    IsHexDigit digit n := by
  have all : ∀ code < 103, ∀ m ∈ hexDigit? (Char.ofNat code),
      (lit "0123456789abcdef")[m]? = some (Char.ofNat code) ∨ (lit "0123456789ABCDEF")[m]? = some (Char.ofNat code) := by
    decide
  have bound : digit.toNat < 103 := by
    have last : ∀ c : Char, digit ≤ c → digit.toNat ≤ c.toNat := fun c below => below
    unfold hexDigit? at found
    split at found
    · next inside => exact Nat.lt_of_le_of_lt (last '9' inside.2) (by decide)
    · split at found
      · next inside => exact Nat.lt_of_le_of_lt (last 'f' inside.2) (by decide)
      · split at found
        · next inside => exact Nat.lt_of_le_of_lt (last 'F' inside.2) (by decide)
        · cases found
  have listed := all digit.toNat bound n
  rw [Char.ofNat_toNat] at listed
  exact listed found

/-- What is read behind a backslash is what is written there. -/
theorem read?_eq_some_iff {t after : Text} {c : Char} :
    read? t = some (c, after) ↔ ∃ written, Means written c ∧ t = written ++ after := by
  constructor
  · intro read
    cases t with
    | nil => cases read
    | cons first rest =>
      rw [read?] at read
      cases letter : single? first with
      | some meant =>
        rw [letter] at read
        cases read
        exact ⟨[first], .letter (mem_letters_of_single? letter), rfl⟩
      | none =>
        rw [letter] at read
        dsimp only at read
        split at read
        · next isCode =>
          rcases rest with - | ⟨high, - | ⟨low, more⟩⟩
          · cases read
          · cases read
          · simp only [hexPair?, Option.bind_eq_bind, Option.bind_eq_some_iff, Option.pure_def, Option.some.injEq,
              Prod.mk.injEq] at read
            obtain ⟨h, isHigh, l, isLow, rfl, rfl⟩ := read
            rw [isCode]
            exact ⟨['x', high, low], .code (isHexDigit_of_hexDigit? isHigh) (isHexDigit_of_hexDigit? isLow), rfl⟩
        · cases read
  · rintro ⟨written, means, rfl⟩
    exact read?_of_means means after

theorem completes_iff {t : Text} : Completes t ↔ ∃ c after, read? t = some (c, after) := by
  constructor
  · rintro ⟨written, c, means, after, rfl⟩
    exact ⟨c, after, read?_of_means means after⟩
  · rintro ⟨c, after, read⟩
    obtain ⟨written, means, rfl⟩ := read?_eq_some_iff.mp read
    exact ⟨written, c, means, after, rfl⟩

theorem read?_eq_none_iff {t : Text} : read? t = none ↔ ¬ Completes t := by
  rw [completes_iff, Option.eq_none_iff_forall_ne_some]
  exact ⟨fun none ⟨c, after, read⟩ => none _ read, fun none ⟨c, after⟩ read => none ⟨c, after, read⟩⟩

instance (t : Text) : Decidable (Completes t) :=
  decidable_of_iff (read? t ≠ none) (by rw [Ne, read?_eq_none_iff, not_not])

/-! ## Decoding -/

private theorem decode_kept {t : Text} (none : ¬ Completes t) : decode ('\\' :: t) = '\\' :: decode t := by
  rw [decode, if_pos rfl]
  split
  · next read => exact absurd (completes_iff.mpr ⟨_, _, read⟩) none
  · rfl

/-- One step of decoding takes one item off the front of a text. -/
theorem decode_item {item : Item} {t : Text} (ends : item = .kept → ¬ Completes t) :
    decode (item.text ++ t) = item.char :: decode t := by
  cases item with
  | plain c itself => exact decode_cons t itself
  | escape written c means => exact decode_backslash (read?_of_means means t)
  | kept => exact decode_kept (ends rfl)

private theorem decode_separate {items : List Item} (separate : Separate items) :
    decode (Item.joined items) = items.map Item.char := by
  induction separate with
  | nil => rw [Item.joined, List.flatMap_nil, decode, List.map_nil]
  | cons ends _ ih => rw [Item.joined_cons, decode_item ends, ih, List.map_cons]

/-! ## The items of a text -/

/-- Every text consists of items. -/
theorem exists_items (t : Text) : ∃ items, Separate items ∧ Item.joined items = t := by
  fun_induction decode t with
  | case1 => exact ⟨[], .nil, rfl⟩
  | case2 rest c after read ih =>
    obtain ⟨items, separate, rfl⟩ := ih
    obtain ⟨written, means, rfl⟩ := read?_eq_some_iff.mp read
    refine ⟨.escape written c means :: items, .cons (fun kept => by cases kept) separate, ?_⟩
    rw [Item.joined_cons]
    rfl
  | case3 rest read ih =>
    obtain ⟨items, separate, rfl⟩ := ih
    exact ⟨.kept :: items, .cons (fun _ => read?_eq_none_iff.mp read) separate, Item.joined_cons _ _⟩
  | case4 c rest itself ih =>
    obtain ⟨items, separate, rfl⟩ := ih
    exact ⟨.plain c itself :: items, .cons (fun kept => by cases kept) separate, Item.joined_cons _ _⟩

/-- A text begins with one item, which decides where the next one begins. -/
theorem item_unique {item item' : Item} {t t' : Text} (same : item.text ++ t = item'.text ++ t')
    (ends : item = .kept → ¬ Completes t) (ends' : item' = .kept → ¬ Completes t') : item = item' ∧ t = t' := by
  cases item with
  | plain c itself =>
    cases item' with
    | plain c' itself' =>
      obtain ⟨rfl, behind⟩ := List.cons.inj same
      exact ⟨rfl, behind⟩
    | escape written' c' means' => exact absurd (List.cons.inj same).1 itself
    | kept => exact absurd (List.cons.inj same).1 itself
  | escape written c means =>
    cases item' with
    | plain c' itself' => exact absurd (List.cons.inj same).1.symm itself'
    | escape written' c' means' =>
      have behind : written ++ t = written' ++ t' := (List.cons.inj same).2
      have read := read?_of_means means t
      rw [behind, read?_of_means means' t'] at read
      obtain ⟨rfl, rfl⟩ := Prod.mk.inj (Option.some.inj read)
      obtain rfl := List.append_cancel_right behind
      exact ⟨rfl, rfl⟩
    | kept => exact absurd ⟨written, c, means, t, (List.cons.inj same).2⟩ (ends' rfl)
  | kept =>
    cases item' with
    | plain c' itself' => exact absurd (List.cons.inj same).1.symm itself'
    | escape written' c' means' => exact absurd ⟨written', c', means', t', (List.cons.inj same).2.symm⟩ (ends rfl)
    | kept => exact ⟨rfl, (List.cons.inj same).2⟩

private theorem Item.text_ne_nil (item : Item) : item.text ≠ [] := by
  cases item with
  | plain c itself => exact List.cons_ne_nil _ _
  | escape written c means => exact List.cons_ne_nil _ _
  | kept => exact List.cons_ne_nil _ _

/-- A text consists of items in one way. -/
theorem items_unique {items items' : List Item} (separate : Separate items) (separate' : Separate items')
    (same : Item.joined items = Item.joined items') : items = items' := by
  induction separate generalizing items' with
  | nil =>
    cases separate' with
    | nil => rfl
    | @cons item' rest' ends' later' =>
      rw [Item.joined_cons] at same
      exact absurd (List.append_eq_nil_iff.mp same.symm).1 item'.text_ne_nil
  | @cons item rest ends later ih =>
    rw [Item.joined_cons] at same
    cases separate' with
    | nil => exact absurd (List.append_eq_nil_iff.mp same).1 item.text_ne_nil
    | @cons item' rest' ends' later' =>
      rw [Item.joined_cons] at same
      obtain ⟨rfl, behind⟩ := item_unique same ends ends'
      rw [ih later' behind]

/-- Where no backslash is kept, no item reads on into the next one. -/
private theorem separate_of_spells {items : List Item} {s : Text} (spells : List.Forall₂ Item.Spells items s) :
    Separate items ∧ items.map Item.char = s := by
  induction spells with
  | nil => exact ⟨.nil, rfl⟩
  | cons first _ ih =>
    obtain ⟨separate, chars⟩ := ih
    exact ⟨.cons (fun kept => absurd kept first.1) separate, by rw [List.map_cons, first.2, chars]⟩

theorem decode_eq_self {t : Text} (none : '\\' ∉ t) : decode t = t := by
  induction t with
  | nil => rw [decode]
  | cons c rest ih =>
    rw [List.mem_cons, not_or] at none
    rw [decode_cons rest (Ne.symm none.1), ih none.2]

/-- Decoding puts in the place of each item the character that it stands for, and every text consists of items in exactly
one way. A text without backslashes stays as it is, and a text is decoded from whatever it is escaped to, if each of its
characters is written as an escape for it or as itself. -/
theorem decode_items :
    (∀ items, Separate items → decode (Item.joined items) = items.map Item.char) ∧
      (∀ t, ∃! items, Separate items ∧ Item.joined items = t) ∧
      (∀ t, '\\' ∉ t → decode t = t) ∧
      ∀ s items, List.Forall₂ Item.Spells items s → decode (Item.joined items) = s := by
  refine ⟨fun items separate => decode_separate separate, fun t => ?_, fun t none => decode_eq_self none,
    fun s items spells => ?_⟩
  · obtain ⟨items, separate, text⟩ := exists_items t
    exact ⟨items, ⟨separate, text⟩, fun items' ⟨separate', text'⟩ =>
      items_unique separate' separate (text'.trans text.symm)⟩
  · obtain ⟨separate, chars⟩ := separate_of_spells spells
    rw [decode_separate separate, chars]

/-- An escaped backslash before a letter, hexadecimal digits behind a code, and backslashes that are kept, the last one at
the end. -/
theorem decode_items_adjacent :
    let backslash : Item := .escape ['\\'] '\\' (.letter (by decide))
    let code : Item := .escape ['x', '4', 'a'] 'J' (.code (h := 4) (l := 10) (.inl rfl) (.inl rfl))
    let n : Item := .plain 'n' (by decide)
    let four : Item := .plain '4' (by decide)
    let q : Item := .plain 'q' (by decide)
    Separate [backslash, n, code, four, .kept, q, .kept] ∧
      decode (lit "\\\\n\\x4a4\\q\\") = lit "\\nJ4\\q\\" ∧
      '\\' ∉ lit "n4q" ∧ decode (lit "n4q") = lit "n4q" ∧
      List.Forall₂ Item.Spells [backslash, n, code, four] (lit "\\nJ4") ∧
      decode (lit "\\\\n\\x4a4") = lit "\\nJ4" := by
  intro backslash code n four q
  have last : Separate [Item.kept] := .cons (fun _ => by decide) .nil
  have kept : Separate [.kept, q, .kept] := .cons (fun _ => by decide) (.cons (by simp [q]) last)
  have separate : Separate [backslash, n, code, four, .kept, q, .kept] :=
    .cons (by simp [backslash]) (.cons (by simp [n]) (.cons (by simp [code]) (.cons (by simp [four]) kept)))
  have spells : List.Forall₂ Item.Spells [backslash, n, code, four] (lit "\\nJ4") :=
    .cons ⟨by simp [backslash], rfl⟩ (.cons ⟨by simp [n], rfl⟩ (.cons ⟨by simp [code], rfl⟩
      (.cons ⟨by simp [four], rfl⟩ .nil)))
  have plain : '\\' ∉ lit "n4q" := by decide
  exact ⟨separate, decode_items.1 _ separate, plain, decode_items.2.2.1 _ plain, spells,
    decode_items.2.2.2 _ _ spells⟩

end DialogGrid.Escape
