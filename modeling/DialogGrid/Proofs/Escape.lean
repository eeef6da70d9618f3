import DialogGrid.Escape

/-!
# Escaped texts

A text can be escaped in many ways: each character stands for itself, or it is written as an escape
that stands for it. Decoding gives back the text from all of them (`Escape.decode_spelled`).
-/

namespace DialogGrid.Escape

/-- What can stand behind a backslash, with the characters that are meant. -/
def letters : List (Char × Char) :=
  [('\\', '\\'), ('"', '"'), ('\'', '\''), ('n', '\n'), ('t', '\t'), ('r', '\r')]

/-- The digit of a number below sixteen, in either letter case. -/
def IsHexDigit (digit : Char) (n : Nat) : Prop :=
  (lit "0123456789abcdef")[n]? = some digit ∨ (lit "0123456789ABCDEF")[n]? = some digit

/-- What is written behind a backslash, and the character that is meant. -/
inductive Means : Text → Char → Prop
  | letter {letter c : Char} (listed : (letter, c) ∈ letters) : Means [letter] c
  | code {high low : Char} {h l : Nat} (isHigh : IsHexDigit high h) (isLow : IsHexDigit low l) :
      Means ['x', high, low] (Char.ofNat (16 * h + l))

/-- A way to write one character. A backslash and line breaks do not stand for themselves. -/
inductive Piece : Text → Char → Prop
  | plain {c : Char} (itself : c ≠ '\\' ∧ c ≠ '\r' ∧ c ≠ '\n') : Piece [c] c
  | letter {letter c : Char} (listed : (letter, c) ∈ letters) : Piece ['\\', letter] c
  | code {high low : Char} {h l : Nat} (isHigh : IsHexDigit high h) (isLow : IsHexDigit low l) :
      Piece ['\\', 'x', high, low] (Char.ofNat (16 * h + l))

/-- The ways to write a text, character by character. -/
inductive Spelled : Text → Text → Prop
  | nil : Spelled [] []
  | cons {piece escaped t : Text} {c : Char} (first : Piece piece c) (rest : Spelled escaped t) :
      Spelled (piece ++ escaped) (c :: t)

theorem Spelled.plain_append {plain escaped t : Text} (itself : ∀ c ∈ plain, c ≠ '\\' ∧ c ≠ '\r' ∧ c ≠ '\n')
    (rest : Spelled escaped t) : Spelled (plain ++ escaped) (plain ++ t) := by
  induction plain with
  | nil => exact rest
  | cons c plain ih =>
    show Spelled ([c] ++ (plain ++ escaped)) (c :: (plain ++ t))
    exact .cons (.plain (itself c List.mem_cons_self)) (ih fun d member => itself d (List.mem_cons_of_mem c member))

private theorem single?_of_mem_letters {letter c : Char} (listed : (letter, c) ∈ letters) :
    single? letter = some c := by
  have all : ∀ p ∈ letters, single? p.1 = some p.2 := by decide
  exact all _ listed

private theorem hexDigit?_of_isHexDigit {digit : Char} {n : Nat} (isDigit : IsHexDigit digit n) :
    hexDigit? digit = some n := by
  have lower : ∀ i, hexDigit? ((lit "0123456789abcdef").get i) = some i.val := by decide
  have upper : ∀ i, hexDigit? ((lit "0123456789ABCDEF").get i) = some i.val := by decide
  rcases isDigit with found | found
  · obtain ⟨inside, rfl⟩ := List.getElem?_eq_some_iff.mp found
    exact lower ⟨n, inside⟩
  · obtain ⟨inside, rfl⟩ := List.getElem?_eq_some_iff.mp found
    exact upper ⟨n, inside⟩

/-- Behind a backslash the character is read that is meant there, whatever stands behind it. -/
theorem read?_of_means {written : Text} {c : Char} (means : Means written c) (rest : Text) :
    read? (written ++ rest) = some (c, rest) := by
  cases means with
  | @letter letter c listed =>
    show read? (letter :: rest) = _
    rw [read?, single?_of_mem_letters listed]
  | @code high low h l isHigh isLow =>
    show read? ('x' :: high :: low :: rest) = _
    have noLetter : single? 'x' = none := rfl
    rw [read?, noLetter]
    dsimp only
    rw [if_pos rfl, hexPair?, hexDigit?_of_isHexDigit isHigh, hexDigit?_of_isHexDigit isLow]
    rfl

theorem Spelled.lineFeed_not_mem {escaped t : Text} (spelled : Spelled escaped t) : '\n' ∉ escaped := by
  have digit : ∀ {n : Nat}, ¬ IsHexDigit '\n' n := by
    intro n isDigit
    have none := hexDigit?_of_isHexDigit isDigit
    cases none
  have letter : ∀ p ∈ letters, p.1 ≠ '\n' := by decide
  induction spelled with
  | nil => exact List.not_mem_nil
  | cons first _ ih =>
    rw [List.mem_append, not_or]
    refine ⟨?_, ih⟩
    cases first with
    | plain itself => simpa using Ne.symm itself.2.2
    | letter listed => simpa using Ne.symm (letter _ listed)
    | code isHigh isLow =>
      intro feed
      simp only [List.mem_cons, List.not_mem_nil, or_false] at feed
      rcases feed with feed | feed | rfl | rfl
      · cases feed
      · cases feed
      · exact digit isHigh
      · exact digit isLow

theorem decode_cons {c : Char} (rest : Text) (itself : c ≠ '\\') : decode (c :: rest) = c :: decode rest := by
  rw [decode, if_neg itself]

theorem decode_backslash {t after : Text} {c : Char} (read : read? t = some (c, after)) :
    decode ('\\' :: t) = c :: decode after := by
  rw [decode, if_pos rfl]
  split
  · next found =>
    rw [read] at found
    cases found
    rfl
  · next none =>
    rw [read] at none
    cases none

private theorem decode_piece {piece : Text} {c : Char} (written : Piece piece c) (rest : Text) :
    decode (piece ++ rest) = c :: decode rest := by
  cases written with
  | plain itself => exact decode_cons rest itself.1
  | letter listed => exact decode_backslash (read?_of_means (.letter listed) rest)
  | code isHigh isLow => exact decode_backslash (read?_of_means (.code isHigh isLow) rest)

/-- A text is decoded from each of its spellings, whatever stands behind it. -/
theorem decode_spelled {escaped t : Text} (spelled : Spelled escaped t) (rest : Text) :
    decode (escaped ++ rest) = t ++ decode rest := by
  induction spelled with
  | nil => rfl
  | cons first _ ih => rw [List.append_assoc, decode_piece first, ih, List.cons_append]

end DialogGrid.Escape
