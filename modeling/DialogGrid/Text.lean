/-!
# Text

Texts are lists of characters. Positions in a text count the bytes of its UTF-8 form, and
every position handed out lies on a character boundary: `splitAtByte` takes any number of
bytes and cuts at the last boundary that is not after it.
-/

namespace DialogGrid

abbrev Text := List Char

/-- The characters of a string literal. -/
abbrev lit (s : String) : Text := s.toList

namespace Text

/-- The number of bytes of the UTF-8 form. -/
def byteSize : Text → Nat
  | [] => 0
  | c :: rest => c.utf8Size + byteSize rest

@[simp] theorem byteSize_nil : byteSize [] = 0 := rfl

@[simp] theorem byteSize_cons (c : Char) (rest : Text) :
    byteSize (c :: rest) = c.utf8Size + byteSize rest := rfl

@[simp] theorem byteSize_append (a b : Text) : byteSize (a ++ b) = byteSize a + byteSize b := by
  induction a with
  | nil => simp
  | cons c a ih => simp [ih, Nat.add_assoc]

/-- Cuts at the last character boundary that is not after byte `n`. -/
def splitAtByte : Nat → Text → Text × Text
  | _, [] => ([], [])
  | n, c :: rest =>
    if c.utf8Size ≤ n then
      let (before, after) := splitAtByte (n - c.utf8Size) rest
      (c :: before, after)
    else ([], c :: rest)

theorem splitAtByte_append (n : Nat) (t : Text) : (splitAtByte n t).1 ++ (splitAtByte n t).2 = t := by
  induction t generalizing n with
  | nil => rfl
  | cons c rest ih =>
    unfold splitAtByte
    split
    · simp [ih]
    · rfl

/-- The cut never lies after the byte asked for. -/
theorem byteSize_splitAtByte_le (n : Nat) (t : Text) : byteSize (splitAtByte n t).1 ≤ n := by
  induction t generalizing n with
  | nil => simp [splitAtByte]
  | cons c rest ih =>
    unfold splitAtByte
    split
    · have := ih (n - c.utf8Size)
      simp only [byteSize_cons]
      omega
    · simp

/-- The last character boundary of `t` that is not after byte `n`. -/
def boundary (n : Nat) (t : Text) : Nat := byteSize (splitAtByte n t).1

/-! ## Occurrences of one text in another -/

/-- The text before the first occurrence of `needle`. -/
def before? (t needle : Text) : Option Text :=
  match t with
  | [] => if needle = [] then some [] else none
  | c :: rest =>
    if needle.isPrefixOf (c :: rest) then some [] else (before? rest needle).map (c :: ·)

/-- The text after the last occurrence of `needle`. -/
def afterLast? (t needle : Text) : Option Text :=
  match t with
  | [] => if needle = [] then some [] else none
  | c :: rest =>
    match afterLast? rest needle with
    | some after => some after
    | none => if needle.isPrefixOf (c :: rest) then some ((c :: rest).drop needle.length) else none

/-- Whether `needle` occurs. -/
def hasInfix (t needle : Text) : Bool := (t.before? needle).isSome

/-- Cuts at the first character with `p`, which is left out; without one, all of the text
comes first. -/
def cutAt (t : Text) (p : Char → Bool) : Text × Text :=
  (t.takeWhile (!p ·), (t.dropWhile (!p ·)).drop 1)

/-! ## Letter case -/

/-- The text with its ASCII letters in upper case; other letters stay. -/
def upper (t : Text) : Text := t.map Char.toUpper

/-- Equality up to the case of ASCII letters. -/
def sameLetters (a b : Text) : Bool := a.upper == b.upper

/-! ## Beginnings, ends and quotes -/

/-- What follows `lead`, if the text begins with it. -/
def dropLead? (t lead : Text) : Option Text :=
  if lead.isPrefixOf t then some (t.drop lead.length) else none

/-- The text between an opening and a closing quote, which are two characters. -/
def quoted? : Text → Option Text
  | '"' :: rest => if rest.getLast? = some '"' then some rest.dropLast else none
  | _ => none

/-- The text without one pair of quotes around it, if it has one. -/
def unquote (t : Text) : Text := t.quoted?.getD t

end Text

end DialogGrid
