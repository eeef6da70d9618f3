import DialogGrid.Blank
import DialogGrid.Diagnostic

/-!
# Directives

A resource script is read as a sequence of directives: a name, then arguments separated by
commas. A comma inside quotes belongs to its argument. A directive ends with its line, except
that a line break directly after a separating comma continues it. Carriage returns are dropped
wherever they stand in an argument list, so both kinds of line break read alike.

`Cursor.read?_shorter` says that a directive is never read without advancing; it pays for the
termination of `Cursor.directives`.
-/

namespace DialogGrid

/-- One statement of a script. The span runs from its name to its last visible character. -/
structure Directive where
  name : Text
  args : List Text
  span : Span
  deriving DecidableEq, Repr

namespace Directive

/-- Whether the directive has this name, letter case aside. -/
def isNamed (d : Directive) (keyword : Text) : Bool := d.name.sameLetters keyword

/-- The directive with one argument replaced, if it has an argument there. -/
def setArg (d : Directive) (index : Nat) (value : Text) : Directive :=
  { d with args := d.args.set index value }

end Directive

/-! ## Argument lists -/

/-- What an argument list came to: the pieces between separators, all characters that were read,
the line break at the end included, and the text after them. -/
structure ArgumentList where
  pieces : List Text
  read : Text
  rest : Text

namespace ArgumentList

/-- The list with one more character in front that belongs to the first piece. -/
def push (c : Char) (l : ArgumentList) : ArgumentList where
  pieces := match l.pieces with
    | [] => [[c]]
    | piece :: more => (c :: piece) :: more
  read := c :: l.read
  rest := l.rest

/-- The list with a separator in front. -/
def separate (l : ArgumentList) : ArgumentList where
  pieces := [] :: l.pieces
  read := ',' :: l.read
  rest := l.rest

/-- The list with a character in front that belongs to no piece. -/
def skip (c : Char) (l : ArgumentList) : ArgumentList := { l with read := c :: l.read }

/-- Reads an argument list. `quoted` tells whether a quote is open, and `separated` whether
nothing but carriage returns stands between here and a separating comma. -/
def scan (quoted separated : Bool) : Text → ArgumentList
  | [] => ⟨[[]], [], []⟩
  | c :: rest =>
    if c = '\n' ∧ separated = false then ⟨[[]], [c], rest⟩
    else if c = '\r' then (scan quoted separated rest).skip c
    else if c = ',' ∧ quoted = false then (scan quoted true rest).separate
    else (scan (quoted ^^ c == '"') false rest).push c

/-- What is read and what is left make up the text. -/
theorem read_append_rest (quoted separated : Bool) (t : Text) :
    (scan quoted separated t).read ++ (scan quoted separated t).rest = t := by
  induction t generalizing quoted separated with
  | nil => rfl
  | cons c rest ih =>
    unfold scan
    split
    · rfl
    · split
      · simpa [skip] using ih quoted separated
      · split
        · next h => simpa [separate, h.1] using ih quoted true
        · simpa [push] using ih (quoted ^^ c == '"') false

end ArgumentList

/-- Spaces and tabs with the line break after them, if a line ends here, and the text after it.
The end of the text ends a line too. -/
def lineEnd? (t : Text) : Option (Text × Text) :=
  let isInline := fun c : Char => c == ' ' || c == '\t'
  let blanks := t.takeWhile isInline
  match t.dropWhile isInline with
  | [] => some (blanks, [])
  | '\n' :: rest => some (blanks ++ ['\n'], rest)
  | '\r' :: '\n' :: rest => some (blanks ++ ['\r', '\n'], rest)
  | _ => none

theorem lineEnd?_append {t read rest : Text} (h : lineEnd? t = some (read, rest)) : read ++ rest = t := by
  have whole := List.takeWhile_append_dropWhile (p := fun c => c == ' ' || c == '\t') (l := t)
  unfold lineEnd? at h
  dsimp only at h
  split at h <;> simp only [Option.some.injEq, Prod.mk.injEq, reduceCtorEq] at h <;> obtain ⟨rfl, rfl⟩ := h <;>
    next remainder => simpa [remainder] using whole

/-! ## Reading directives -/

/-- A reading position: its byte offset in the script and the text that follows. -/
structure Cursor where
  offset : Nat
  rest : Text
  deriving DecidableEq, Repr

/-- The blanks that may stand before a directive. -/
def isGap (c : Char) : Bool := c == ' ' || c == '\t' || c == '\r' || c == '\n'

namespace Cursor

/-- The position at the last character boundary that is not after byte `offset`. -/
def ofOffset (source : Text) (offset : Nat) : Cursor :=
  let (before, after) := source.splitAtByte offset
  ⟨Text.byteSize before, after⟩

/-- The position after the characters in `read`, which `rest` follows. -/
def forward (c : Cursor) (read rest : Text) : Cursor := ⟨c.offset + read.byteSize, rest⟩

/-- The position after the blanks that stand here. -/
def skipGap (c : Cursor) : Cursor :=
  c.forward (c.rest.takeWhile isGap) (c.rest.dropWhile isGap)

/-- Reads the directive whose name begins here. Its span ends after the last visible character
of its arguments. -/
def read? (c : Cursor) : Option (Directive × Cursor) :=
  let name := c.rest.takeWhile (!isBlank ·)
  let rest := c.rest.dropWhile (!isBlank ·)
  if name = [] then none
  else
    let named := c.forward name rest
    match lineEnd? rest with
    | some (read, rest) => some (⟨name, [], .ofBounds c.offset named.offset⟩, named.forward read rest)
    | none =>
      let list := ArgumentList.scan false false rest
      some (⟨name, list.pieces.map Text.trim, .ofBounds c.offset (named.offset + Text.byteSize list.read.trimEnd)⟩,
        named.forward list.read list.rest)

/-- Reads the next directive, and moves past the blanks before it in any case. -/
def next (c : Cursor) : Option Directive × Cursor :=
  match c.skipGap.read? with
  | some (d, after) => (some d, after)
  | none => (none, c.skipGap)

/-- A directive takes up at least the characters of its name. -/
theorem read?_shorter {c after : Cursor} {d : Directive} (h : c.read? = some (d, after)) :
    after.rest.length < c.rest.length := by
  have whole := congrArg List.length (List.takeWhile_append_dropWhile (p := (!isBlank ·)) (l := c.rest))
  rw [List.length_append] at whole
  simp only [read?] at h
  split at h
  · simp at h
  · next nonempty =>
    have positive := List.length_pos_iff.mpr nonempty
    split at h <;> simp only [Option.some.injEq, Prod.mk.injEq] at h <;> obtain ⟨-, rfl⟩ := h
    · next ended =>
      have := congrArg List.length (lineEnd?_append ended)
      rw [List.length_append] at this
      simp only [forward]
      omega
    · have := congrArg List.length (ArgumentList.read_append_rest false false (c.rest.dropWhile (!isBlank ·)))
      rw [List.length_append] at this
      simp only [forward]
      omega

theorem length_rest_skipGap_le (c : Cursor) : c.skipGap.rest.length ≤ c.rest.length := by
  have whole := congrArg List.length (List.takeWhile_append_dropWhile (p := isGap) (l := c.rest))
  rw [List.length_append] at whole
  simp only [skipGap, forward]
  omega

theorem next_shorter {c after : Cursor} {d : Directive} (h : c.next = (some d, after)) :
    after.rest.length < c.rest.length := by
  unfold next at h
  split at h
  · next found =>
    simp only [Prod.mk.injEq, Option.some.injEq] at h
    have := read?_shorter found
    rw [← h.2]
    exact Nat.lt_of_lt_of_le this c.length_rest_skipGap_le
  · simp at h

/-- The directives from here on, until none can be read. -/
def directives (c : Cursor) : List Directive :=
  match _h : c.next with
  | (some d, after) => d :: after.directives
  | (none, _) => []
termination_by c.rest.length
decreasing_by exact next_shorter _h

end Cursor

/-- The directives of a script. -/
def directives (source : Text) : List Directive := (Cursor.ofOffset source 0).directives

end DialogGrid
