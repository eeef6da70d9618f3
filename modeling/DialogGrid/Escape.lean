import DialogGrid.Text

/-!
# Escapes in resource locations

A backslash escapes a backslash, a quote or an apostrophe, stands for a line feed, a tab or a
carriage return with `n`, `t` or `r`, and for the character with a two-digit hexadecimal code
with `x`. Before anything else a backslash stands for itself.
-/

namespace DialogGrid.Escape

/-- The character that a backslash and one more character stand for. -/
def single? : Char → Option Char
  | '\\' => some '\\'
  | '"' => some '"'
  | '\'' => some '\''
  | 'n' => some '\n'
  | 't' => some '\t'
  | 'r' => some '\r'
  | _ => none

/-- The value of a hexadecimal digit in either case. -/
def hexDigit? (c : Char) : Option Nat :=
  if '0' ≤ c ∧ c ≤ '9' then some (c.toNat - '0'.toNat)
  else if 'a' ≤ c ∧ c ≤ 'f' then some (c.toNat - 'a'.toNat + 10)
  else if 'A' ≤ c ∧ c ≤ 'F' then some (c.toNat - 'A'.toNat + 10)
  else none

/-- The character with the code written by two hexadecimal digits, and the text after them. -/
def hexPair? : Text → Option (Char × Text)
  | high :: low :: rest => do
    let h ← hexDigit? high
    let l ← hexDigit? low
    return (Char.ofNat (16 * h + l), rest)
  | _ => none

/-- What a backslash before this text stands for, and the text after the escape. -/
def read? : Text → Option (Char × Text)
  | [] => none
  | c :: rest =>
    match single? c with
    | some escaped => some (escaped, rest)
    | none => if c = 'x' then hexPair? rest else none

theorem hexPair?_shorter {t after : Text} {c : Char} (h : hexPair? t = some (c, after)) :
    after.length < t.length := by
  unfold hexPair? at h
  split at h
  · simp only [Option.bind_eq_bind, Option.bind_eq_some_iff, Option.pure_def, Option.some.injEq,
      Prod.mk.injEq] at h
    obtain ⟨_, _, _, _, _, rfl⟩ := h
    simp only [List.length_cons]
    omega
  · simp at h

theorem read?_shorter {t after : Text} {c : Char} (h : read? t = some (c, after)) :
    after.length < t.length := by
  unfold read? at h
  split at h
  · simp at h
  · split at h
    · simp_all
    · split at h
      · have := hexPair?_shorter h
        simp only [List.length_cons]
        omega
      · simp at h

/-- The text that an escaped text stands for. -/
def decode : Text → Text
  | [] => []
  | c :: rest =>
    if c = '\\' then
      match _h : read? rest with
      | some (escaped, after) => escaped :: decode after
      | none => c :: decode rest
    else c :: decode rest
termination_by t => t.length
decreasing_by
  · have := read?_shorter _h
    simp only [List.length_cons]
    omega
  · simp
  · simp

end DialogGrid.Escape
