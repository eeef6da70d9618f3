import DialogGrid.Text

/-!
# Decimal numerals

How whole numbers are written and read. Reading takes one optional sign and then digits only,
and a coordinate must fit into 32 bits.
-/

namespace DialogGrid.Text

/-- The decimal digits of a number. -/
def ofNat (n : Nat) : Text := Nat.toDigits 10 n

/-- The decimal form of a whole number, with a minus sign below zero. -/
def ofInt : Int → Text
  | .ofNat n => ofNat n
  | .negSucc n => '-' :: ofNat (n + 1)

/-- The number written by ASCII digits, of which there is at least one. -/
def natural? (t : Text) : Option Nat :=
  if t ≠ [] ∧ t.all Char.isDigit = true then some (Nat.ofDigitChars 10 t 0) else none

/-- The whole number written by digits with at most one sign before them. -/
def integer? : Text → Option Int
  | [] => none
  | c :: rest =>
    if c = '-' then (natural? rest).map fun n => -(n : Int)
    else if c = '+' then (natural? rest).map fun n => (n : Int)
    else (natural? (c :: rest)).map fun n => (n : Int)

/-- The 32-bit number written by a text; a number out of range is no number. -/
def int32? (t : Text) : Option Int32 :=
  t.integer?.bind fun n => if -2147483648 ≤ n ∧ n ≤ 2147483647 then some (Int32.ofInt n) else none

theorem isDigit_of_mem_ofNat {n : Nat} {c : Char} (member : c ∈ ofNat n) : c.isDigit = true :=
  Nat.isDigit_of_mem_toDigits (by decide) (by decide) member

theorem natural?_ofNat (n : Nat) : natural? (ofNat n) = some n := by
  have digits : (ofNat n).all Char.isDigit = true := List.all_eq_true.mpr fun c => isDigit_of_mem_ofNat
  have nonempty : ofNat n ≠ [] := Nat.toDigits_ne_nil
  simp only [natural?, nonempty, digits, ne_eq, not_false_eq_true, and_self, ite_true]
  exact congrArg some (Nat.ofDigitChars_toDigits (by decide) (by decide))

end DialogGrid.Text
