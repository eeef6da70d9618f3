import DialogGrid.Numeral
import DialogGrid.Script.Basic

/-!
# Arithmetic of scripts

Expressions over 64-bit integers with variables, read with the usual precedences. A fault in the
text is part of the expression, at the place where evaluating it from left to right gets to, so
that what comes before it is evaluated first.
-/

namespace DialogGrid.Script.Arithmetic

inductive Operation where
  | multiply | divide | remainder | add | subtract | shiftLeft | shiftRight
  | less | lessEqual | greater | greaterEqual | equal | unequal
  | bitAnd | bitXor | bitOr
  deriving DecidableEq, Repr

inductive Fault where
  | noPrimary
  | noEnd
  | noClosing
  | noColon
  | zeroDivision
  deriving DecidableEq, Repr

def Fault.message : Fault → Raw
  | noPrimary => lit "expecting primary"
  | noEnd => lit "expecting EOF"
  | noClosing => lit "expecting ')'"
  | noColon => lit "expecting ':'"
  | zeroDivision => lit "division by zero"

/-- An expression. It is at `fault` where its text has one, and `before` has one after an expression. -/
inductive Expr where
  | number (n : Int64)
  | variable (name : Raw)
  | negate (e : Expr)
  | invert (e : Expr)
  | not (e : Expr)
  | binary (op : Operation) (a b : Expr)
  | both (a b : Expr)
  | either (a b : Expr)
  | choose (test yes no : Expr)
  | assign (name : Raw) (op : Option Operation) (e : Expr)
  | fault (f : Fault)
  | before (e : Expr) (f : Fault)

/-! ## Tokens -/

inductive Token where
  | number (n : Int64)
  | name (r : Raw)
  | symbol (r : Raw)
  deriving DecidableEq, Repr

/-- The symbols, longer ones first. -/
def symbols : List Raw :=
  ["<<=", ">>=", "<<", ">>", "<=", ">=", "==", "!=", "&&", "||", "+=", "-=", "*=", "/=", "%=", "&=", "^=", "|=",
    "?", ":", "(", ")", "+", "-", "*", "/", "%", "~", "!", "<", ">", "&", "^", "|", "="].map String.toList

/-- The number that a text begins with, decimal, octal after `0` or hexadecimal after `0x`, and what
follows. Numbers that are too large stop at the largest. -/
def number (t : Raw) : Int64 × Raw :=
  let clamp (n : Nat) : Int64 := if n < 9223372036854775807 then Int64.ofNat n else Int64.maxValue
  let (base, digits) := match t with
    | '0' :: x :: d :: rest =>
      if (x = 'x' ∨ x = 'X') ∧ (Escape.hexDigit? d).isSome then (16, d :: rest) else (8, t)
    | '0' :: _ => (8, t)
    | _ => (10, t)
  let (value, _, rest) := Raw.digits base digits.length 0 digits
  (clamp value, rest)

/-- The tokens of an expression, up to the first character that begins none. -/
def tokens : Nat → Raw → List Token
  | 0, _ => []
  | bound + 1, t =>
    match t with
    | [] => []
    | c :: rest =>
      if (lit " \t\n").contains c then tokens bound rest
      else if c.isDigit then
        let (n, rest) := number t
        .number n :: tokens bound rest
      else if isNameStart c then
        .name (t.takeWhile isNameChar) :: tokens bound (t.dropWhile isNameChar)
      else
        match symbols.find? (·.isPrefixOf t) with
        | some s => .symbol s :: tokens bound (t.drop s.length)
        | none => [.symbol [c]]

/-! ## Expressions -/

/-- The operation of a symbol with two operands, and how tightly it binds. -/
def operation? (s : Raw) : Option (Operation × Nat) :=
  match String.ofList s with
  | "*" => some (.multiply, 10)
  | "/" => some (.divide, 10)
  | "%" => some (.remainder, 10)
  | "+" => some (.add, 9)
  | "-" => some (.subtract, 9)
  | "<<" => some (.shiftLeft, 8)
  | ">>" => some (.shiftRight, 8)
  | "<" => some (.less, 7)
  | "<=" => some (.lessEqual, 7)
  | ">" => some (.greater, 7)
  | ">=" => some (.greaterEqual, 7)
  | "==" => some (.equal, 6)
  | "!=" => some (.unequal, 6)
  | "&" => some (.bitAnd, 5)
  | "^" => some (.bitXor, 4)
  | "|" => some (.bitOr, 3)
  | _ => none

/-- The operation of a symbol that assigns; a plain assignment has none. -/
def assignment? (s : Raw) : Option (Option Operation) :=
  if s = ['='] then some none
  else if s.getLast? = some '=' ∧ ¬ [lit "==", lit "!=", lit "<=", lit ">="].contains s then
    (operation? s.dropLast).map fun (op, _) => some op
  else none

/-- What a text is read as: a whole expression, a condition without assignment, an operand, or what
follows an operand with operations that bind at least so tightly. -/
inductive Level where
  | whole
  | condition
  | operand
  | after (left : Expr) (tightness : Nat)

/-- Combines two operands at a symbol. -/
def combine (s : Raw) (a b : Expr) : Expr :=
  if s = lit "&&" then .both a b
  else if s = lit "||" then .either a b
  else
    match operation? s with
    | some (op, _) => .binary op a b
    | none => a

/-- How tightly the symbol of a token with two operands binds. -/
def tightness? : Option Token → Option (Raw × Nat)
  | some (.symbol s) =>
    if s = lit "&&" then some (s, 2) else if s = lit "||" then some (s, 1) else (operation? s).map fun (_, n) => (s, n)
  | _ => none

/-- An expression that was read, and what follows it unless it ends with a fault. -/
abbrev Reading := Expr × Option (List Token)

namespace Reading

def map (f : Expr → Expr) (r : Reading) : Reading := (f r.1, r.2)

/-- Goes on reading after an expression without a fault. -/
def andThen (r : Reading) (next : Expr → List Token → Reading) : Reading :=
  match r with
  | (e, some rest) => next e rest
  | (e, none) => (e, none)

end Reading

/-- Reads an expression; the first number bounds how often reading goes deeper. -/
def readAt : Nat → Level → List Token → Reading
  | 0, _, _ => (.fault .noPrimary, none)
  | bound + 1, .whole, ts =>
    match ts with
    | .name name :: .symbol s :: rest =>
      match assignment? s with
      | some op? => (readAt bound .whole rest).map (.assign name op?)
      | none => readAt bound .condition ts
    | _ => readAt bound .condition ts
  | bound + 1, .condition, ts =>
    (readAt bound .operand ts).andThen fun first rest =>
    (readAt bound (.after first 1) rest).andThen fun test rest =>
    match rest with
    | .symbol ['?'] :: rest =>
      match readAt bound .whole rest with
      | (yes, some (.symbol [':'] :: rest)) => (readAt bound .condition rest).map (.choose test yes)
      | (yes, _) => (.choose test yes (.fault .noColon), none)
    | _ => (test, some rest)
  | bound + 1, .operand, ts =>
    match ts with
    | .number n :: rest => (.number n, some rest)
    | .name name :: rest => (.variable name, some rest)
    | .symbol ['('] :: rest =>
      (readAt bound .whole rest).andThen fun e rest =>
      match rest with
      | .symbol [')'] :: rest => (e, some rest)
      | _ => (.before e .noClosing, none)
    | .symbol ['+'] :: rest => readAt bound .operand rest
    | .symbol ['-'] :: rest => (readAt bound .operand rest).map .negate
    | .symbol ['~'] :: rest => (readAt bound .operand rest).map .invert
    | .symbol ['!'] :: rest => (readAt bound .operand rest).map .not
    | _ => (.fault .noPrimary, none)
  | bound + 1, .after left tightness, ts =>
    match tightness? ts.head? with
    | some (s, n) =>
      if n < tightness then (left, some ts)
      else
        let right := (readAt bound .operand (ts.drop 1)).andThen fun first rest =>
          readAt bound (.after first (n + 1)) rest
        (right.map (combine s left)).andThen fun e rest => readAt bound (.after e tightness) rest
    | none => (left, some ts)

/-- The expression that a text writes. -/
def read (t : Raw) : Expr :=
  let ts := tokens t.length.succ t
  match readAt (4 * ts.length + 8) .whole ts with
  | (e, some (_ :: _)) => .before e .noEnd
  | (e, _) => e

/-! ## Values -/

def ofBool (b : Bool) : Int64 := if b then 1 else 0

/-- The value of an operation. -/
def Operation.apply (op : Operation) (a b : Int64) : Except Fault Int64 :=
  match op with
  | multiply => .ok (a * b)
  | divide => if b = 0 then .error .zeroDivision else .ok (a / b)
  | remainder => if b = 0 then .error .zeroDivision else .ok (a % b)
  | add => .ok (a + b)
  | subtract => .ok (a - b)
  | shiftLeft => .ok (a <<< b)
  | shiftRight => .ok (a >>> b)
  | less => .ok (ofBool (a < b))
  | lessEqual => .ok (ofBool (a ≤ b))
  | greater => .ok (ofBool (b < a))
  | greaterEqual => .ok (ofBool (b ≤ a))
  | equal => .ok (ofBool (a = b))
  | unequal => .ok (ofBool (a ≠ b))
  | bitAnd => .ok (a &&& b)
  | bitXor => .ok (a ^^^ b)
  | bitOr => .ok (a ||| b)

/-- A number in decimal. -/
def shown (n : Int64) : Raw := Text.ofInt n.toInt

end DialogGrid.Script.Arithmetic
