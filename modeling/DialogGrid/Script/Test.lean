import DialogGrid.Script.Number

/-!
# Conditions

The conditions of `test`, about files, texts and numbers. Three words of which the second is an
operator are always taken as its operation; else operators are read from left to right, `-a` before
`-o`, and all conditions are looked at.
-/

namespace DialogGrid.Script.Test

inductive Operator where
  | unary (letter : Char)
  | binary (sign : Raw)
  | not
  | and
  | or
  | opening
  | closing
  deriving DecidableEq, Repr

def operator? (word : Raw) : Option Operator :=
  match word with
  | ['!'] => some .not
  | ['('] => some .opening
  | [')'] => some .closing
  | ['-', 'a'] => some .and
  | ['-', 'o'] => some .or
  | ['-', c] => if (lit "rwxefdcbpugkstznhOGLS").contains c then some (.unary c) else none
  | _ =>
    if [lit "=", lit "!=", lit "<", lit ">", lit "-eq", lit "-ne", lit "-ge", lit "-gt", lit "-le", lit "-lt",
      lit "-nt", lit "-ot", lit "-ef"].contains word then some (.binary word) else none

def isBinary (word : Raw) : Bool :=
  match operator? word with
  | some (.binary _) => true
  | _ => false

/-- What the first of some words is: an operator, an operand, or the end. -/
inductive Role where
  | ending
  | operand
  | operator (o : Operator)
  deriving DecidableEq, Repr

def role : List Raw → Role
  | [] => .ending
  | word :: rest =>
    match operator? word, rest with
    | some (.unary _), [] => .operand
    | some (.unary c), [_] => .operator (.unary c)
    | some (.unary c), next :: _ => if isBinary next then .operand else .operator (.unary c)
    | some .opening, [] => .operand
    | some o, _ => .operator o
    | none, _ => .operand

/-! ## Conditions about one operand and two -/

/-- A condition about one operand. -/
def unary (letter : Char) (operand : Raw) : Act Bool := do
  if letter = 'z' then return operand.isEmpty
  else if letter = 'n' then return !operand.isEmpty
  else if letter = 't' then
    discard (Act.integer operand)
    return false
  else
    let entry? := ((← get).process.files.find (Raw.text operand)).toOption
    return match letter, entry? with
      | _, none => false
      | 'f', some (.file _) | 'f', some .program => true
      | 'd', some .folder => true
      | 'c', some (.device _) => true
      | 's', some (.file bytes) => !bytes.isEmpty
      | 's', some .folder | 's', some .program => true
      | 'x', some .folder | 'x', some .program => true
      | _, some _ => (lit "erwOG").contains letter

/-- A condition about two operands. -/
def binary (sign left right : Raw) : Act Bool := do
  let compared (p : Int → Int → Bool) : Act Bool := do
    let a ← Act.integer left
    let b ← Act.integer right
    return p a b
  match String.ofList sign with
  | "=" => return left = right
  | "!=" => return left ≠ right
  | "<" => return left < right
  | ">" => return right < left
  | "-eq" => compared fun a b => a = b
  | "-ne" => compared fun a b => a ≠ b
  | "-ge" => compared fun a b => b ≤ a
  | "-gt" => compared fun a b => b < a
  | "-le" => compared fun a b => a ≤ b
  | "-lt" => compared fun a b => a < b
  | "-ef" =>
    let files := (← get).process.files
    return match files.locate (Raw.text left), files.locate (Raw.text right) with
      | .ok (a, _), .ok (b, _) => a = b
      | _, _ => false
  | _ => return false

def argumentMissing {α : Type} (operator : Raw) : Act α := Act.fail (operator ++ lit ": argument expected")

/-! ## Expressions

Each reader is given the words from the one that it begins with, and gives back the words from the
last one that it used. -/

/-- What is read next: everything, what `-a` joins, one condition, or what follows `!`. -/
inductive Level where
  | any
  | all
  | maybeNot
  | one
  deriving DecidableEq, Repr

def read : Nat → Level → Role → List Raw → Act (Bool × List Raw)
  | 0, _, _, words => return (false, words)
  | bound + 1, .any, r, words => do
    let (first, words) ← read bound .all r words
    if role (words.drop 1) = .operator .or then
      let (more, words) ← read bound .any (role (words.drop 2)) (words.drop 2)
      return (first || more, words)
    else return (first, words)
  | bound + 1, .all, r, words => do
    let (first, words) ← read bound .maybeNot r words
    if role (words.drop 1) = .operator .and then
      let (more, words) ← read bound .all (role (words.drop 2)) (words.drop 2)
      return (first && more, words)
    else return (first, words)
  | bound + 1, .maybeNot, r, words => do
    if r = .operator .not then
      let next := role (words.drop 1)
      let (b, words) ← read bound .maybeNot next (if next = .ending then words else words.drop 1)
      return (!b, words)
    else read bound .one r words
  | bound + 1, .one, r, words => do
    match r, words with
    | .ending, _ => return (false, words)
    | .operator .opening, _ :: words =>
      let next := role words
      if next = .operator .closing then return (false, words)
      let (b, words) ← read bound .any next words
      if role (words.drop 1) ≠ .operator .closing then Act.fail (lit "closing paren expected")
      return (b, words.drop 1)
    | .operator (.unary letter), _ :: words =>
      match words with
      | operand :: _ => return (← unary letter operand, words)
      | [] => argumentMissing ['-', letter]
    | _, left :: sign :: rest =>
      match role (sign :: rest), rest with
      | .operator (.binary sign), right :: _ => return (← binary sign left right, rest)
      | .operator (.binary sign), [] => argumentMissing sign
      | _, _ => return (!left.isEmpty, words)
    | _, _ => return (!(words.headD []).isEmpty, words)

/-- Whether the condition in some words holds. -/
def evaluate : Nat → List Raw → Act Bool
  | 0, _ => return false
  | bound + 1, words => do
    let readAll (words : List Raw) (r : Role) : Act Bool := do
      let (b, rest) ← read (4 * words.length + 8) .any r words
      match rest with
      | word :: _ :: _ =>
        if word.isEmpty then Act.fail (lit "unexpected operator")
        Act.fail (word ++ lit ": unexpected operator")
      | _ => return b
    match words with
    | [] => return false
    | [left, sign, right] =>
      if isBinary sign then readAll words .operand
      else if left = ['('] ∧ right = [')'] then readAll [sign] (role [sign])
      else if left = ['!'] then return !(← evaluate bound [sign, right])
      else readAll words (role words)
    | [first, second, third, last] =>
      if first = ['('] ∧ last = [')'] then readAll [second, third] (role [second, third])
      else if first = ['!'] then return !(← evaluate bound [second, third, last])
      else readAll words (role words)
    | _ => readAll words (role words)

/-- The status of the command `test` or `[`. -/
def command (name : Raw) (words : List Raw) : Act Nat := do
  let inside ←
    if name = lit "[" then
      if words.getLast?.bind (·.head?) = some ']' then pure words.dropLast else Act.fail (lit "missing ]")
    else pure words
  return if ← evaluate 4 inside then 0 else 1

end DialogGrid.Script.Test
