import DialogGrid.Process

/-!
# Options of programs

Options without values, as letters after a dash or as long names after two. They may stand between
the operands, up to a word of two dashes. A long name may be cut short where that leaves only one.
-/

namespace DialogGrid.Program

inductive Misuse where
  | unknownLetter (c : Char)
  | unknownName (word : Raw)
  | ambiguous (word : Raw) (names : List Raw)
  | needlessValue (name : Raw)
  deriving DecidableEq, Repr

def Misuse.message : Misuse → Raw
  | unknownLetter c => lit "invalid option -- '" ++ [c] ++ lit "'"
  | unknownName word => lit "unrecognized option '" ++ word ++ lit "'"
  | ambiguous word names =>
    lit "option '" ++ word ++ lit "' is ambiguous; possibilities:"
      ++ names.flatMap fun name => lit " '--" ++ name ++ lit "'"
  | needlessValue name => lit "option '--" ++ name ++ lit "' doesn't allow an argument"

/-- The options that a program knows: their letters, and the long names with the letters that they
stand for. -/
structure Options where
  letters : List Char
  names : List (Raw × Char)

/-- What was read of the words: the letters of options, what is wrong with the first option that is
not one, and the operands. -/
structure Usage where
  letters : List Char := []
  misuse? : Option Misuse := none
  operands : List Raw := []

namespace Options

/-- The letter that a long name stands for. -/
def named (o : Options) (word : Raw) : Except Misuse Char :=
  let (name, _) := Text.cutAt (word.drop 2) (· == '=')
  let fitting := o.names.filter fun (other, _) => name.isPrefixOf other
  let chosen : Except Misuse (Raw × Char) := match o.names.find? (·.1 == name), fitting with
    | some exact, _ => .ok exact
    | none, [one] => .ok one
    | none, [] => .error (.unknownName word)
    | none, several => .error (.ambiguous word (several.map (·.1)))
  match chosen with
  | .ok (found, letter) => if word.contains '=' then .error (.needlessValue found) else .ok letter
  | .error e => .error e

/-- Reads words up to the first that is wrong. -/
def read (o : Options) (words : List Raw) : Usage :=
  go {} words
where
  go (usage : Usage) : List Raw → Usage
    | [] => usage
    | word :: rest =>
      match word with
      | ['-', '-'] => { usage with operands := usage.operands ++ rest }
      | '-' :: '-' :: _ =>
        match o.named word with
        | .ok letter => go { usage with letters := usage.letters ++ [letter] } rest
        | .error e => { usage with misuse? := some e }
      | '-' :: first :: more =>
        match (first :: more).find? (!o.letters.contains ·) with
        | none => go { usage with letters := usage.letters ++ first :: more } rest
        | some unknown => { usage with misuse? := some (.unknownLetter unknown) }
      | _ => go { usage with operands := usage.operands ++ [word] } rest

end Options

end DialogGrid.Program
