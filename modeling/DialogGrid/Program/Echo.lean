import DialogGrid.Process
import DialogGrid.Program.Escapes

/-!
# Printing words

Words are printed with spaces between them and a line end. Options come first: `n` leaves out the
line end, `e` decodes escapes and `E` does not. A word with any other letter is no option.
-/

namespace DialogGrid.Program

/-- The letters of a word that holds options. -/
def echoLetters? : Raw → Option (List Char)
  | '-' :: first :: rest => if (first :: rest).all (lit "neE").contains then some (first :: rest) else none
  | _ => none

/-- The letters of all options, and the words after them. -/
def echoOptions : List Raw → List Char × List Raw
  | [] => ([], [])
  | word :: rest =>
    match echoLetters? word with
    | some letters =>
      let (more, words) := echoOptions rest
      (letters ++ more, words)
    | none => ([], word :: rest)

def echoEscapes : EscapeRules := { hexadecimal := true, zeroLead := true, stop := true }

def echo : Program := fun name words => do
  let (letters, words) := echoOptions words
  let (shown, stopped) :=
    if (letters.filter (· != 'n')).getLast? = some 'e' then echoEscapes.decodeWords words
    else ([' '].intercalate words, false)
  printOut name (if stopped ∨ letters.contains 'n' then shown else shown ++ ['\n'])

end DialogGrid.Program
