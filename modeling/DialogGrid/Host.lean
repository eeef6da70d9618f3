import DialogGrid.Files
import DialogGrid.Setting
import DialogGrid.Signal

/-!
# Hosts

What a session needs of the system that it runs on. Programs are started by name and run as functions of the
files: they print, leave messages and files, and end with a status or by a signal. Settings files are read as
settings.
-/

namespace DialogGrid

/-- How a program ends. -/
inductive Ending where
  | status (status : Nat)
  | signal (signal : Nat)
  deriving DecidableEq, Repr

/-- An ending in the words of the operating system. -/
def Ending.text : Ending → Text
  | status n => lit "exit status: " ++ Text.ofNat n
  | signal n =>
    lit "signal: " ++ Text.ofNat n ++ ((Signal.name? n).map fun name => lit " (SIG" ++ name ++ lit ")").getD []

/-- What a program leaves behind. -/
structure Run where
  ending : Ending
  output : List UInt8
  messages : List UInt8
  files : Files

/-- A system that sessions run on. -/
structure Host where
  /-- Runs a program with words, or says why it does not start. -/
  start : Files → Text → List Text → Except FileError Run
  /-- The settings of a file; `none` if it is not well formed. -/
  settings? : Text → Option Setting

end DialogGrid
