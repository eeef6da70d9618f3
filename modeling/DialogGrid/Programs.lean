import DialogGrid.Host
import DialogGrid.Script.Run

/-!
# Programs

The programs that may be started by name, run as functions of the files.
-/

namespace DialogGrid.Program

/-- The folders that programs are looked for in. -/
def searchPath : Text := lit "/usr/local/sbin:/usr/local/bin:/usr/sbin:/usr/bin:/sbin:/bin"

/-- The variables that programs are started with. Settings are kept in a folder of the working folder. -/
def environment (workingFolder : Raw) : List (Raw × Script.Variable) :=
  [(lit "PATH", { value? := some searchPath, exported := true }),
    (lit "HOME", { value? := some (lit "/root"), exported := true }),
    (lit "XDG_CONFIG_HOME", { value? := some (workingFolder ++ lit "/xdg"), exported := true })]

/-- The name of the program that is meant, or why it does not start. A file is no program, and
neither is a folder. -/
def find (fs : Files) (program : Text) : Except FileError Text :=
  if program.contains '/' then do
    match ← fs.locate program with
    | (place, .program) => return place.getLast?.getD []
    | _ => .error .denied
  else if Files.standardPrograms.contains program then .ok program
  else if program = lit "." ∨ program = lit ".." then .error .denied
  else if Files.isLongName program then .error .nameTooLong
  else .error .notFound

/-- Runs a program with words. It reads nothing, and what it prints is kept. -/
def start (fs : Files) (program : Text) (words : List Text) : Except FileError Run := do
  if (program :: words).any (·.contains '\x00') then .error .zeroInWord
  else
    let name ← find fs program
    let process : Process :=
      { files := fs
        channels := #[.device .null .read, .pipe [], .pipe []]
        descriptors := [(0, 0), (1, 1), (2, 2)] }
    let called := Raw.ofText program
    let environment := environment (Script.Builtin.pathOf fs.workingFolder)
    let words := words.map Raw.ofText
    let (result, after) :=
      if name = lit "sh" ∨ name = lit "dash" then
        (Script.shellProgram Script.runs environment called words).run process
      else
        let (status, shell) : Nat × Script.Shell :=
          match (Script.runProgram Script.runs name called words).run { process, name := called } with
          | .ok status shell => (status, shell)
          | .error _ shell => (shell.status, shell)
        (.ok status, shell.process)
    let ending : Ending := match result with
      | .ok status => .status status
      | .error signal => .signal signal
    return {
      ending
      output := (after.printedTo 1).bytes
      messages := (after.printedTo 2).bytes
      files := { after.files with workingFolder := fs.workingFolder } }

end DialogGrid.Program
