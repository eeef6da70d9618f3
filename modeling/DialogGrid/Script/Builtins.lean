import DialogGrid.Script.Job

/-!
# The table of commands

The commands of the shell that do not run others, by name.
-/

namespace DialogGrid.Script.Builtin

/-- The command that a name means. -/
def named? (name : Raw) : Option Builtin :=
  match String.ofList name with
  | ":" | "true" => some fun _ => return 0
  | "false" => some fun _ => return 1
  | "echo" => some echo
  | "printf" => some printf
  | "test" | "[" => some (Test.command name)
  | "cd" | "chdir" => some cd
  | "pwd" => some pwd
  | "exit" => some exit
  | "return" => some returnNow
  | "break" => some (jumpLoops .leave)
  | "continue" => some (jumpLoops .again)
  | "set" => some setOptions
  | "shift" => some shift
  | "export" => some exportNames
  | "readonly" => some protectNames
  | "local" => some localNames
  | "unset" => some unsetNames
  | "read" => some readFields
  | "getopts" => some getopts
  | "trap" => some trap
  | "kill" => some kill
  | "alias" => some defineAliases
  | "unalias" => some removeAliases
  | "wait" => some wait
  | "bg" | "fg" => some moveJob
  | "jobs" => some listJobs
  | "umask" => some umask
  | "ulimit" => some ulimit
  | "times" => some times
  | _ => none

end DialogGrid.Script.Builtin
