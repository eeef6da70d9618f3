import DialogGrid.Raw

/-!
# Signals

Signals are numbers, most of which have a name and words that say how a program ended by them.
Scripts name a signal either way, and have names of their own for some.
-/

namespace DialogGrid.Signal

/-- The names of the signals from number one on, and the words for an end by each. -/
def table : List (Text × Text) :=
  [(lit "HUP", lit "Hangup"), (lit "INT", lit "Interrupt"), (lit "QUIT", lit "Quit"),
    (lit "ILL", lit "Illegal instruction"), (lit "TRAP", lit "Trace/breakpoint trap"), (lit "ABRT", lit "Aborted"),
    (lit "BUS", lit "Bus error"), (lit "FPE", lit "Floating point exception"), (lit "KILL", lit "Killed"),
    (lit "USR1", lit "User defined signal 1"), (lit "SEGV", lit "Segmentation fault"),
    (lit "USR2", lit "User defined signal 2"), (lit "PIPE", lit "Broken pipe"), (lit "ALRM", lit "Alarm clock"),
    (lit "TERM", lit "Terminated"), (lit "STKFLT", lit "Stack fault"), (lit "CHLD", lit "Child exited"),
    (lit "CONT", lit "Continued"), (lit "STOP", lit "Stopped (signal)"), (lit "TSTP", lit "Stopped"),
    (lit "TTIN", lit "Stopped (tty input)"), (lit "TTOU", lit "Stopped (tty output)"),
    (lit "URG", lit "Urgent I/O condition"), (lit "XCPU", lit "CPU time limit exceeded"),
    (lit "XFSZ", lit "File size limit exceeded"), (lit "VTALRM", lit "Virtual timer expired"),
    (lit "PROF", lit "Profiling timer expired"), (lit "WINCH", lit "Window changed"), (lit "IO", lit "I/O possible"),
    (lit "PWR", lit "Power failure"), (lit "SYS", lit "Bad system call")]

/-- The largest number of a signal. -/
def last : Nat := 64

/-- The first of the numbers that mean what a program likes. -/
def firstFree : Nat := 34

/-- The signal that tells a program that one ended which it started. -/
def childEnded : Nat := 17

/-- The signals of a terminal, which what is started in the background takes no notice of. -/
def fromTerminal : List Nat := [2, 3]

def name? (signal : Nat) : Option Text := if signal = 0 then none else table[signal - 1]?.map (·.1)

/-- How a program ended that was ended by a signal. -/
def description (signal : Nat) : Text :=
  match if signal = 0 then none else table[signal - 1]? with
  | some (_, words) => words
  | none =>
    if firstFree ≤ signal then lit "Real-time signal " ++ Text.ofNat (signal - firstFree)
    else lit "Unknown signal " ++ Text.ofNat signal

/-- The name of a signal in scripts, where zero is the end of the shell. -/
def scriptName (signal : Nat) : Text :=
  if signal = 0 then lit "EXIT"
  else if signal = 16 ∨ signal = 32 ∨ signal = 33 then Text.ofNat signal
  else if signal < firstFree then (name? signal).getD []
  else
    let below := last - signal
    if signal = firstFree then lit "RTMIN"
    else if below = 0 then lit "RTMAX"
    else if below < 15 then lit "RTMAX-" ++ Text.ofNat below
    else lit "RTMIN+" ++ Text.ofNat (signal - firstFree)

/-- The signal that digits write. -/
def numbered? (r : Raw) : Option Nat := do
  let n ← Text.natural? r
  if n ≤ last then some n else none

/-- The signal that a script names, by number or from `least` on by name. -/
def named? (least : Nat) (r : Raw) : Option Nat :=
  numbered? r <|> ((List.range (last + 1)).drop least).find? fun signal => Text.upper (scriptName signal) = Text.upper r

/-- Whether a program ends that has no answer to a signal. -/
def isDeadly (signal : Nat) : Bool := 0 < signal && !([17, 18, 19, 20, 21, 22, 23, 28].contains signal)

end DialogGrid.Signal
