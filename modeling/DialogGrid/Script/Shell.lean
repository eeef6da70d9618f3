import DialogGrid.Script.Grammar
import DialogGrid.Signal

/-!
# Shells

A shell runs a script in a process. It has variables, functions, parameters and options; a command
changes them and ends with a status, or jumps to where a loop, a function, the script or the shell
ends. What a shell does in a copy of itself leaves nothing but files, what was printed, and signals.
-/

namespace DialogGrid.Script

structure Variable where
  value? : Option Raw := none
  exported : Bool := false
  readOnly : Bool := false
  deriving DecidableEq, Repr

/-- Programs that were started in the background together and have ended. -/
structure Job where
  /-- Where the job stands among the jobs, from one on. -/
  place : Nat
  /-- The number of the last program. -/
  number : Nat
  programs : Nat := 1
  status : Nat
  killedBy? : Option Nat := none
  waited : Bool := false
  deriving DecidableEq, Repr

/-- What a function that runs has made its own, as it was before. -/
structure Frame where
  bindings : List (Raw × Option Variable) := []
  options? : Option (List Char) := none

structure Shell where
  process : Process
  name : Raw
  /-- The command that messages name. -/
  speaker? : Option Raw := none
  line : Nat := 0
  /-- The line that reading has come to, in the text that is run and in the script of the shell. -/
  lineRead : Nat := 1
  scriptLineRead : Nat := 1
  bindings : List (Raw × Variable) := []
  functions : List (Raw × Command) := []
  parameters : List Raw := []
  options : List Char := []
  status : Nat := 0
  /-- The status of the last substitution in the words of a command. -/
  substituted : Nat := 0
  documents : Array Word := #[]
  aliases : List (Raw × Raw) := []
  /-- What is to be done at a signal; signal zero is the end of the shell. -/
  traps : List (Nat × Raw) := []
  /-- The signals that the shell never takes notice of, whatever is to be done at them. -/
  deafTo : List Nat := []
  /-- The status that was before what is being done at a signal. -/
  interrupted? : Option Nat := none
  /-- Whether this is a copy of the shell that has its number. -/
  isCopy : Bool := false
  /-- Whether the shell ends after the command that it is to run next, which may then take its place. -/
  isLast : Bool := false
  /-- The signal that ended the last program, if one did. -/
  killedBy? : Option Nat := none
  /-- The jobs that are remembered, the last one first. -/
  jobs : List Job := []
  lastJob? : Option Nat := none
  /-- The names of the programs whose place is known. -/
  placed : List Raw := []
  mask : Nat := 18
  /-- What a command of the shell itself printed, as long as it runs. -/
  unprinted : Raw := []
  /-- The number of the word that options are read from next. -/
  optionIndex : Nat := 1
  /-- How many characters of the current word were read as options. -/
  optionOffset : Nat := 0
  loops : Nat := 0
  /-- How many functions run, each called by the one before. -/
  calls : Nat := 0
  /-- What the functions that run have made their own, the innermost first. -/
  hidden : List Frame := []

/-- Remembers where a program is that was found by a name. -/
def Shell.place (s : Shell) (name : Raw) : Shell :=
  if name.contains '/' ∨ s.placed.contains name then s else { s with placed := name :: s.placed }

/-- Where a command goes on if not after itself. -/
inductive Jump where
  | leave (loops : Nat)
  | again (loops : Nat)
  | returned (given : Bool)
  | exit
  | failure
  | killed (signal : Nat)
  deriving DecidableEq, Repr

/-- What a shell does. -/
abbrev Act := EStateM Jump Shell

namespace Act

/-! ## Printing and messages -/

/-- Prints to a descriptor; whether that was possible. -/
def print (descriptor : Nat) (r : Raw) : Act Bool := do
  let s ← get
  match s.process.print descriptor r with
  | .ok process =>
    set { s with process }
    return true
  | .error _ => return false

/-- Prints a message with the name of the script and the line. -/
def warn (text : Raw) : Act Unit := do
  let s ← get
  let speaker := (s.speaker?.map (· ++ lit ": ")).getD []
  discard (print 2 (s.name ++ lit ": " ++ Text.ofNat s.line ++ lit ": " ++ speaker ++ text ++ lit "\n"))

def setStatus (status : Nat) : Act Unit := modify fun s => { s with status }

/-- Gives a message and goes where errors lead, with this status. -/
def failWith {α : Type} (status : Nat) (text : Raw) : Act α := do
  warn text
  setStatus status
  throw .failure

def fail {α : Type} (text : Raw) : Act α := failWith 2 text

/-- Adds to what a command of the shell itself prints, and ends it well. -/
def printOut (r : Raw) : Act Nat := do
  modify fun s => { s with unprinted := s.unprinted ++ r }
  return 0

/-- Passes on what a command printed; whether that was possible. -/
def passOn : Act Bool := do
  let r := (← get).unprinted
  modify fun s => { s with unprinted := [] }
  if r.isEmpty then return true else print 1 r

/-- Passes on what a command printed, and gives the status after that. -/
def endOutput (name : Raw) (status : Nat) : Act Nat := do
  if ← passOn then return status
  warn (name ++ lit ": I/O error")
  return status ||| 1

/-! ## Options and variables -/

def hasOption (letter : Char) : Act Bool := return (← get).options.contains letter

/-- Turns an option on or off. Of the two that choose an editor, the later one stays. -/
def setOption (letter : Char) (on : Bool) : Act Unit :=
  modify fun s =>
    let other := if on ∧ letter = 'V' then 'E' else if on ∧ letter = 'E' then 'V' else letter
    let others := s.options.filter fun c => c != letter && c != other
    { s with options := if on then letter :: others else others }

def stored? (name : Raw) : Act (Option Variable) := return (← get).bindings.lookup name

/-- The value of a variable that has one. -/
def value? (name : Raw) : Act (Option Raw) := return (← stored? name).bind (·.value?)

/-- Puts a variable in place of what had its name. -/
def putVariable (name : Raw) (new? : Option Variable) : Act Unit :=
  modify fun s =>
    let others := s.bindings.filter (·.1 != name)
    { s with bindings := match new? with
        | some v => (name, v) :: others
        | none => others }

/-- The name at the beginning of a word, up to an equals sign, if a variable can have it. -/
def nameOf (word : Raw) : Act Raw := do
  let name := word.takeWhile (· != '=')
  if isName name then return name else fail (name ++ lit ": bad variable name")

/-- Lets options be read again from a word on. -/
def resetOptions (index : Raw) : Act Unit := do
  match Text.natural? index with
  | some n => modify fun s => { s with optionIndex := max 1 n, optionOffset := 0 }
  | none => fail (lit "Illegal number: " ++ index)

/-- Gives a variable a value, whatever its name is. Where the search path changes, programs are looked for
again. -/
def store (name value : Raw) : Act Unit := do
  let old := (← stored? name).getD {}
  if old.readOnly then fail (name ++ lit ": is read only")
  putVariable name (some { old with value? := some value, exported := old.exported || (← hasOption 'a') })
  if name = lit "PATH" then modify fun s => { s with placed := [] }
  if name = lit "OPTIND" then resetOptions value

/-- Gives the variable that a word names a value. -/
def assign (word value : Raw) : Act Unit := do
  store (← nameOf word) value

/-- The characters that divide values into words. -/
def separators : Act Raw := return (← value? (lit "IFS")).getD (lit " \t\n")

/-- Changes what the function that runs has made its own. -/
def modifyFrame (f : Frame → Frame) : Act Unit :=
  modify fun s => { s with hidden := match s.hidden with
    | [] => []
    | frame :: frames => f frame :: frames }

/-- Keeps a variable as it is for the end of the function that runs. -/
def hide (name : Raw) : Act Unit := do
  let v ← stored? name
  modifyFrame fun frame => { frame with bindings := (name, v) :: frame.bindings }

/-- Keeps the options as they are for the end of the function that runs. -/
def hideOptions : Act Unit := do
  let options := (← get).options
  modifyFrame fun frame => { frame with options? := frame.options? <|> some options }

/-- The variables that a shell always has, with or without a value. -/
def lastingNames : List Raw :=
  [lit "IFS", lit "MAIL", lit "MAILPATH", lit "PATH", lit "PS1", lit "PS2", lit "PS4", lit "OPTIND"]

/-- Takes a variable's value away, and its marks too unless the shell or a function that runs keeps it.
The option to export all variables that change is heeded here too. -/
def forget (name : Raw) : Act Unit := do
  let lasts := lastingNames.contains name || (← get).hidden.any (·.bindings.any (·.1 == name))
  let bare? := (← stored? name).map fun v => { v with value? := none }
  if ← hasOption 'a' then putVariable name (some { bare?.getD {} with exported := true })
  else putVariable name (if lasts then bare? else none)

/-- Puts back what the last function that runs has made its own. A variable that was not there needs a
name that it can have. -/
def restoreFrame : Act Unit := do
  match (← get).hidden with
  | [] => return ()
  | frame :: frames =>
    modify fun s => { s with hidden := frames, options := frame.options?.getD s.options }
    frame.bindings.forM fun (name, v?) => do
      if v?.isNone then discard (nameOf name)
      putVariable name v?
      if v?.isNone then forget name

/-- Puts back what functions have made their own until so many of them run. -/
def restoreFrames (kept : Nat) : Act Unit := do
  ((← get).hidden.drop kept).forM fun _ => restoreFrame

/-- Does something with variables hidden, which are then as they were. Where the shell ends they stay
hidden for what is done last. -/
def withHidden {α : Type} (a : Act α) : Act α := do
  modify fun s => { s with hidden := {} :: s.hidden }
  let result ← try a catch j => do
    match j with
    | .leave _ | .again _ | .returned _ => restoreFrame
    | .exit | .failure | .killed _ => pure ()
    throw j
  restoreFrame
  return result

/-! ## Signals -/

/-- Whether a signal ends the shell. -/
def endsWith (signal : Nat) : Act Bool := do
  let s ← get
  return Signal.isDeadly signal && (s.traps.lookup signal).isNone && !s.process.ignored.contains signal

/-- Ends the shell if it was sent a signal that does so. A copy leaves signals to the shell that it
was made of. -/
def yieldToSignals : Act Unit := do
  let s ← get
  if s.isCopy then return ()
  for signal in s.process.received do
    if ← endsWith signal then throw (.killed signal)

/-- Tells that a program was ended by a signal, if that is worth a message. -/
def tellKilled (signal : Nat) : Act Unit := do
  if signal ≠ 2 ∧ signal ≠ 13 then discard (print 2 (Signal.description signal ++ lit "\n"))

end Act

/-! ## Copies -/

/-- The shell as it was, with what one that went on leaves. -/
def Shell.after (old new : Shell) : Shell := { old with process := old.process.afterChild new.process }

namespace Act

/-- Does something up to its end, with what is to be done last: the status at the end, or the signal that
was it. -/
def finish (a : Act Nat) (atExit : Act Unit) : Act (Except Nat Nat) := do
  let ended (j : Jump) : Act (Except Nat Nat) := do
    match j with
    | .killed signal => return .error signal
    | _ => return .ok (← get).status
  let result ← try pure (.ok (← a)) catch j => ended j
  match result with
  | .error signal => return .error signal
  | .ok status =>
    setStatus status
    try
      atExit
      return .ok status
    catch j => ended j

/-- Does something in a copy of the shell, which does at signals what every program does. What the copy
is to do last is `atExit`. -/
def copied (a : Act Nat) (atExit : Act Unit) : Act (Except Nat Nat) := do
  let outer ← get
  set { outer with
    isCopy := true
    isLast := true
    lineRead := outer.scriptLineRead
    traps := outer.traps.filter (·.2.isEmpty)
    jobs := [] }
  let result ← finish a atExit
  modify outer.after
  return result

/-- Whether a command may take the place of the shell: if it is the last one, and nothing is to be done
after it. -/
def takeLast : Act Bool := do
  let s ← get
  set { s with isLast := false }
  return s.isLast && s.traps.all (·.2.isEmpty)

/-- Takes the first place among the jobs that is free. A job that was waited for is forgotten there. -/
def takePlace : Act Nat := do
  let s ← get
  let isFree (place : Nat) : Bool := s.jobs.all fun job => job.place != place || job.waited
  let place := (((List.range (s.jobs.length + 1)).map (· + 1)).find? isFree).getD 1
  set { s with jobs := s.jobs.filter (·.place != place) }
  return place

/-- Lets the shell know that something ended that it started, if there is something to do then. -/
def noteEnd : Act Unit := do
  let s ← get
  if (s.traps.lookup Signal.childEnded).any (!·.isEmpty) ∧ ¬ s.isCopy then
    set { s with process := s.process.send s.process.number Signal.childEnded }

/-- Does something in a copy of the shell and waits for its status. -/
def inCopy (a : Act Nat) (atExit : Act Unit) : Act Nat := do
  discard takePlace
  let result ← copied a atExit
  noteEnd
  match result with
  | .ok status =>
    yieldToSignals
    return status % 256
  | .error signal =>
    tellKilled signal
    yieldToSignals
    return 128 + signal

/-- Does something in a copy of the shell, and takes what it prints. -/
def captured (a : Act Nat) (atExit : Act Unit) : Act (Raw × Nat) := do
  discard takePlace
  let outer ← get
  let (number, process) := outer.process.addChannel (.pipe [])
  set { outer with process := process.bind 1 number }
  let status ← inCopy a atExit
  modify outer.after
  return ((← get).process.printedTo number, status)

end Act

end DialogGrid.Script
