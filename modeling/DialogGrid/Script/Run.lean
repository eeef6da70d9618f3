import DialogGrid.Program.Cat
import DialogGrid.Program.Echo
import DialogGrid.Script.Builtins
import DialogGrid.Script.Expansion

/-!
# Running scripts

A command runs in a shell and ends with a status. One step runs a command and is given how the
commands inside it run; a bound on how deep commands may be nested, calls of functions included,
makes of it how commands run. Lines are read and run one after the other.
-/

namespace DialogGrid.Script

open Act

/-- How commands inside a command run. Where their status is `tested` a failure does not end the
script, whatever the options say. -/
structure Runs where
  run : (tested : Bool) → Command → Act Nat
  depth : Nat

/-- How often a loop may go round. -/
def loopLimit : Nat := 10000000

/-! ## Lines -/

/-- The lines of a text that were read, at least in part, when `rest` is left of it. -/
def linesRead (text rest : Raw) : Raw :=
  let used := text.take (text.length - rest.length)
  if used.isEmpty ∨ used.getLast? = some '\n' then used
  else
    let others := text.drop used.length
    used ++ others.takeWhile (· != '\n') ++ (others.dropWhile (· != '\n')).take 1

/-- Where the lines of a text come from: from words, from a file that a script reads, or from the file or
the input that is the script of the shell itself. -/
inductive Source where
  | words
  | file
  | script
  deriving DecidableEq

/-- Reads a line of a script; a mistake in it is a failure. The lines of files are shown if the options say
so. -/
def nextLine (source : Source) (reader : Reader) : Act (Option (Command × Reader)) := do
  let s ← get
  let showLines (after : Reader) : Act Unit := do
    if source ≠ .words ∧ s.options.contains 'v' then discard (print 2 (linesRead reader.rest after.rest))
  match readLine.run { reader with documents := s.documents, aliases := s.aliases } with
  | .ok none after =>
    showLines after
    return none
  | .ok (some command) after =>
    showLines after
    modify fun s => { s with
      documents := after.documents
      lineRead := after.line
      scriptLineRead := if source = .script then after.line else s.scriptLineRead }
    return some (command, after)
  | .error mistake after =>
    showLines after
    modify fun s => { s with line := mistake.line }
    fail (lit "Syntax error: " ++ mistake.text)

/-- Runs the lines of a script, and gives the status of the last command. -/
def runLines (r : Runs) (tested : Bool) (source : Source) : Nat → Nat → Reader → Act Nat
  | 0, status, _ => return status
  | bound + 1, status, reader => do
    match ← nextLine source reader with
    | none => return status
    | some (command, reader) =>
      modify fun s => { s with isLast := false }
      let status ← match command with
        | .nothing => pure status
        | command => r.run tested command
      runLines r tested source bound status reader

def runText (r : Runs) (tested : Bool) (source : Source) (text : Raw) : Act Nat := do
  let lineRead := (← get).lineRead
  let restore : Act Unit := modify fun s => { s with lineRead }
  let status ← try
      runLines r tested source text.length.succ.succ 0 { rest := text.filter (· != '\x00') }
    catch j => do
      restore
      throw j
  restore
  return status

/-- Runs what is to be done at a signal, after which the status is as it was. -/
def runTrap (r : Runs) (text : Raw) : Act Unit := do
  let before ← get
  set { before with interrupted? := before.interrupted? <|> some before.status }
  let restore : Act Unit := modify fun s => { s with interrupted? := before.interrupted? }
  try discard (runText r false .words text) catch j => do
    restore
    match j with
    | .returned false | .leave _ | .again _ => setStatus before.status
    | _ => pure ()
    throw j
  restore
  setStatus before.status

/-- Does what the script wants done when its shell ends. -/
def runExitTrap (r : Runs) : Act Unit := do
  match (← get).traps.lookup 0 with
  | none => return ()
  | some text =>
    modify fun s => { s with traps := s.traps.filter (·.1 != 0) }
    let status := (← get).status
    try runTrap r text catch j =>
      match j with
      | .returned _ | .leave _ | .again _ => setStatus status
      | j => throw j

/-- Does what the script wants done at the signals that were sent to the shell. -/
def runTraps (r : Runs) : Act Unit := do
  let s ← get
  if s.isCopy then return ()
  let received := s.process.received
  set { s with process := { s.process with signals := s.process.signals.filter (·.1 != s.process.number) } }
  for signal in (List.range Signal.last).map (· + 1) do
    if received.contains signal ∧ ¬ s.process.ignored.contains signal then
      match s.traps.lookup signal with
      | some text => runTrap r text
      | none => pure ()

def Runs.copied (r : Runs) (a : Act Nat) : Act Nat := inCopy a (runExitTrap r)

def Runs.runner (r : Runs) : Runner := ⟨r.run false, runExitTrap r, r.depth⟩

/-! ## Redirections -/

/-- A redirection whose words are expanded, apart from documents. No source closes the descriptor. -/
inductive Opened where
  | file (descriptor : Nat) (how : Opening) (path : Raw)
  | copy (descriptor : Nat) (source? : Option Nat)
  | document (descriptor : Nat) (w : Word)

def Opened.descriptor : Opened → Nat
  | file descriptor _ _ | copy descriptor _ | document descriptor _ => descriptor

/-- Whether a descriptor becomes what it is. -/
def Opened.isIdle : Opened → Bool
  | copy descriptor source? => source? = some descriptor
  | _ => false

def expandRedirection (r : Runner) : Redirection → Act Opened
  | .file descriptor how path => return .file descriptor how (← r.text path)
  | .copy descriptor source => do
    match ← r.text source with
    | ['-'] => return .copy descriptor none
    | [c] =>
      if c.isDigit then return .copy descriptor (some (c.toNat - '0'.toNat)) else refused
    | _ => refused
  | .document descriptor number => return .document descriptor ((← get).documents[number]?.getD [])
where
  refused : Act Opened := do
    modify fun s => { s with line := s.lineRead }
    fail (lit "Syntax error: Bad fd number")

/-- Why a file cannot be opened, in the words of a shell. -/
def openReason (how : Opening) (e : FileError) : Raw :=
  match e with
  | .notFound | .notFolder => if how = .read then lit "No such file" else lit "Directory nonexistent"
  | e => e.description.1

/-- Makes a redirection. A descriptor that is `setAside` is closed until it is open again, so that a message
on the way there has no place if that is where messages go. -/
def redirect (r : Runner) (setAside : Bool) (o : Opened) : Act Unit := do
  let s ← get
  match o with
  | .file descriptor how path =>
    let guarded := how = .create && s.options.contains 'C'
    let isThere := match s.process.files.find (Raw.text path) with
      | .ok (.device (.stream descriptor)) => (s.process.channel? descriptor).isSome
      | .ok _ => true
      | .error _ => false
    let verb := if how = .read || guarded && isThere then lit "open " else lit "create "
    let refused (reason : Raw) : Act Unit := fail (lit "cannot " ++ verb ++ path ++ lit ": " ++ reason)
    if guarded ∧ s.process.isFile (Raw.text path) then
      fail (lit "cannot create " ++ path ++ lit ": File exists")
    else
      match s.process.openPath (Raw.text path) how with
      | .ok (number, process) => set { s with process := process.bind descriptor number }
      | .error e => refused (openReason how e)
  | .copy descriptor none => set { s with process := s.process.close descriptor }
  | .copy descriptor (some source) =>
    match s.process.descriptors.lookup source with
    | some number => set { s with process := s.process.bind descriptor number }
    | none =>
      if setAside then set { s with process := s.process.close descriptor }
      fail (Text.ofNat source ++ lit ": " ++ FileError.notOpen.description.1)
  | .document descriptor w =>
    let text ← r.document w
    let s ← get
    let (number, process) := s.process.addChannel (.source text)
    set { s with process := process.bind descriptor number }

/-- Makes redirections. Where descriptors are `kept` to be as they were again, each is set aside when it is
first redirected. -/
def redirectAll (r : Runner) (kept : Bool) (opened : List Opened) : Act Unit := do
  discard (opened.foldlM (fun moved o => do
    if o.isIdle then return moved
    redirect r (kept && !moved.contains o.descriptor) o
    return o.descriptor :: moved) [])

/-- The descriptors that redirections change. -/
def touched (opened : List Opened) : List Nat := (opened.filter (!·.isIdle)).map (·.descriptor)

/-- Makes redirections that stay; whether that was possible. -/
def redirected (r : Runner) (kept : Bool) (opened : List Opened) : Act Bool := do
  try
    redirectAll r kept opened
    return true
  catch j => if j = .failure then return false else throw j

/-- Does something with descriptors redirected, which are then as they were. What to do where a
redirection fails is said apart. -/
def redirecting {α : Type} (r : Runner) (kept : Bool) (opened : List Opened) (a onFailure : Act α) : Act α := do
  let before := (← get).process
  let restore : Act Unit := modify fun s => { s with process := s.process.restore before (touched opened) }
  let done ← redirected r kept opened
  let result ← try (if done then a else do restore; onFailure) catch j => do
    restore
    throw j
  restore
  return result

/-! ## Programs -/

/-- The program that a name means, and the status and the message where there is none. -/
def findProgram (name : Raw) : Act (Except (Nat × Raw) Raw) := do
  let s ← get
  let files := s.process.files
  if name.contains '/' then
    match files.locate (Raw.text name) with
    | .ok (place, .program) => return .ok (Raw.ofText (place.getLast?.getD []))
    | .ok _ => return .error (126, FileError.denied.description.1)
    | .error .notFound | .error .notFolder => return .error (127, lit "not found")
    | .error e => return .error (if e = .nameTooLong then 127 else 126, e.description.1)
  else
    let folders := ((← value? (lit "PATH")).getD []).splitOn ':'
    let found := folders.map fun folder =>
      files.locate (Raw.text (folder ++ (if folder.isEmpty then [] else ['/']) ++ name))
    let isProgram : Except FileError (Place × Entry) → Bool
      | .ok (_, .program) => true
      | _ => false
    if found.any isProgram then return .ok name
    else if found.any (·.isOk) then return .error (126, FileError.denied.description.1)
    else return .error (127, lit "not found")

/-- The variables that programs are given. -/
def environment (bindings : List (Raw × Variable)) : List (Raw × Variable) :=
  bindings.filterMap fun (name, v) =>
    if v.exported ∧ v.value?.isSome then some (name, { v with readOnly := false }) else none

/-- The words after the options of a shell, whether they begin with a script, and the options. -/
structure Invocation where
  command : Bool := false
  words : List Raw := []

/-- Reads the options that a shell is started with. -/
def readInvocation : Nat → Invocation → Act Invocation
  | 0, i => return i
  | bound + 1, i => do
    match i.words with
    | ['-'] :: rest | ['-', '-'] :: rest => return { i with words := rest }
    | (sign :: letters) :: rest =>
      if sign = '-' ∨ sign = '+' then
        let rest ← Builtin.setLetters true (sign = '-') (letters.filter fun c => c != 'c' && c != 'l') rest
        readInvocation bound { command := i.command || letters.contains 'c', words := rest }
      else return i
    | _ => return i

/-- Runs a shell with the words after its name. -/
def runShell (r : Runs) (words : List Raw) : Act Nat := do
  let i ← readInvocation words.length.succ { words }
  if (← hasOption 'i') || (← hasOption 'm') then Builtin.refuseJobControl
  let fromInput ← hasOption 's'
  match i.command, i.words with
  | true, [] => fail (lit "-c requires an argument")
  | true, script :: rest =>
    modify fun s => { s with name := rest.headD s.name, parameters := rest.drop 1, line := 1 }
    runText r false .words script
  | false, words =>
    match fromInput, words with
    | true, _ | _, [] =>
      let script := ((← get).process.remaining 0).toOption.getD []
      modify fun s => { s with process := s.process.skip 0 script.length, line := 1, parameters := words }
      runText r false .script script
    | false, path :: rest => runFile path rest
where
  runFile (path : Raw) (rest : List Raw) : Act Nat := do
    match (← get).process.readPath (Raw.text path) with
    | .ok (script, process) =>
      modify fun s => { s with name := path, parameters := rest, line := 1, process }
      runText r false .script script
    | .error .isFolder => return 0
    | .error e => fail (lit "cannot open " ++ path ++ lit ": " ++ openReason .read e)

/-- The variables that a shell begins with, given those of the program that starts it. -/
def initialVariables (process : Process) (environment : List (Raw × Variable)) : List (Raw × Variable) :=
  let own : List (Raw × Variable) :=
    [(lit "IFS", { value? := some (lit " \t\n") }), (lit "OPTIND", { value? := some (lit "1") }),
      (lit "PWD", { value? := some (Builtin.pathOf process.files.workingFolder), exported := true }),
      (lit "PPID", { value? := some (Text.ofNat process.parent) })]
  let others : List (Raw × Variable) :=
    [(lit "PATH", { value? := some (lit "/usr/local/sbin:/usr/local/bin:/usr/sbin:/usr/bin:/sbin:/bin") }),
      (lit "PS1", { value? := some (lit "# ") }), (lit "PS2", { value? := some (lit "> ") }),
      (lit "PS4", { value? := some (lit "+ ") })]
  let isNew (known : List (Raw × Variable)) (v : Raw × Variable) : Bool := (known.lookup v.1).isNone
  own ++ environment.filter (isNew own) ++ others.filter (isNew environment)

/-- A shell as a program. Whether it was killed, and by which signal, shows in the result. -/
def shellProgram (r : Runs) (environment : List (Raw × Variable)) (name : Raw) (words : List Raw) :
    StateM Process (Except Nat Nat) := fun process =>
  let start : Shell :=
    { process, name, bindings := initialVariables process environment, deafTo := process.ignored }
  match (finish (runShell r words) (runExitTrap r)).run start with
  | .ok result s => (result.map (· % 256), { s.process with descriptors := process.descriptors })
  | .error _ s => (.ok s.status, s.process)

/-- Runs a program by its own name; `called` is the name that it is called by. -/
def runProgram (r : Runs) (name called : Raw) (words : List Raw) : Act Nat := do
  let s ← get
  let started {α : Type} (p : Raw → List Raw → StateM Process α) : Act α := do
    let (result, process) := (p called words).run s.process.child
    set { s with process := s.process.afterChild process }
    return result
  match String.ofList name with
  | "cat" => started Program.cat
  | "echo" => started Program.echo
  | "true" => return 0
  | "false" => return 1
  | "sh" | "dash" =>
    match ← started (shellProgram r (environment s.bindings)) with
    | .ok status =>
      yieldToSignals
      return status
    | .error signal =>
      modify fun s => { s with killedBy? := some signal }
      yieldToSignals
      return 128 + signal
  | _ =>
    match Builtin.named? name with
    | some builtin => inCopy (do endOutput called (← builtin words)) (pure ())
    | none => return 127

/-- Finds a program and runs it. If it is `last` a signal that ends it ends the shell. -/
def runNamed (r : Runs) (last : Bool) (name : Raw) (words : List Raw) : Act Nat := do
  match ← findProgram name with
  | .ok program =>
    if ¬ last then discard takePlace
    modify fun s => { s with killedBy? := none }
    modify (Shell.place · name)
    let status ← runProgram r program name words
    if ¬ last then noteEnd
    if let some signal := (← get).killedBy? then
      if last then throw (.killed signal) else tellKilled signal
    return status
  | .error (status, reason) =>
    warn (name ++ lit ": " ++ reason)
    return if name.contains '/' then status else 127

/-! ## Commands that run others -/

/-- Runs the text that words make. -/
def eval (r : Runs) (tested : Bool) : Builtin := fun words => do
  let old := (← get).line
  let status ← runText r tested .words ([' '].intercalate words)
  modify fun s => { s with line := old }
  return status

/-- Does something up to where it returns early. -/
def untilReturn (a : Act Nat) : Act Nat := do
  try a catch j =>
    match j with
    | .returned _ => return (← get).status
    | j => throw j

/-- Runs the lines of a file, whose failures count even if that of the file does not. A name without a slash
is looked for where programs are. -/
def source (r : Runs) : Builtin := fun words => do
  let (_, words) ← Builtin.options [] words
  match words with
  | [] => return 0
  | name :: _ =>
    let s ← get
    let folders := ((← value? (lit "PATH")).getD []).splitOn ':'
    let candidates := if name.contains '/' then [name] else folders.map (· ++ '/' :: name)
    let path ← match candidates.find? fun path => s.process.files.isFile (Raw.text path) with
      | some path => pure path
      | none => if name.contains '/' then pure name else fail (name ++ lit ": not found")
    match s.process.readPath (Raw.text path) with
    | .error e => fail (lit "cannot open " ++ path ++ lit ": " ++ openReason .read e)
    | .ok (text, process) =>
      set { s with process, speaker? := some path }
      untilReturn (runText r false .file text)

/-- Runs a program in place of the shell. Without words only redirections stay. -/
def exec (r : Runs) : Builtin := fun words => do
  match words with
  | [] => return 0
  | name :: words =>
    match ← findProgram name with
    | .ok program =>
      modify fun s => { s with traps := s.traps.filter (·.2.isEmpty), killedBy? := none }
      setStatus (← runProgram r program name words)
      if let some signal := (← get).killedBy? then throw (.killed signal)
    | .error (status, reason) =>
      warn (name ++ lit ": " ++ reason)
      setStatus status
    throw .exit

/-! ## What names mean -/

/-- The names of the commands of the shell that run others or tell what names mean. -/
def otherBuiltins : List Raw :=
  [lit ".", lit "command", lit "eval", lit "exec", lit "hash", lit "type"]

def isBuiltin (name : Raw) : Bool := (Builtin.named? name).isSome || otherBuiltins.contains name

/-- Where a program lies that was found by its name. -/
def programPath (name : Raw) : Raw := if name.contains '/' then name else lit "/usr/bin/" ++ name

/-- Says what names mean as commands, shortly or in words. -/
def describe (short : Bool) : Builtin := fun names => do
  names.foldlM (fun status name => do
    let shown (brief long : Raw) : Act Nat := do
      discard (printOut ((if short then brief else name ++ lit " is " ++ long) ++ ['\n']))
      return status
    let s ← get
    match s.aliases.lookup name, s.functions.lookup name with
    | some value, _ =>
      let line := name ++ '=' :: Builtin.quotedValue value
      if keywords.contains name then shown name (lit "a shell keyword")
      else shown (lit "alias " ++ line) (lit "an alias for " ++ value)
    | none, some _ =>
      shown name (if keywords.contains name then lit "a shell keyword" else lit "a shell function")
    | none, none =>
      if keywords.contains name then shown name (lit "a shell keyword")
      else if specialBuiltins.contains name then shown name (lit "a special shell builtin")
      else if isBuiltin name then shown name (lit "a shell builtin")
      else
        let found ← findProgram name
        let isThere := if name.contains '/' then (s.process.files.find (Raw.text name)).isOk else found.isOk
        let known := if s.placed.contains name then lit "a tracked alias for " else []
        if isThere then
          modify (Shell.place · name)
          shown (programPath name) (known ++ programPath name)
        else
          if ¬ short then discard (printOut (name ++ lit ": not found\n"))
          return 127) 0

/-- Looks for programs and remembers where they are, or shows where the known ones are. -/
def locate : Builtin := fun words => do
  let (letters, words) ← Builtin.options ['r'] words
  if ¬ letters.isEmpty then
    modify fun s => { s with placed := [] }
    return 0
  let s ← get
  if words.isEmpty then
    let sorted := s.placed.mergeSort fun a b => decide (Builtin.rank 31 a ≤ Builtin.rank 31 b)
    return ← printOut (sorted.flatMap fun name => programPath name ++ ['\n'])
  words.foldlM (fun status name => do
    if name.contains '/' ∨ isBuiltin name ∨ (s.functions.lookup name).isSome then return status
    match ← findProgram name with
    | .ok _ =>
      modify fun s => { s with placed := name :: s.placed.filter (· != name) }
      return status
    | .error (_, reason) =>
      warn (name ++ lit ": " ++ reason)
      return 1) 0

/-- The commands of the shell that run others or tell what names mean. -/
def running? (r : Runs) (tested : Bool) (name : Raw) : Option Builtin :=
  match String.ofList name with
  | "eval" => some (eval r tested)
  | "." => some (source r)
  | "exec" => some (exec r)
  | "hash" => some locate
  | "type" => some (describe false)
  | _ => none

/-! ## Simple commands -/

/-- What a name means as a command. -/
inductive Meaning where
  | function (body : Command)
  | builtin (b : Builtin) (special : Bool)
  | program

def meaning (r : Runs) (tested : Bool) (functions : Bool) (name : Raw) : Act Meaning := do
  let s ← get
  match if functions then s.functions.lookup name else none, running? r tested name <|> Builtin.named? name with
  | some body, _ => return .function body
  | none, some b => return .builtin b (specialBuiltins.contains name)
  | none, none => return .program

/-- How many functions may run at once. -/
def callLimit : Nat := 1000

/-- Runs a function. -/
def call (r : Runs) (tested : Bool) (body : Command) (words : List Raw) : Act Nat := do
  let before ← get
  if callLimit ≤ before.calls then
    fail (lit "Maximum function recursion depth (" ++ Text.ofNat callLimit ++ lit ") reached")
  modify fun s => { s with
    parameters := words
    calls := s.calls + 1
    loops := 0
    optionIndex := 1
    optionOffset := 0 }
  let restore : Act Unit := modify fun s => { s with
    calls := before.calls
    parameters := before.parameters
    loops := before.loops
    optionIndex := before.optionIndex
    optionOffset := before.optionOffset }
  let status ← try withHidden (untilReturn (r.run tested body)) catch j => do
    restore
    throw j
  restore
  return status

/-- Runs a builtin under its name. A failure ends the script only if the builtin is special. -/
def runBuiltin (name : Raw) (b : Builtin) (special : Bool) (words : List Raw) : Act Nat := do
  let speaker? := (← get).speaker?
  modify fun s => { s with speaker? := some name }
  let frames := (← get).hidden.length
  let restore : Act Unit := modify fun s => { s with speaker? }
  let status ← try
      endOutput name (← b words)
    catch j => do
      discard passOn
      restore
      if j = .failure ∧ ¬ special then
        restoreFrames frames
        return (← get).status
      else throw j
  restore
  return status

/-- Runs what a name means with words. -/
def runMeaning (r : Runs) (tested : Bool) (name : Raw) (words : List Raw) (m : Meaning) : Act Nat := do
  let last ← takeLast
  match m with
  | .function body => call r tested body words
  | .builtin b special => runBuiltin name b special words
  | .program => runNamed r last name words

/-- What is shown before the words of a command: the value of a variable, expanded. -/
def traceLead (r : Runs) : Act Raw := do
  let text := (← value? (lit "PS4")).getD []
  match (partsWithin (2 * text.length + 8) .document).run { rest := text } with
  | .ok w _ => r.runner.document w
  | .error _ _ => return text

/-- Shows the words of a command if the options say so, where messages went before its redirections. -/
def traceWords (r : Runs) (messages? : Option Nat) (words : List Raw) : Act Unit := do
  match messages?, (← hasOption 'x') && !words.isEmpty with
  | some number, true =>
    setOption 'x' false
    let lead ← traceLead r
    setOption 'x' true
    let shown := lead ++ [' '].intercalate words ++ ['\n']
    let s ← get
    match (s.process.bind 2 number).print 2 shown with
    | .ok process => set { s with process := { process with descriptors := s.process.descriptors } }
    | .error _ => return ()
  | _, _ => return ()

/-- The words after `command`, with options only if they ask what a name means; whether they name a
command to run. -/
def commandWords (inOptions : Bool) : List Raw → Bool × List Raw
  | [] => (true, [])
  | word :: rest =>
    if word = lit "command" then commandWords true rest
    else if ¬ inOptions then (true, word :: rest)
    else
      match word with
      | ['-', '-'] => commandWords false rest
      | '-' :: letter :: letters =>
        if (letter :: letters).all (· == 'p') then commandWords true rest else (false, word :: rest)
      | word => (true, word :: rest)

/-- Whether the words after these may be assignments, which are values and not divided. -/
def takesAssignments (fields : List Raw) : Act Bool := do
  let declares (name : Raw) : Bool := [lit "alias", lit "export", lit "local", lit "readonly"].contains name
  match fields with
  | [] => return false
  | name :: words =>
    if ((← get).functions.lookup name).isSome then return false
    if name = lit "command" then
      match commandWords true words with
      | (true, name :: _) => return declares name
      | _ => return false
    return declares name

/-- The fields of words. -/
def expandWords (r : Runner) (words : List Word) : Act (List Raw) := do
  words.foldlM (fun fields w => do
    match ← takesAssignments fields, w.assignment? with
    | true, some (name, value) => return fields ++ [name ++ '=' :: (← r.value value)]
    | _, _ => return fields ++ (← r.fields w)) []

/-- Runs a command with its fields, after redirections and assignments. -/
def runFields (r : Runs) (tested : Bool) (name : Raw) (words : List Raw) : Act Nat := do
  if name = lit "command" then
    match commandWords true words with
    | (true, []) => return 0
    | (true, name :: words) =>
      match ← meaning r tested false name with
      | .builtin b _ => runMeaning r tested name words (.builtin b false)
      | m => runMeaning r tested name words m
    | (false, words) =>
      runBuiltin name (fun words => do
        let (letters, words) ← Builtin.options (lit "pvV") words
        describe (!letters.contains 'V') (words.take 1)) false words
  else runMeaning r tested name words (← meaning r tested true name)

/-- Makes the assignments of a command. -/
def assignAll (r : Runner) (own : Bool) (assignments : List (Raw × Word)) : Act (List Raw) :=
  assignments.mapM fun (name, value) => do
    let value ← r.value value
    if own then hide name
    assign name value
    if own then putVariable name ((← stored? name).map fun v => { v with exported := true })
    return name ++ '=' :: value

def runSimple (r : Runs) (tested last : Bool) (line : Nat) (assignments : List (Raw × Word)) (words : List Word)
    (redirections : List Redirection) : Act Nat := do
  modify fun s => { s with line, substituted := 0 }
  let before := (← get).process
  let messages? := before.descriptors.lookup 2
  let fields ← expandWords r.runner words
  let opened ← redirections.mapM (expandRedirection r.runner)
  match fields with
  | [] =>
    redirecting r.runner true opened (do
      traceWords r messages? (← assignAll r.runner false assignments)
      return (← get).substituted) (return 2)
  | name :: words =>
    let isFunction := ((← get).functions.lookup name).isSome
    let special := specialBuiltins.contains name && !isFunction
    let onFailure : Act Nat := if special then throw .failure else return 2
    if special then
      let run : Act Nat := do
        let replaces := name = lit "exec" && !words.isEmpty
        traceWords r messages? ((← assignAll r.runner false assignments) ++ fields)
        if replaces then
          assignments.forM fun (name, _) => do
            putVariable name ((← stored? name).map fun v => { v with exported := true })
        modify fun s => { s with isLast := last }
        runFields r tested name words
      if name = lit "exec" ∧ words.isEmpty then
        if ← redirected r.runner true opened then run
        else
          modify fun s => { s with process := s.process.restore before (touched opened) }
          throw .failure
      else redirecting r.runner true opened run onFailure
    else
      let run : Act Nat := withHidden do
        traceWords r messages? ((← assignAll r.runner true assignments) ++ fields)
        modify fun s => { s with isLast := last }
        runFields r tested name words
      let (runs, named) := commandWords true words
      if name = lit "command" ∧ runs ∧ named.head? = some (lit "exec") then
        if ← redirected r.runner true opened then run else onFailure
      else redirecting r.runner true opened run onFailure

/-! ## Pipes and loops -/

/-- Finds the program of a command that is to run in a copy of the shell. -/
def placeAhead (c : Command) : Act Unit := do
  if let .simple _ _ (w :: _) _ := c then
    if let some name := Word.plain? w then
      if isName name ∧ ¬ isBuiltin name ∧ ((← get).functions.lookup name).isNone then
        if (← findProgram name).isOk then modify (Shell.place · name)

/-- Runs commands each in a copy of the shell, with the output of one as the input of the next. -/
def runPipes (r : Runs) (tested : Bool) : List Command → Act Nat
  | [] => return 0
  | [last] => do
    placeAhead last
    r.copied (r.run tested last)
  | first :: rest => do
    placeAhead first
    let (printed, _) ← captured (r.run tested first) (runExitTrap r)
    let s ← get
    let (number, process) := s.process.addChannel (.source printed)
    set { s with process := process.bind 0 number }
    let status ← runPipes r tested rest
    modify fun after => { after with process := { after.process with descriptors := s.process.descriptors } }
    return status

/-- Goes round a loop until a step says that it is over. -/
def iterate (step : Nat → Act (Bool × Nat)) : Nat → Nat → Act Nat
  | 0, _ => throw (.killed 9)
  | bound + 1, status => do
    let (goesOn, status) ← step status
    if goesOn then iterate step bound status else return status

/-- Runs a part of a loop: whether the loop goes on, and the status. -/
def inLoop (a : Act (Bool × Nat)) : Act (Bool × Nat) := do
  let loops := (← get).loops
  modify fun s => { s with loops := loops + 1 }
  let restore : Act Unit := modify fun s => { s with loops }
  let result ← try a catch j => do
    restore
    match j with
    | .leave n => if n ≤ 1 then return (false, (← get).status) else throw (.leave (n - 1))
    | .again n => if n ≤ 1 then return (true, (← get).status) else throw (.again (n - 1))
    | j => throw j
  restore
  return result

/-- Runs a loop. A jump from its test leaves the status of the loop as it is, unless a status is given. -/
def runLoop (r : Runs) (tested untilTrue : Bool) (test body : Command) : Act Nat :=
  iterate (fun status => inLoop do
    let tried ← try r.run true test catch j => do
      match j with
      | .leave _ | .again _ | .returned false => setStatus status
      | _ => pure ()
      throw j
    if (tried = 0) = untilTrue then return (false, status)
    return (true, ← r.run tested body)) loopLimit 0

def runEach (r : Runs) (tested : Bool) (name : Raw) (body : Command) : List Raw → Nat → Act Nat
  | [], status => return status
  | value :: rest, _ => do
    assign name value
    let (goesOn, status) ← inLoop do return (true, ← r.run tested body)
    if goesOn then runEach r tested name body rest status else return status

/-- Runs the first case of which a pattern fits. -/
def runChoice (r : Runs) (run : Command → Act Nat) (subject : Raw) : List (List Word × Command) → Act Nat
  | [] => return 0
  | (patterns, body) :: rest => do
    let fits ← patterns.foldlM (fun fits w => do
      if fits then return true
      return Pattern.fits (← r.runner.pattern w) subject) false
    if fits then
      match body with
      | .nothing => return 0
      | body => run body
    else runChoice r run subject rest

/-! ## Commands -/

/-- Ends the script after a failure if the options say so. -/
def checkFailure (tested : Bool) (status : Nat) : Act Nat := do
  setStatus status
  if status ≠ 0 ∧ ¬ tested ∧ (← hasOption 'e') then throw .exit
  return status

/-- Does the same where a command returns early. -/
def checkReturn (tested : Bool) (a : Act Nat) : Act Nat := do
  try a catch j => do
    match j with
    | .returned _ => discard (checkFailure tested (← get).status)
    | _ => pure ()
    throw j

/-- Remembers the status of a command. -/
def remember (a : Act Nat) : Act Nat := do
  let status ← a
  setStatus status
  return status

/-- Does something in a copy of the shell. If that is `last` a signal that ends the copy ends the shell. -/
def runCopy (r : Runs) (last : Bool) (a : Act Nat) : Act Nat := do
  if ¬ last then return ← r.copied a
  match ← Act.copied a (runExitTrap r) with
  | .ok status =>
    yieldToSignals
    return status % 256
  | .error signal => throw (.killed signal)

/-- One step of running a command, apart from what is done at signals. -/
def Command.stepAlone (r : Runs) (tested : Bool) (c : Command) : Act Nat := do
  if ← hasOption 'n' then return 0
  let last ← takeLast
  let runLast (body : Command) : Act Nat := do
    modify fun s => { s with isLast := last }
    r.run tested body
  match c with
  | .nothing => return (← get).status
  | .simple line assignments words redirections =>
    checkFailure tested (← checkReturn tested (runSimple r tested last line assignments words redirections))
  | .pipeline commands =>
    checkFailure tested (← runPipes r tested commands)
  | .negation body =>
    remember do return if (← r.run true body) = 0 then 1 else 0
  | .both first second =>
    let status ← r.run true first
    if status = 0 then remember (runLast second) else return status
  | .either first second =>
    let status ← r.run true first
    if status = 0 then return status else remember (runLast second)
  | .sequence first second =>
    discard (r.run tested first)
    remember (runLast second)
  | .background line body =>
    let place ← takePlace
    let programs := match body with
      | .pipeline commands => commands.length
      | _ => 1
    let number := (← get).process.lastNumber + 1
    modify fun s => { s with line, process := { s.process with lastNumber := number } }
    let result ← Act.copied (do
      let s ← get
      let (number, process) := s.process.addChannel (.device .null .read)
      let ignored := Signal.fromTerminal ++ process.ignored
      set { s with process := { process.bind 0 number with ignored }, deafTo := Signal.fromTerminal ++ s.deafTo }
      r.run false body) (runExitTrap r)
    noteEnd
    let job : Job := match result with
      | .ok status => { place, number, programs, status := status % 256 }
      | .error signal => { place, number, programs, status := 128 + signal, killedBy? := some signal }
    modify fun s => { s with jobs := job :: s.jobs, lastJob? := some number }
    yieldToSignals
    remember (return 0)
  | .branch test yes no =>
    let status ← r.run true test
    match status, no with
    | 0, _ => remember (runLast yes)
    | _, .nothing => remember (return 0)
    | _, no => remember (runLast no)
  | .loop untilTrue test body => remember (runLoop r tested untilTrue test body)
  | .each line name words body =>
    modify fun s => { s with line }
    let values ← words.flatMapM r.runner.fields
    remember (runEach r tested name body values 0)
  | .choice line subject cases =>
    modify fun s => { s with line }
    let subject ← r.runner.text subject
    remember (runChoice r runLast subject cases)
  | .subshell line body =>
    modify fun s => { s with line }
    checkFailure tested (← runCopy r last (r.run tested body))
  | .redirected line (.subshell _ body) redirections =>
    modify fun s => { s with line }
    let opened ← redirections.mapM (expandRedirection r.runner)
    checkFailure tested (← runCopy r last do
      let ends ← takeLast
      redirectAll r.runner false opened
      modify fun s => { s with isLast := ends }
      r.run tested body)
  | .redirected line body redirections =>
    modify fun s => { s with line }
    let opened ← redirections.mapM (expandRedirection r.runner)
    remember (redirecting r.runner true opened (r.run tested body) (return 2))
  | .definition name body =>
    modify fun s => { s with functions := (name, body) :: s.functions.filter (·.1 != name) }
    remember (return 0)

/-- One step of running a command, and of what is to be done at signals. -/
def Command.step (r : Runs) (tested : Bool) (c : Command) : Act Nat := do
  let status ← c.stepAlone r tested
  if ¬ (← get).process.signals.isEmpty then runTraps r
  return status

/-- Runs a command in which commands are nested at most so deep. -/
def Command.runWithin : Nat → Bool → Command → Act Nat
  | 0, _, _ => throw (.killed 11)
  | depth + 1, tested, c => c.step ⟨runWithin depth, depth⟩ tested

/-- How deep commands may be nested. -/
def depthLimit : Nat := 100000

/-- How commands run. -/
def runs : Runs := ⟨Command.runWithin depthLimit, depthLimit⟩

end DialogGrid.Script
