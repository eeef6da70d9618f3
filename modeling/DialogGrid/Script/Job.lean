import DialogGrid.Script.Builtin

/-!
# Jobs

What scripts start in the background goes on as a job. A job is named by its place after a percent sign,
by `%+` or `%-` as the last one or the one before; jobs have no text here that names could be looked for
in. A script waits for jobs, lists them, and sends signals to programs by number. A list of all jobs
forgets them, for they have ended.
-/

namespace DialogGrid.Script.Builtin

/-- The job that is the last but so many. -/
def recentJob (back : Nat) (reason : Raw) : Act Job := do
  match (← get).jobs[back]? with
  | some job => return job
  | none => Act.fail reason

/-- The job that a word names. -/
def jobNamed (word : Raw) : Act Job := do
  let jobs := (← get).jobs
  let unknown := lit "No such job: " ++ word
  match word with
  | ['%'] | ['%', '%'] | ['%', '+'] => recentJob 0 (lit "No current job")
  | ['%', '-'] => recentJob 1 (lit "No previous job")
  | ['%', '?'] =>
    match jobs with
    | [only] => return only
    | [] => Act.fail unknown
    | _ => Act.fail (word ++ lit ": ambiguous")
  | '%' :: digits =>
    match jobs.find? fun job => Text.natural? digits = some job.place with
    | some job => return job
    | none => Act.fail unknown
  | _ => Act.fail unknown

/-! ## Waiting -/

/-- Waits for jobs, which have ended, and gives the status of the last one. -/
def wait : Builtin := fun words => do
  let (_, words) ← options [] words
  if words.isEmpty then
    modify fun s => { s with jobs := s.jobs.map ({ · with waited := true }) }
    return 0
  words.foldlM (fun status word => do
    let job? ← if word.head? = some '%' then some <$> jobNamed word
      else do
        let number ← Act.natural word
        pure ((← get).jobs.find? (·.number == number))
    match job? with
    | some job =>
      match job.waited, job.killedBy? with
      | false, some signal => Act.tellKilled signal
      | _, _ => pure ()
      modify fun s => { s with jobs := s.jobs.map fun other =>
        if other.place = job.place then { job with waited := true } else other }
      return job.status
    | none => return status) 127

/-! ## Lists -/

/-- Shows a job, and forgets it unless only its number is shown. -/
def listJob (form? : Option Char) (job : Job) : Act Unit := do
  let jobs := (← get).jobs
  if form? = some 'p' then discard (Act.printOut (Text.ofNat job.number ++ ['\n']))
  else
    let mark := if jobs.head? = some job then '+' else if jobs[1]? = some job then '-' else ' '
    let lead := '[' :: Text.ofNat job.place ++ lit "] " ++ [mark, ' ']
    let number := if form?.isSome then Text.ofNat job.number ++ [' '] else []
    let state := match job.killedBy?, job.status with
      | some signal, _ => Signal.description signal
      | none, 0 => lit "Done"
      | none, status => lit "Done(" ++ Text.ofNat status ++ [')']
    let shown := lead ++ number ++ state
    let others := (List.replicate (job.programs - 1) (lit " | ")).flatten
    discard (Act.printOut (shown ++ List.replicate (max 1 (33 - shown.length)) ' ' ++ others ++ ['\n']))
    modify fun s => { s with jobs := s.jobs.filter (·.place != job.place) }

def listJobs : Builtin := fun words => do
  let (letters, words) ← options (lit "lp") words
  if words.isEmpty then (← get).jobs.forM (listJob letters.getLast?)
  else words.forM fun word => do listJob letters.getLast? (← jobNamed word)
  return 0

/-- Fails because no job was started in a way that lets it be brought to the front or to the back. -/
def moveJob : Builtin := fun words => do
  let (_, words) ← options [] words
  discard (match words with
    | [] => recentJob 0 (lit "No current job")
    | word :: _ => jobNamed word)
  Act.fail (lit "job " ++ words.headD (lit "(null)") ++ lit " not created under job control")

/-! ## Sending signals -/

def killUsage : Raw :=
  lit "Usage: kill [-s sigspec | -signum | -sigspec] [pid | job]... or\nkill -l [exitstatus]"

/-- The options of a command that sends signals: whether names are asked for, the signal, and the words
after them. -/
def killOptions : Nat → Bool → Option Nat → List Raw → Act (Bool × Option Nat × List Raw)
  | 0, list, signal?, words => return (list, signal?, words)
  | bound + 1, list, signal?, words => do
    match words with
    | ['-', '-'] :: rest => return (list, signal?, rest)
    | ('-' :: letter :: letters) :: rest =>
      let after := (letter :: letters).dropWhile (· == 'l')
      let list := list || letter = 'l'
      let named (r : Raw) (rest : List Raw) : Act (Bool × Option Nat × List Raw) := do
        match Signal.named? 1 r with
        | some signal => killOptions bound list (some signal) rest
        | none => Act.fail (lit "invalid signal number or name: " ++ r)
      match after, rest with
      | [], _ => killOptions bound list signal? rest
      | ['s'], r :: rest => named r rest
      | ['s'], [] => Act.fail (lit "No arg for -s option")
      | 's' :: r, _ => named r rest
      | c :: _, _ => Act.fail (lit "Illegal option -" ++ [c])
    | words => return (list, signal?, words)

/-- Sends a signal to a program that a word numbers; whether there is one. -/
def sendTo (signal : Nat) (word : Raw) : Act Bool := do
  match word with
  | '%' :: _ =>
    discard (jobNamed word)
    return false
  | '-' :: digits =>
    discard (Act.natural digits)
    return false
  | digits =>
    let number ← Act.natural digits
    let s ← get
    if s.process.number < number ∧ ¬ s.jobs.any (fun job => job.number = number ∧ ¬ job.waited) then return false
    let number := if number = 0 then s.process.number else number
    if signal ≠ 0 then set { s with process := s.process.send number signal }
    return true

/-- Sends a signal, or lists the names of signals. -/
def kill : Builtin := fun words => do
  if words.isEmpty then Act.fail killUsage
  let (list, signal?, words) ← match words with
    | ('-' :: named) :: rest =>
      match Signal.named? 1 named with
      | some signal => pure (false, some signal, rest)
      | none => killOptions words.length.succ false none words
    | words => pure (false, none, words)
  match list, signal?, words with
  | true, _, [] =>
    Act.printOut (lit "0\n" ++ ((List.range Signal.last).flatMap fun n => Signal.scriptName (n + 1) ++ ['\n']))
  | true, none, word :: _ =>
    let n ← Act.natural word
    let signal := if 128 < n then n - 128 else n
    if 0 < signal ∧ signal ≤ Signal.last then Act.printOut (Signal.scriptName signal ++ ['\n'])
    else Act.fail (lit "invalid signal number or exit status: " ++ word)
  | true, some _, _ | false, _, [] => Act.fail killUsage
  | false, signal?, words =>
    words.foldlM (fun status word => do
      if ← sendTo (signal?.getD 15) word then
        Act.yieldToSignals
        return status
      Act.warn (lit "No such process\n")
      return 1) 0

end DialogGrid.Script.Builtin
