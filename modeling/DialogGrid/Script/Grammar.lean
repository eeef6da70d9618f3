import DialogGrid.Script.Token

/-!
# Commands of scripts

Commands are read from tokens. A script is read line by line, a line being as many lines of text as
its commands need; so the lines before a mistake have run by the time it is seen.
-/

namespace DialogGrid.Script

open Parse

/-- The readers for what lies inside, with the one for a single command. -/
structure Nested extends Inside where
  command : Parse Command

/-- What ends a list of commands: the line; a keyword after at least one command; or a keyword
right away. -/
inductive ListEnd where
  | line
  | block
  | opened
  deriving DecidableEq, Repr

def expectKeyword (n : Nested) (wanted : String) : Parse Unit := do
  let t ← token n.toInside .words
  if ¬ t.isKeyword wanted then expected t wanted

/-! ## Redirections -/

def readRedirection (n : Nested) (descriptor : Nat) (form : Raw) : Parse Redirection := do
  if form = lit "<<" ∨ form = lit "<<-" then
    match ← token n.toInside .mark with
    | .word w =>
      let number := (← get).documents.size
      let pending : PendingDocument := ⟨number, w.literal, w.isQuoted, form = lit "<<-"⟩
      modify fun s => { s with documents := s.documents.push [], pending := s.pending ++ [pending] }
      return .document descriptor number
    | t => unexpected t
  else
    match ← token n.toInside .words with
    | .word w =>
      if form = lit ">&" ∨ form = lit "<&" then return .copy descriptor w
      else
        let how : Opening :=
          if form = lit "<" then .read
          else if form = lit "<>" then .readWrite
          else if form = lit ">>" then .append
          else if form = lit ">|" then .replace
          else .create
        return .file descriptor how w
    | t => unexpected t

/-! ## Simple commands and functions -/

/-- Reads the body of a function, after its name and the opening parenthesis. -/
def readFunction (n : Nested) (name? : Option Raw) : Parse Command := do
  let t ← token n.toInside .words
  if ¬ t.isSymbol ")" then expected t ")"
  match name? with
  | some name =>
    if ¬ isName name ∨ specialBuiltins.contains name then fail (lit "Bad function name")
    look (← token n.toInside .keysPastLines)
    return .definition name (← n.command)
  | none => fail (lit "Bad function name")

/-- Reads the words and redirections of a simple command on `line`. -/
def readSimple (n : Nested) (line : Nat) :
    Nat → List (Raw × Word) → List Word → List Redirection → Parse Command
  | 0, assignments, words, redirections => return .simple line assignments words redirections
  | bound + 1, assignments, words, redirections => do
    match ← token n.toInside (if words.isEmpty then .names else .words) with
    | .word w =>
      match words, w.assignment? with
      | [], some a => readSimple n line bound (assignments ++ [a]) words redirections
      | _, _ => readSimple n line bound assignments (words ++ [w]) redirections
    | .redirection descriptor form =>
      let r ← readRedirection n descriptor form
      readSimple n line bound assignments words (redirections ++ [r])
    | t =>
      match t.isSymbol "(", assignments, words, redirections with
      | true, [], [name], [] => readFunction n name.plain?
      | _, _, _, _ =>
        look t
        return .simple line assignments words redirections

/-! ## Lists -/

/-- Commands joined by pipes, after the exclamation mark if there is one. -/
def readPipes (n : Nested) : Nat → List Command → Parse (List Command)
  | 0, read => return read
  | bound + 1, read => do
    let command ← n.command
    let t ← token n.toInside .words
    if t.isSymbol "|" then
      look (← token n.toInside .keysPastLines)
      readPipes n bound (read ++ [command])
    else
      look t
      return read ++ [command]

def readPipeline (n : Nested) : Parse Command := do
  let t ← token n.toInside .words
  let negated := t.isKeyword "!"
  look (← if negated then token n.toInside .keys else pure t)
  let body : Command := match ← readPipes n (← get).rest.length.succ [] with
    | [one] => one
    | several => .pipeline several
  return if negated then .negation body else body

/-- Pipelines joined by `&&` and `||`, after those that were read. -/
def readConditional (n : Nested) : Nat → Command → Parse Command
  | 0, read => return read
  | bound + 1, read => do
    let t ← token n.toInside .words
    if t.isSymbol "&&" ∨ t.isSymbol "||" then
      look (← token n.toInside .keysPastLines)
      let next ← readPipeline n
      readConditional n bound (if t.isSymbol "&&" then .both read next else .either read next)
    else
      look t
      return read

/-- The commands of a list, after those that were read. -/
def readList (n : Nested) (e : ListEnd) : Nat → Command → Parse Command
  | 0, read => return read
  | bound + 1, read => do
    let t ← token n.toInside (if e = .line then .keys else .keysPastLines)
    let mayEnd := match e, read with
      | .opened, _ => true
      | .block, .nothing => false
      | .block, _ => true
      | .line, _ => false
    match t, t.endsList && mayEnd with
    | .newline, _ =>
      readDocuments n.toInside
      return read
    | .ending, _ =>
      readDocuments n.toInside
      look t
      return read
    | _, true =>
      look t
      return read
    | _, false =>
      look t
      let line := (← get).line
      let command ← readConditional n (← get).rest.length.succ (← readPipeline n)
      let t ← token n.toInside .words
      let command := if t.isSymbol "&" then .background line command else command
      let read := match read with
        | .nothing => command
        | before => .sequence before command
      match t with
      | .ending =>
        readDocuments n.toInside
        look t
        return read
      | .newline =>
        look t
        readList n e bound read
      | t =>
        if t.isSymbol ";" ∨ t.isSymbol "&" then readList n e bound read
        else if e = .line then unexpected t
        else
          look t
          return read

def list (n : Nested) (e : ListEnd) : Parse Command := do
  readList n e (← get).rest.length.succ.succ .nothing

/-! ## Compound commands -/

/-- Reads the conditions and branches after `if` or `elif`. -/
def readBranches (n : Nested) : Nat → Parse Command
  | 0 => return .nothing
  | bound + 1 => do
    let test ← list n .block
    expectKeyword n "then"
    let yes ← list n .block
    let t ← token n.toInside .words
    if t.isKeyword "elif" then return .branch test yes (← readBranches n bound)
    else if t.isKeyword "else" then return .branch test yes (← list n .block)
    else
      look t
      return .branch test yes .nothing

/-- Reads words up to another token. -/
def readWords (n : Nested) : Nat → List Word → Parse (List Word × Token)
  | 0, read => return (read, .ending)
  | bound + 1, read => do
    match ← token n.toInside .words with
    | .word w => readWords n bound (read ++ [w])
    | t => return (read, t)

/-- All parameters, each a word. -/
def allParameters : Word := [.parameter (lit "@") true .value []]

/-- Reads what follows `for`. -/
def readEach (n : Nested) (line : Nat) : Parse Command := do
  match ← token n.toInside .words with
  | .word w =>
    match w.plain? with
    | some name =>
      if ¬ isName name then fail (lit "Bad for loop variable")
      let t ← token n.toInside .keysPastLines
      let words ←
        if t.isKeyword "in" then do
          let (words, t) ← readWords n (← get).rest.length.succ []
          match t, t.isSymbol ";" with
          | .newline, _ | _, true => pure words
          | t, _ => unexpected t
        else do
          if ¬ t.isSymbol ";" then look t
          pure [allParameters]
      let t ← token n.toInside .keysPastLines
      if ¬ t.isKeyword "do" then expected t "do"
      let body ← list n .block
      expectKeyword n "done"
      return .each line name words body
    | none => fail (lit "Bad for loop variable")
  | _ => fail (lit "Bad for loop variable")

/-- Reads the patterns of a case from a token on, up to the closing parenthesis. -/
def readPatterns (n : Nested) : Nat → Token → List Word → Parse (List Word)
  | 0, _, read => return read
  | bound + 1, t, read => do
    let read := read ++ [t.toWord]
    let t ← token n.toInside .words
    if t.isSymbol "|" then readPatterns n bound (← token n.toInside .words) read
    else if t.isSymbol ")" then return read
    else expected t ")"

/-- Reads cases up to `esac`. -/
def readCases (n : Nested) : Nat → List (List Word × Command) → Parse (List (List Word × Command))
  | 0, read => return read
  | bound + 1, read => do
    let t ← token n.toInside .keywordsPastLines
    if t.isKeyword "esac" then return read
    let t ← if t.isSymbol "(" then token n.toInside .words else pure t
    let patterns ← readPatterns n (← get).rest.length.succ t []
    let read := read ++ [(patterns, ← list n .opened)]
    let t ← token n.toInside .keywordsPastLines
    if t.isKeyword "esac" then return read
    else if t.isSymbol ";;" then readCases n bound read
    else expected t ";;"

/-- Reads what follows `case`. -/
def readChoice (n : Nested) (line : Nat) : Parse Command := do
  match ← token n.toInside .words with
  | .word subject =>
    let t ← token n.toInside .keysPastLines
    if ¬ t.isKeyword "in" then expected t "in"
    return .choice line subject (← readCases n (← get).rest.length.succ [])
  | t => fail (t.shown ++ lit " unexpected (expecting word)")

/-- A compound command with redirections, which take the place of those of a subshell that is all of it. -/
def withRedirections (line : Nat) (body : Command) (redirections : List Redirection) : Command :=
  match redirections, body with
  | [], _ => body
  | _, .redirected inner (.subshell first list) _ => .redirected inner (.subshell first list) redirections
  | _, _ => .redirected line body redirections

/-- Reads the redirections after a compound command. -/
def readTrailing (n : Nested) (line : Nat) (body : Command) : Nat → List Redirection → Parse Command
  | 0, _ => return body
  | bound + 1, read => do
    match ← token n.toInside .keys with
    | .redirection descriptor form => readTrailing n line body bound (read ++ [← readRedirection n descriptor form])
    | t =>
      look t
      return withRedirections line body read

/-- Reads a compound command that a keyword or a parenthesis begins. -/
def readCompound (n : Nested) (line : Nat) (t : Token) : Parse Command := do
  match t with
  | .keyword k =>
    match String.ofList k with
    | "if" => do
      let body ← readBranches n (← get).rest.length.succ
      expectKeyword n "fi"
      return body
    | "while" | "until" => do
      let test ← list n .block
      expectKeyword n "do"
      let body ← list n .block
      expectKeyword n "done"
      return .loop (k = lit "until") test body
    | "for" => readEach n line
    | "case" => readChoice n line
    | "\x7b" => do
      let body ← list n .block
      expectKeyword n "\x7d"
      return body
    | _ => unexpected t
  | t =>
    if t.isSymbol "(" then
      let body ← list n .block
      let t ← token n.toInside .words
      if ¬ t.isSymbol ")" then expected t ")"
      return .subshell line body
    else unexpected t

/-- Reads a command whose first token was looked at. -/
def command (n : Nested) : Parse Command := do
  let line := (← get).line
  let t ← token n.toInside .words
  match t with
  | .word _ | .redirection _ _ =>
    look t
    readSimple n (← get).line (← get).rest.length.succ.succ [] [] []
  | t => readTrailing n line (← readCompound n line t) (← get).rest.length.succ []

/-! ## Lines -/

mutual

def partsWithin : Nat → Surroundings → Parse Word
  | 0, _ => fail (lit "too deep")
  | depth + 1, s => parts ⟨partsWithin depth, blockWithin depth⟩ s

def blockWithin : Nat → Parse Command
  | 0 => fail (lit "too deep")
  | depth + 1 => list ⟨⟨partsWithin depth, blockWithin depth⟩, commandWithin depth⟩ .opened

def commandWithin : Nat → Parse Command
  | 0 => fail (lit "too deep")
  | depth + 1 => command ⟨⟨partsWithin depth, blockWithin depth⟩, commandWithin depth⟩

end

/-- Reads a line; there is none at the end of the script. Nothing in a text is nested deeper than
the text is long. -/
def readLine : Parse (Option Command) := do
  let depth := 2 * (← get).rest.length + 8
  let n : Nested := ⟨⟨partsWithin depth, blockWithin depth⟩, commandWithin depth⟩
  match ← token n.toInside .keys with
  | .ending => return none
  | t =>
    look t
    return some (← list n .line)

end DialogGrid.Script
