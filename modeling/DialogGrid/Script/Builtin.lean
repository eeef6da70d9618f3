import DialogGrid.Script.Pattern
import DialogGrid.Script.Printf
import DialogGrid.Script.Test

/-!
# Commands of the shell itself

The commands that a shell runs without starting a program, apart from those that run other commands.
-/

namespace DialogGrid.Script

/-- A command is given its words after its name, and ends with a status. -/
abbrev Builtin := List Raw → Act Nat

namespace Builtin

/-- What a letter is among those that a text lists: unknown, alone, or followed by an argument. -/
def optionKind (letter : Char) : Raw → Option Bool
  | [] => none
  | c :: rest =>
    let takesArgument := rest.head? = some ':'
    if c = letter ∧ letter ≠ ':' then some takesArgument else optionKind letter rest

/-- The letters of the options in a word, and whether the last one takes the next word as its argument. -/
def optionLetters (known : Raw) : Raw → Act (List Char × Bool)
  | [] => return ([], false)
  | letter :: more =>
    match optionKind letter known with
    | none => Act.fail (lit "Illegal option -" ++ [letter])
    | some true => return ([letter], more.isEmpty)
    | some false => do
      let (letters, takesNext) ← optionLetters known more
      return (letter :: letters, takesNext)

/-- The options at the beginning of words, and the words after them. Two dashes end the options. -/
def options (known : Raw) : List Raw → Act (List Char × List Raw)
  | [] => return ([], [])
  | word :: rest =>
    match word with
    | ['-', '-'] => return ([], rest)
    | '-' :: first :: more => do
      let (letters, takesNext) ← optionLetters known (first :: more)
      match takesNext, rest with
      | true, [] => Act.fail (lit "No arg for -" ++ letters.drop (letters.length - 1) ++ lit " option")
      | true, _ :: rest => do
        let (others, words) ← options known rest
        return (letters ++ others, words)
      | false, rest => do
        let (others, words) ← options known rest
        return (letters ++ others, words)
    | _ => return ([], word :: rest)

/-- Whether the first word is an option that begins with a letter, which takes no other options, and the
words after it. -/
def firstOption (letter : Char) (words : List Raw) : Act (Bool × List Raw) := do
  if (words.headD []).take 2 = ['-', letter] then return (true, words.drop 1)
  let (_, words) ← options [] words
  return (false, words)

/-! ## Printing -/

def echoEscapes : Program.EscapeRules := { zeroLead := true, stop := true }

/-- Prints words with their escapes decoded. Only the first word may leave out the line end. -/
def echo : Builtin := fun words => do
  let bare := words.head? = some (lit "-n")
  let (shown, stopped) := echoEscapes.decodeWords (if bare then words.drop 1 else words)
  Act.printOut (if bare ∨ stopped then shown else shown ++ ['\n'])

def printf : Builtin := fun words => do
  let (_, words) ← options [] words
  Printf.command words

/-! ## The working folder -/

/-- The path of a place from the root. -/
def pathOf (place : Place) : Raw :=
  Raw.ofText (if place.isEmpty then ['/'] else place.flatMap ('/' :: ·))

def pwd : Builtin := fun words => do
  discard (options (lit "LP") words)
  Act.printOut (pathOf (← get).process.files.workingFolder ++ ['\n'])

/-- Where a path to change to is looked for, and whether that is worth telling. A path from the root or
from the working folder or its parent is only what it is. -/
def foldersOf (target : Raw) : Act (List (Raw × Bool)) := do
  let itself : Raw × Bool := (if target.isEmpty then ['.'] else target, false)
  let first := target.takeWhile (· != '/')
  match ← Act.value? (lit "CDPATH") with
  | some folders =>
    if target.head? = some '/' ∨ first = ['.'] ∨ first = lit ".." then return [itself]
    return (folders.splitOn ':').map (fun folder =>
      if folder.isEmpty then (target, false) else (folder ++ '/' :: target, true)) ++ [itself]
  | none => return [itself]

def cd : Builtin := fun words => do
  let (_, words) ← options (lit "LP") words
  let back := words.head? = some ['-']
  let named := match words with
    | [] => lit "HOME"
    | _ => lit "OLDPWD"
  let remembered := (← Act.value? named).getD []
  let target := if words.isEmpty ∨ back then remembered else words.headD []
  let s ← get
  let files := s.process.files
  let place? (path : Raw) : Option Place :=
    match files.locate (Raw.text path) with
    | .ok (place, .folder) => some place
    | _ => none
  match (← foldersOf target).findSome? fun (path, told) => (place? path).map fun place => (place, told) with
  | some (place, told) =>
    let old := pathOf files.workingFolder
    set { s with process := { s.process with files := files.moveTo place } }
    Act.assign (lit "OLDPWD") old
    Act.assign (lit "PWD") (pathOf place)
    if told || back then Act.printOut (pathOf place ++ ['\n']) else return 0
  | none => Act.fail (lit "can't cd to " ++ target)

/-! ## Ends and loops -/

/-- The status that the first word names, or another one. -/
def statusOf (other : Nat) (words : List Raw) : Act Nat := do
  match words with
  | [] => return other
  | word :: _ => Act.natural word

/-- Ends the shell. What is done at a signal ends it with the status from before. -/
def exit : Builtin := fun words => do
  let s ← get
  Act.setStatus (← statusOf (s.interrupted?.getD s.status) words)
  throw .exit

def returnNow : Builtin := fun words => do
  Act.setStatus (← statusOf (← get).status words)
  throw (.returned !words.isEmpty)

/-- Leaves or repeats as many loops as there are, at most those that the first word says. -/
def jumpLoops (jump : Nat → Jump) : Builtin := fun words => do
  let wanted ← match words with
    | [] => pure 1
    | word :: _ => do
      let n ← Act.natural word
      if n = 0 then Act.fail (lit "Illegal number: " ++ word) else pure n
  let loops := min wanted (← get).loops
  Act.setStatus 0
  if loops = 0 then return 0 else throw (jump loops)

/-! ## Options and parameters -/

/-- The long names of options. Two of them have no letter; digits stand for those. -/
def optionNames : List (Raw × Char) :=
  [(lit "errexit", 'e'), (lit "noglob", 'f'), (lit "ignoreeof", 'I'), (lit "interactive", 'i'), (lit "monitor", 'm'),
    (lit "noexec", 'n'), (lit "stdin", 's'), (lit "xtrace", 'x'), (lit "verbose", 'v'), (lit "vi", 'V'),
    (lit "emacs", 'E'), (lit "noclobber", 'C'), (lit "allexport", 'a'), (lit "notify", 'b'), (lit "nounset", 'u'),
    (lit "privileged", 'p'), (lit "nolog", '0'), (lit "debug", '1')]

/-- The long names with whether the options are on, or the commands that set them so. -/
def optionLines (shown : Bool) (isOn : Char → Bool) : Raw :=
  if shown then
    let lines := optionNames.map fun (name, letter) =>
      name ++ List.replicate (16 - name.length) ' ' ++ (if isOn letter then lit "on" else lit "off") ++ ['\n']
    lit "Current option settings\n" ++ lines.flatten
  else
    optionNames.flatMap fun (name, letter) =>
      lit "set " ++ (if isOn letter then lit "-o " else lit "+o ") ++ name ++ ['\n']

/-- Turns options on or off that a word names by letters, with the words after it. While the shell is
`starting` all of them count as on where they are listed. -/
def setLetters (starting on : Bool) : List Char → List Raw → Act (List Raw)
  | [], rest => return rest
  | letter :: letters, rest => do
    if letter = 'o' then
      match rest with
      | [] =>
        let options := (← get).options
        let lines := optionLines on fun letter => starting || options.contains letter
        if starting then discard (Act.print 1 lines) else discard (Act.printOut lines)
        setLetters starting on letters []
      | name :: rest =>
        match optionNames.lookup name with
        | some letter =>
          Act.setOption letter on
          setLetters starting on letters rest
        | none => Act.fail (lit "Illegal option -o " ++ name)
    else if letter.isAlpha ∧ optionNames.any (·.2 == letter) then
      Act.setOption letter on
      setLetters starting on letters rest
    else Act.fail (lit "Illegal option -" ++ [letter])

/-- Sets options and then, if words are left, parameters. -/
def setWords : Nat → List Raw → Act Unit
  | 0, _ => return ()
  | bound + 1, words => do
    match words with
    | ['-', '-'] :: rest => modify fun s => { s with parameters := rest }
    | ['-'] :: rest =>
      Act.setOption 'x' false
      if ¬ rest.isEmpty then modify fun s => { s with parameters := rest }
    | ('-' :: letters) :: rest => setWords bound (← setLetters false true letters rest)
    | ('+' :: letters) :: rest => setWords bound (← setLetters false false letters rest)
    | [] => return ()
    | words => modify fun s => { s with parameters := words }

/-- A value in single quotes, except for its apostrophes, which stand in double quotes. -/
def quotedValue (r : Raw) : Raw :=
  chunks r.length r
where
  chunks : Nat → Raw → Raw
    | 0, r => '\'' :: r ++ ['\'']
    | bound + 1, r =>
      let plain := r.takeWhile (· != '\'')
      let apostrophes := (r.drop plain.length).takeWhile (· == '\'')
      let rest := r.drop (plain.length + apostrophes.length)
      let shown := '\'' :: plain ++ ['\'']
      if apostrophes.isEmpty then shown
      else shown ++ '"' :: apostrophes ++ '"' :: if rest.isEmpty then [] else chunks bound rest

/-- The variables with values, one a line. -/
def variableLines (lead : Raw) (p : Variable → Bool) : Act Raw := do
  let chosen := (← get).bindings.filter fun (_, v) => p v
  let sorted := chosen.mergeSort fun a b => a.1.isAtMost b.1
  return sorted.flatMap fun (name, v) =>
    lead ++ name ++ ((v.value?.map fun r => '=' :: quotedValue r).getD []) ++ ['\n']

/-- Turns job control off again, for which there is no terminal. -/
def refuseJobControl : Act Unit := do
  Act.warn (lit "can't access tty; job control turned off")
  Act.setOption 'm' false

def setOptions : Builtin := fun words => do
  if words.isEmpty then Act.printOut (← variableLines [] (·.value?.isSome))
  else
    setWords words.length.succ words
    if ← Act.hasOption 'm' then refuseJobControl
    return 0

def shift : Builtin := fun words => do
  let n ← match words with
    | [] => pure 1
    | word :: _ => Act.natural word
  let parameters := (← get).parameters
  if parameters.length < n then Act.fail (lit "can't shift that many")
  modify fun s => { s with parameters := parameters.drop n }
  return 0

/-! ## Variables -/

/-- The name and the value in a word with an equals sign. -/
def assignment (word : Raw) : Raw × Option Raw :=
  let name := word.takeWhile (· != '=')
  (name, if name.length < word.length then some (word.drop (name.length + 1)) else none)

/-- Assigns as a word says and changes the marks of the variable. -/
def declare (mark : Variable → Variable) (word : Raw) : Act Unit := do
  let (name, value?) := assignment word
  discard (Act.nameOf name)
  if let some value := value? then Act.assign name value
  Act.putVariable name (some (mark ((← Act.stored? name).getD {})))

def exportNames : Builtin := fun words => do
  let (all, words) ← firstOption 'p' words
  if all ∨ words.isEmpty then Act.printOut (← variableLines (lit "export ") (·.exported))
  else
    words.forM (declare fun v => { v with exported := true })
    return 0

def protectNames : Builtin := fun words => do
  let (all, words) ← firstOption 'p' words
  if all ∨ words.isEmpty then Act.printOut (← variableLines (lit "readonly ") (·.readOnly))
  else
    words.forM (declare fun v => { v with readOnly := true })
    return 0

/-- Makes variables, or for a dash the options, those of the function that runs; they keep their values
at first. -/
def localNames : Builtin := fun words => do
  if (← get).hidden.isEmpty then Act.fail (lit "not in a function")
  words.forM fun word => do
    let (name, value?) := assignment word
    if word = ['-'] then Act.hideOptions
    else
      if value?.isNone then discard (Act.nameOf name)
      Act.hide name
      if let some value := value? then Act.store name value
  return 0

def unsetNames : Builtin := fun words => do
  let (letters, words) ← options (lit "vf") words
  words.forM fun word => do
    if letters.contains 'f' then modify fun s => { s with functions := s.functions.filter (·.1 != word) }
    else
      let name ← Act.nameOf word
      if name = lit "OPTIND" then Act.resetOptions []
      if ((← Act.stored? name).getD {}).readOnly then Act.fail (name ++ lit ": is read only")
      Act.forget name
  return 0

/-! ## Reading -/

/-- What a line that is read consists of: characters, characters after a backslash, and joints where a
backslash joins it with the next line. -/
inductive LinePart where
  | plain (c : Char)
  | quoted (c : Char)
  | joint
  deriving DecidableEq, Repr

/-- The parts of a line, how many characters it takes, and whether it has an end. With `escapes` a
backslash joins lines and quotes characters. -/
def lineParts (escapes escaped : Bool) : Raw → List LinePart × Nat × Bool
  | [] => ([], 0, false)
  | c :: rest =>
    let before (more : List LinePart) (after : List LinePart × Nat × Bool) : List LinePart × Nat × Bool :=
      (more ++ after.1, after.2.1 + 1, after.2.2)
    if c = '\x00' then before [] (lineParts escapes escaped rest)
    else if escaped then before [if c = '\n' then .joint else .quoted c] (lineParts escapes false rest)
    else if c = '\n' then ([], 1, true)
    else if c = '\\' ∧ escapes then before [] (lineParts escapes true rest)
    else before [.plain c] (lineParts escapes false rest)

/-- How far a line is divided into fields. The last field takes all that is left, of which only so much is
kept as `kept?` says. -/
structure LineDivision where
  /-- How many fields there may still be. -/
  left : Nat
  finished : List Raw := []
  /-- The characters of the current field, last first. -/
  current : Raw := []
  kept? : Option Nat := none
  /-- Whether blanks may go on that separated the last field from this one. -/
  inBlanks : Bool := false

namespace LineDivision

def finish (d : LineDivision) : LineDivision :=
  { d with finished := d.current.reverse :: d.finished, current := [] }

/-- Goes on with a part. Only plain characters separate fields. Blanks around another separator belong to
it, and those before the first field separate nothing. -/
def step (separators : Raw) (d : LineDivision) (part : LinePart) : LineDivision :=
  match part with
  | .joint => { d with inBlanks := false }
  | .quoted c => { d with current := c :: d.current, inBlanks := false }
  | .plain c =>
    let separates := separators.contains c
    let isBlank := separates && (lit " \t\n").contains c
    let taken := { d with current := c :: d.current, inBlanks := false }
    if d.left = 0 then
      if isBlank then { taken with kept? := d.kept? <|> some d.current.length, inBlanks := d.inBlanks }
      else if separates && d.inBlanks then taken
      else { taken with kept? := none }
    else if d.inBlanks then if separates then { d with inBlanks := isBlank } else taken
    else if ¬ separates then taken
    else if isBlank ∧ d.current = [] then d
    else if d.left = 1 then { taken with left := 0, kept? := some d.current.length, inBlanks := isBlank }
    else { d.finish with left := d.left - 1, inBlanks := isBlank }

/-- The fields of a line, at most so many. -/
def fields (separators : Raw) (count : Nat) (line : List LinePart) : List Raw :=
  let d := line.foldl (step separators) { left := count }
  let last := d.current.reverse.take (d.kept?.getD d.current.length)
  (if last = [] then d.finished else last :: d.finished).reverse

end LineDivision

def readFields : Builtin := fun words => do
  let (letters, names) ← options (lit "p:r") words
  if names.isEmpty then Act.fail (lit "arg count")
  let rest := ((← get).process.remaining 0).toOption.getD []
  let (line, used, ended) := lineParts (!letters.contains 'r') false rest
  modify fun s => { s with process := s.process.skip 0 used }
  let fields := LineDivision.fields (← Act.separators) names.length line
  (names.zip (fields ++ List.replicate names.length [])).forM fun (name, value) => Act.assign name value
  return if ended then 0 else 1

/-! ## Options of scripts -/

/-- Reads the next option of the parameters into a variable. -/
def getopts : Builtin := fun words => do
  let (known, name, given) ← match words with
    | known :: name :: given => pure (known, name, given)
    | _ => Act.fail (lit "Usage: getopts optstring var [arg...]")
  let parameters := (← get).parameters
  let words := if given.isEmpty then parameters else given
  let index := (← get).optionIndex
  let offset := (← get).optionOffset
  let silent := known.head? = some ':'
  let finish (index offset : Nat) (letter : Char) (argument? : Option Raw) (status : Nat) : Act Nat := do
    match argument? with
    | some argument => Act.assign (lit "OPTARG") argument
    | none => Act.forget (lit "OPTARG")
    Act.assign (lit "OPTIND") (Text.ofNat index)
    Act.assign name [letter]
    modify fun s => { s with optionIndex := index, optionOffset := offset }
    return status
  -- the word being read, the options left in it, and the index of the word after it
  let current := (words[index - 2]?.getD []).drop offset
  let next := words[index - 1]?.getD []
  let inWord := 0 < offset && 1 < index && !current.isEmpty
  let text := if inWord then current else next.drop 1
  let ended := !inWord && (next.head? != some '-' || next.length < 2 || next = lit "--")
  let index := if inWord then index else index + 1
  match ended, text with
  | false, letter :: rest =>
    let offsetAfter := if rest.isEmpty then 0 else (if inWord then offset else 1) + 1
    match optionKind letter known with
    | none =>
      if silent then finish index offsetAfter '?' (some [letter]) 0
      else
        discard (Act.print 2 (lit "Illegal option -" ++ [letter, '\n']))
        finish index offsetAfter '?' none 0
    | some false => finish index offsetAfter letter (some []) 0
    | some true =>
      match rest, words[index - 1]? with
      | _ :: _, _ => finish index 0 letter (some rest) 0
      | [], some argument => finish (index + 1) 0 letter (some argument) 0
      | [], none =>
        if silent then finish index 0 ':' (some [letter]) 0
        else
          discard (Act.print 2 (lit "No arg for -" ++ letter :: lit " option\n"))
          finish index 0 '?' none 0
  | _, _ => finish (if next = lit "--" then index else index - 1) 0 '?' ((← Act.value? (lit "OPTARG"))) 1

/-! ## Signals -/

/-- Sets what is done at a signal: nothing where the action is empty, and what every program does where
there is none. -/
def setTrap (action? : Option Raw) (signal : Nat) : Act Unit :=
  modify fun s =>
    let others := s.traps.filter (·.1 != signal)
    let heeded := s.process.ignored.filter fun other => other != signal || s.deafTo.contains other
    match action? with
    | none => { s with traps := others, process := { s.process with ignored := heeded } }
    | some action =>
      let ignored := if action.isEmpty ∧ signal ≠ 0 then signal :: heeded else heeded
      { s with traps := (signal, action) :: others, process := { s.process with ignored } }

def trap : Builtin := fun words => do
  let (_, words) ← options [] words
  let set (action? : Option Raw) (signals : List Raw) : Act Nat :=
    signals.foldlM (fun status word => do
      if status ≠ 0 then return status
      match Signal.named? 0 word with
      | some signal =>
        setTrap action? signal
        return 0
      | none =>
        discard (Act.print 2 (lit "trap: " ++ word ++ lit ": bad trap\n"))
        return 1) 0
  match words with
  | [] =>
    let traps := (← get).traps.mergeSort fun a b => decide (a.1 ≤ b.1)
    Act.printOut (traps.flatMap fun (signal, action) =>
      lit "trap -- " ++ quotedValue action ++ ' ' :: Signal.scriptName signal ++ ['\n'])
  | [only] => set none [only]
  | first :: rest =>
    if (Signal.numbered? first).isSome then set none (first :: rest)
    else set (if first = ['-'] then none else some first) rest

/-! ## Aliases -/

/-- The place of a name in a list of names that is not in order. -/
def rank (places : Nat) (name : Raw) : Nat :=
  (16 * (name.head?.map Char.toNat).getD 0 + name.foldl (fun n c => n + c.toNat) 0) % places

def aliasLine (name value : Raw) : Raw := name ++ '=' :: quotedValue value ++ ['\n']

def defineAliases : Builtin := fun words => do
  if words.isEmpty then
    let sorted := (← get).aliases.mergeSort fun a b => decide (rank 39 a.1 ≤ rank 39 b.1)
    Act.printOut (sorted.flatMap fun (name, value) => aliasLine name value)
  else
    words.foldlM (fun status word => do
      let name := word.take 1 ++ (word.drop 1).takeWhile (· != '=')
      match word.drop name.length with
      | _ :: value =>
        modify fun s => { s with aliases := match s.aliases.lookup name with
          | some _ => s.aliases.map fun a => if a.1 = name then (name, value) else a
          | none => s.aliases ++ [(name, value)] }
        return status
      | [] =>
        match (← get).aliases.lookup name with
        | some value =>
          discard (Act.printOut (aliasLine name value))
          return status
        | none =>
          discard (Act.print 2 (lit "alias: " ++ name ++ lit " not found\n"))
          return 1) 0

def removeAliases : Builtin := fun words => do
  let (all, words) ← firstOption 'a' words
  if all then
    modify fun s => { s with aliases := [] }
    return 0
  words.foldlM (fun status name => do
    let known := ((← get).aliases.lookup name).isSome
    modify fun s => { s with aliases := s.aliases.filter (·.1 != name) }
    if known then return status
    discard (Act.print 2 (lit "unalias: " ++ name ++ lit " not found\n"))
    return 1) 0

/-! ## Limits -/

/-- The permissions that a mask leaves to the owner, the group and others, from the left. -/
def permissions (mask : Nat) : List Raw :=
  [64, 8, 1].map fun place =>
    [(4, 'r'), (2, 'w'), (1, 'x')].filterMap fun (bit, c) => if mask / place / bit % 2 = 0 then some c else none

/-- The permissions that the letters after a sign name for one kind of people, where those of others stand
for what they have so far. -/
def namedBits (old : Nat) (letters : Raw) : Nat :=
  letters.foldl (fun bits letter => bits ||| match letter with
    | 'r' => 4
    | 'w' => 2
    | 'x' => 1
    | 'u' => old / 64 % 8
    | 'g' => old / 8 % 8
    | 'o' => old % 8
    | 'X' => if old &&& 73 ≠ 0 then 1 else 0
    | _ => 0) 0

/-- Permissions after changes that a text writes, given those before and those after the changes up to
there. A change that names no people is for those of the change before it, and the first one for all. -/
def permissionsAfter? (old : Nat) : Nat → Nat → Nat → Raw → Option Nat
  | 0, _, _, _ => none
  | _, _, new, [] => some new
  | bound + 1, people, new, text =>
    let letters := text.takeWhile (lit "augo").contains
    let people := letters.foldl (fun people letter => people ||| match letter with
      | 'a' => 73
      | 'u' => 64
      | 'g' => 8
      | _ => 1) people
    let people := if people = 0 then 73 else people
    match text.drop letters.length with
    | sign :: rest =>
      let bits := rest.takeWhile (lit "rwxugoXs").contains
      let chosen := namedBits old bits * people
      let new? :=
        if sign = '+' then some (new ||| chosen)
        else if sign = '-' then some ((new ||| chosen) ^^^ chosen)
        else if sign = '=' then some (((new ||| people * 7) ^^^ people * 7) ||| chosen)
        else none
      match new?, rest.drop bits.length with
      | none, _ => none
      | some new, ',' :: more => permissionsAfter? old bound 0 new more
      | some new, more =>
        if more.head?.all (lit "=+-").contains then permissionsAfter? old bound people new more else none
    | [] => none

/-- Shows or sets which permissions new files lack. -/
def umask : Builtin := fun words => do
  let (letters, words) ← options ['S'] words
  let mask := (← get).mask
  match words with
  | [] =>
    let octal := Nat.toDigits 8 mask
    let shown := if letters.isEmpty then List.replicate (4 - octal.length) '0' ++ octal
      else [','].intercalate (((lit "ugo").zip (permissions mask)).map fun (c, bits) => c :: '=' :: bits)
    Act.printOut (shown ++ ['\n'])
  | word :: _ =>
    let new? := if word.head?.any Char.isDigit then
        if word.all (fun c => '0' ≤ c && c ≤ '7') then some (Nat.ofDigitChars 8 word 0) else none
      else
        let old := 511 - mask
        (permissionsAfter? old (word.length + 1) 0 old word).map (511 - ·)
    match new? with
    | some new =>
      modify fun s => { s with mask := new % 512 }
      return 0
    | none =>
      let what := if word.head?.any Char.isDigit then lit "Illegal number: " else lit "Illegal mode: "
      Act.fail (what ++ word)

/-- Shows a limit on what programs use; there is none on most. New limits are read but not kept. -/
def ulimit : Builtin := fun words => do
  let (letters, words) ← options (lit "HSatfdscmlpnvwr") words
  let unlimited := letters.all (lit "HSfdtmvw").contains
  match words with
  | [] => if unlimited then Act.printOut (lit "unlimited\n") else return 0
  | limit :: others =>
    if letters.contains 'a' ∨ others ≠ [] then Act.fail (lit "too many arguments")
    else if limit = lit "unlimited" ∨ limit.all Char.isDigit then return 0
    else Act.fail (lit "bad number")

/-- Shows the time that programs took, of which there is none. -/
def times : Builtin := fun _ => Act.printOut (lit "0m0.000000s 0m0.000000s\n0m0.000000s 0m0.000000s\n")

end Builtin

end DialogGrid.Script
