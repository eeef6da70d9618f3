import DialogGrid.Text

/-!
# Command-line arguments

One word names the script; options with values say the rest. A value follows its option, or is
attached with an equals sign, and the short option `-c` also takes it directly. A word after
`--` is never an option. An option counts once the next word after its value begins, so a
missing or repeated value is noticed then, unless that word is unknown.
-/

namespace DialogGrid

/-- The options that take a value. -/
inductive OptionName where
  | header
  | defines
  | uiOutput
  | resourcesOutput
  | anchor
  | dialogId
  | config
  | logLevel
  deriving DecidableEq, Repr

namespace OptionName

def all : List OptionName :=
  [header, defines, uiOutput, resourcesOutput, anchor, dialogId, config, logLevel]

/-- The long form, without the two dashes. -/
def text : OptionName → Text
  | header => lit "header"
  | defines => lit "defines"
  | uiOutput => lit "ui-output"
  | resourcesOutput => lit "resources-output"
  | anchor => lit "anchor"
  | dialogId => lit "dialog-id"
  | config => lit "config"
  | logLevel => lit "log-level"

def ofText? (t : Text) : Option OptionName := all.find? (·.text == t)

end OptionName

/-- What a command line asks for. -/
structure Arguments where
  input : Text
  header? : Option Text := none
  defines? : Option Text := none
  uiOutput? : Option Text := none
  resourcesOutput? : Option Text := none
  anchor? : Option Text := none
  dialogId? : Option Text := none
  config? : Option Text := none
  logLevel : Text := lit "info"
  deriving DecidableEq, Repr

namespace Arguments

/-- Where the interface goes. It has a default place if no output is asked for. -/
def interfacePath? (a : Arguments) : Option Text :=
  match a.uiOutput?, a.resourcesOutput? with
  | some path, _ => some path
  | none, none => some (lit "window.ui")
  | none, some _ => none

/-- Why a command line is no run: it is wrong, or it asks for something else. -/
inductive Refusal where
  | missingInput
  | unknownArgument
  | conflict
  | missingValue
  | needlessValue
  | helpWanted
  | versionWanted
  deriving DecidableEq, Repr

/-- What was read of a command line. The last option waits until the next word begins, and its
value may still be missing. -/
structure Progress where
  input? : Option Text := none
  values : List (OptionName × Text) := []
  waiting : Option (OptionName × Option Text) := none

namespace Progress

def get? (p : Progress) (option : OptionName) : Option Text := p.values.lookup option

/-- Gives an option its value; an option is given once. -/
def give (p : Progress) (option : OptionName) (value : Text) : Except Refusal Progress :=
  if (p.get? option).isSome then .error .conflict
  else .ok { p with values := (option, value) :: p.values }

/-- Settles the option that waits. -/
def settle (p : Progress) : Except Refusal Progress :=
  match p.waiting with
  | none => .ok p
  | some (_, none) => .error .missingValue
  | some (option, some value) => { p with waiting := none }.give option value

/-- Begins an option, whose value is attached to it or follows. -/
def option (p : Progress) (option : OptionName) (attached : Option Text) : Except Refusal Progress := do
  let p ← p.settle
  match attached with
  | some value => p.give option value
  | none => return { p with waiting := some (option, none) }

/-- Settles the option that waits, and then gives up for `reason`. -/
def request (p : Progress) (reason : Refusal) : Except Refusal Progress := do
  let _ ← p.settle
  .error reason

/-- Reads an option in its long form, after the two dashes. -/
def long (p : Progress) (written : Text) : Except Refusal Progress :=
  let (name, value) := written.cutAt (· == '=')
  let attached := if written.contains '=' then some value else none
  match OptionName.ofText? name with
  | some option => p.option option attached
  | none =>
    if name ≠ lit "help" ∧ name ≠ lit "version" then .error .unknownArgument
    else if attached.isSome then .error .needlessValue
    else p.request (if name = lit "help" then .helpWanted else .versionWanted)

/-- Reads options in their short form, after the dash. -/
def short (p : Progress) : Text → Except Refusal Progress
  | 'h' :: _ => p.request .helpWanted
  | 'V' :: _ => p.request .versionWanted
  | 'c' :: [] => p.option .config none
  | 'c' :: '=' :: value => p.option .config (some value)
  | 'c' :: value => p.option .config (some value)
  | _ => .error .unknownArgument

/-- Takes a word that is no option: the value of the option that waits for one, or the script. -/
def plain (p : Progress) (isValue : Bool) (word : Text) : Except Refusal Progress :=
  match isValue, p.waiting with
  | true, some (option, none) => .ok { p with waiting := some (option, some word) }
  | _, _ => do
    if p.input?.isSome then .error .unknownArgument
    else
      let p ← p.settle
      return { p with input? := some word }

/-- Reads the words that are left. -/
def read (p : Progress) : Bool → List Text → Except Refusal Progress
  | _, [] => p.settle
  | true, word :: rest => do (← p.plain false word).read true rest
  | false, word :: rest =>
    match word with
    | '-' :: '-' :: [] => p.read true rest
    | '-' :: '-' :: written => do (← p.long written).read false rest
    | '-' :: c :: written => do (← p.short (c :: written)).read false rest
    | _ => do (← p.plain true word).read false rest

end Progress

/-- The arguments that the words of a command line give. -/
def parse (words : List Text) : Except Refusal Arguments := do
  let p ← ({} : Progress).read false words
  if (p.get? .header).isSome ∧ (p.get? .defines).isSome then .error .conflict
  else
    match p.input? with
    | none => .error .missingInput
    | some input => return {
        input
        header? := p.get? .header
        defines? := p.get? .defines
        uiOutput? := p.get? .uiOutput
        resourcesOutput? := p.get? .resourcesOutput
        anchor? := p.get? .anchor
        dialogId? := p.get? .dialogId
        config? := p.get? .config
        logLevel := (p.get? .logLevel).getD (lit "info") }

end Arguments

end DialogGrid
