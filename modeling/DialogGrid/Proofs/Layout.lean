import DialogGrid.Directive

/-!
# Layouts of directives

How a directive may be written. `Canonical` says which names and arguments can be read back at
all, `Written.Fits` which blanks and line breaks may stand around them, and `Written.text` is the
directive written with these. Reading takes no part in any of this.
-/

namespace DialogGrid

/-- A line break of a script. -/
inductive LineBreak where
  | lf
  | crlf
  deriving DecidableEq, Repr

namespace LineBreak

def text : LineBreak → Text
  | lf => ['\n']
  | crlf => ['\r', '\n']

/-- The text of a line break that may be missing. -/
def optional (b? : Option LineBreak) : Text := b?.elim [] text

end LineBreak

/-- What holds of the characters of a text is checked along the text. -/
instance Text.decidableForallMem (t : Text) (p : Char → Prop) [DecidablePred p] : Decidable (∀ c ∈ t, p c) :=
  List.decidableBAll p t

/-- A text of spaces and tabs. -/
def Inline (t : Text) : Prop := ∀ c ∈ t, c = ' ' ∨ c = '\t'

instance (t : Text) : Decidable (Inline t) := inferInstanceAs (Decidable (∀ c ∈ t, _))

/-! ## What can be written -/

/-- Every comma comes after an odd number of quotes. -/
def CommasQuoted (arg : Text) : Prop :=
  ∀ i < arg.length, arg[i]? = some ',' → (arg.take i).count '"' % 2 = 1

instance (arg : Text) : Decidable (CommasQuoted arg) := inferInstanceAs (Decidable (∀ i < arg.length, _))

/-- A name and arguments that can be written so that they are read back. Only the last argument
may leave a quote open. -/
structure Canonical (name : Text) (args : List Text) : Prop where
  name_ne_nil : name ≠ []
  name_visible : ∀ c ∈ name, isBlank c = false
  args_ne : args ≠ [[]]
  trimmed : ∀ arg ∈ args, arg.trim = arg
  oneLine : ∀ arg ∈ args, '\r' ∉ arg ∧ '\n' ∉ arg
  commasQuoted : ∀ arg ∈ args, CommasQuoted arg
  closed : ∀ arg ∈ args.dropLast, arg.count '"' % 2 = 0

instance (name : Text) (args : List Text) : Decidable (Canonical name args) :=
  decidable_of_iff
    (name ≠ [] ∧ (∀ c ∈ name, isBlank c = false) ∧ args ≠ [[]] ∧ (∀ arg ∈ args, arg.trim = arg) ∧
      (∀ arg ∈ args, '\r' ∉ arg ∧ '\n' ∉ arg) ∧ (∀ arg ∈ args, CommasQuoted arg) ∧
      ∀ arg ∈ args.dropLast, arg.count '"' % 2 = 0)
    ⟨fun ⟨a, b, c, d, e, f, g⟩ => ⟨a, b, c, d, e, f, g⟩, fun ⟨a, b, c, d, e, f, g⟩ => ⟨a, b, c, d, e, f, g⟩⟩

/-! ## How it is written -/

/-- An argument as it is written: the line break directly after the separator before it, if one
stands there, and the blanks around it. -/
structure Slot where
  lineBreak? : Option LineBreak := none
  before : Text := []
  arg : Text
  after : Text := []
  deriving DecidableEq, Repr

namespace Slot

def text (s : Slot) : Text := LineBreak.optional s.lineBreak? ++ (s.before ++ s.arg ++ s.after)

/-- The arguments with a separator between two of them. -/
def listText : List Slot → Text
  | [] => []
  | [s] => s.text
  | s :: rest => s.text ++ ',' :: listText rest

end Slot

/-- A directive as it is written: the blank lines and the indentation before it, its name, its
arguments, and the blanks and the line break behind it. -/
structure Written where
  gap : Text := []
  name : Text
  slots : List Slot := []
  trailing : Text := []
  ending? : Option LineBreak := some .lf
  deriving DecidableEq, Repr

namespace Written

def args (w : Written) : List Text := w.slots.map (·.arg)

/-- All from the name to the last argument. -/
def content (w : Written) : Text := w.name ++ Slot.listText w.slots

def text (w : Written) : Text := w.gap ++ (w.content ++ (w.trailing ++ LineBreak.optional w.ending?))

/-- The directive that was written at byte `offset`. It spans what is visible of it. -/
def directive (w : Written) (offset : Nat) : Directive where
  name := w.name
  args := w.args
  span := .ofBounds (offset + w.gap.byteSize) (offset + w.gap.byteSize + w.content.trimEnd.byteSize)

/-- Where blanks and line breaks may stand. A blank divides the name from the arguments, and
something must stand after the last separator before the line may end. -/
structure Fits (w : Written) : Prop where
  gap : ∀ c ∈ w.gap, isGap c = true
  blanks : ∀ s ∈ w.slots, Inline s.before ∧ Inline s.after
  trailing : Inline w.trailing
  first : ∀ s ∈ w.slots.head?, s.lineBreak? = none ∧ s.before ≠ []
  last : ∀ s ∈ w.slots.getLast?, s.arg = [] → s.lineBreak? = none → s.before ++ s.after ++ w.trailing ≠ []

instance (w : Written) : Decidable w.Fits :=
  decidable_of_iff
    ((∀ c ∈ w.gap, isGap c = true) ∧ (∀ s ∈ w.slots, Inline s.before ∧ Inline s.after) ∧ Inline w.trailing ∧
      (∀ s ∈ w.slots.head?, s.lineBreak? = none ∧ s.before ≠ []) ∧
      ∀ s ∈ w.slots.getLast?, s.arg = [] → s.lineBreak? = none → s.before ++ s.after ++ w.trailing ≠ [])
    ⟨fun ⟨a, b, c, d, e⟩ => ⟨a, b, c, d, e⟩, fun ⟨a, b, c, d, e⟩ => ⟨a, b, c, d, e⟩⟩

/-- Directives written one after another. -/
def textOf (ws : List Written) : Text := ws.flatMap text

/-- The directives that were written one after another from byte `offset` on. -/
def directives (offset : Nat) : List Written → List Directive
  | [] => []
  | w :: rest => w.directive offset :: directives (offset + w.text.byteSize) rest

end Written

end DialogGrid
