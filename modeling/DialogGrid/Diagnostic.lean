import DialogGrid.Text

/-!
# Diagnostics

One reported problem: how severe it is, which rule it breaks, a message, the places in the
script it points at, and advice. Diagnostics are kept in the order in which they arise; a step
that collects them succeeds exactly if none of them is an error.
-/

namespace DialogGrid

/-- A stretch of a script, from one byte offset to another that is not before it. -/
structure Span where
  start : Nat
  stop : Nat
  start_le_stop : start ≤ stop := by omega
  deriving DecidableEq, Repr

namespace Span

/-- The span from `start` to `stop`, or an empty one where they are out of order. -/
def ofBounds (start stop : Nat) : Span := ⟨start, max start stop, Nat.le_max_left ..⟩

def size (s : Span) : Nat := s.stop - s.start

def isEmpty (s : Span) : Bool := s.size == 0

@[ext] theorem ext {a b : Span} (start : a.start = b.start) (stop : a.stop = b.stop) : a = b := by
  cases a; cases b; simp_all

end Span

inductive Severity where
  | error
  | warning
  deriving DecidableEq, Repr

def Severity.text : Severity → Text
  | .error => lit "error"
  | .warning => lit "warning"

/-- The rule that a diagnostic reports on. -/
inductive Code where
  /-- The script ends inside a dialog block. -/
  | openBlock
  /-- A directive has too few or too many arguments. -/
  | argumentCount
  /-- A coordinate is not a 32-bit number. -/
  | coordinate
  /-- No declaration of the wanted dialog. -/
  | noDeclaration
  /-- The anchor text does not occur. -/
  | noAnchor
  /-- A line of the asset section is not an `RCDATA` entry. -/
  | assetKind
  /-- The location of an asset is not quoted. -/
  | assetLocation
  /-- An asset lies outside the source folder. -/
  | assetOutside
  /-- An identifier is missing from the symbol table. -/
  | unknownSymbol
  /-- A generic control has no widget. -/
  | noWidget
  /-- A keyword is not supported. -/
  | unsupported
  deriving DecidableEq, Repr

namespace Code

def all : List Code :=
  [openBlock, argumentCount, coordinate, noDeclaration, noAnchor, assetKind, assetLocation,
    assetOutside, unknownSymbol, noWidget, unsupported]

/-- The short name under which a rule is reported: `E` for errors, `W` for warnings. -/
def text : Code → Text
  | openBlock => lit "E101"
  | argumentCount => lit "E102"
  | coordinate => lit "E103"
  | noDeclaration => lit "E110"
  | noAnchor => lit "E111"
  | assetKind => lit "E120"
  | assetLocation => lit "E121"
  | assetOutside => lit "E122"
  | unknownSymbol => lit "W001"
  | noWidget => lit "W002"
  | unsupported => lit "W003"

/-- Whether a placeholder comment stands where the problem is. -/
def isPlaceholder : Code → Bool
  | noWidget | unsupported => true
  | _ => false

end Code

/-- A place in the script and what is to be said about it. A secondary label only adds context. -/
structure Label where
  span : Span
  message : Text
  primary : Bool := true
  deriving DecidableEq, Repr

structure Diagnostic where
  severity : Severity
  code : Option Code := none
  message : Text
  labels : List Label := []
  help : Option Text := none
  deriving DecidableEq, Repr

namespace Diagnostic

/-- The one-line form, such as `error[E102]: message`. -/
def text (d : Diagnostic) : Text :=
  match d.code with
  | some code => d.severity.text ++ lit "[" ++ code.text ++ lit "]: " ++ d.message
  | none => d.severity.text ++ lit ": " ++ d.message

def isError (d : Diagnostic) : Bool := d.severity == .error

end Diagnostic

/-! ## Lists of diagnostics -/

namespace Diagnostics

def hasErrors (ds : List Diagnostic) : Bool := ds.any Diagnostic.isError

/-- Success, with the warnings, if there is no error; otherwise failure with everything. -/
def settle (ds : List Diagnostic) : Except (List Diagnostic) (List Diagnostic) :=
  if hasErrors ds then .error ds else .ok ds

/-- The results of independent steps: all of them, or every problem in order. -/
def gather {α : Type} (results : List (Except Diagnostic α)) : Except (List Diagnostic) (List α) :=
  match results.filterMap problem? with
  | [] => .ok (results.filterMap Except.toOption)
  | problems => .error problems
where
  /-- The problem of a step that failed. -/
  problem? : Except Diagnostic α → Option Diagnostic
    | .error d => some d
    | .ok _ => none

/-- The codes of the errors. -/
def codesOfErrors (ds : List Diagnostic) : List Code := (ds.filter Diagnostic.isError).filterMap (·.code)

/-- The first error, and how many more there are. -/
def summary (ds : List Diagnostic) : Text :=
  match ds.filter Diagnostic.isError with
  | [] => lit "conversion failed"
  | [first] => first.text
  | first :: more => first.text ++ lit " (+" ++ Nat.toDigits 10 more.length ++ lit " more)"

end Diagnostics

end DialogGrid
