import DialogGrid.Blank
import DialogGrid.Diagnostic
import DialogGrid.Escape
import DialogGrid.Lines

/-!
# Assets

Files that a script embeds are listed in its last part, after a marker comment, one to a line:
`NAME RCDATA "location"`. Only lines that hold the word `RCDATA` between two spaces are looked
at; each of them is an entry or a reported problem.
-/

namespace DialogGrid

/-- An embedded file: its name in the script, where it lies, and the line that lists it. -/
structure Asset where
  name : Text
  location : Text
  span : Span
  deriving DecidableEq, Repr

namespace Asset

/-- The comment after which a resource editor puts the assets. -/
def defaultMarker : Text := lit "// Generated from the TEXTINCLUDE 3 resource."

/-- The part of a script after the last marker, all of it without one, as lines. -/
def sectionLines (source marker : Text) : List Line :=
  let part := (source.afterLast? marker).getD source
  part.lines (source.byteSize - Text.byteSize part)

def isEntryLine (line : Line) : Bool := line.text.hasInfix (lit " RCDATA ")

/-- The span of a line without the blanks around it. -/
def lineSpan (line : Line) : Span :=
  let trimmed := line.text.trimEnd
  .ofBounds (line.start + (trimmed.byteSize - trimmed.trimStart.byteSize)) (line.start + trimmed.byteSize)

inductive EntryError where
  | kind (found name : Text)
  | location (name : Text)
  deriving DecidableEq, Repr

def EntryError.diagnostic (span : Span) : EntryError → Diagnostic
  | .kind found name => {
      severity := .error
      code := some .assetKind
      message := lit "unknown resource item `" ++ found ++ lit "` for `" ++ name ++ lit "`"
      labels := [⟨span, lit "in this line", true⟩]
      help := some (lit "only `NAME RCDATA \"path\"` entries are supported") }
  | .location name => {
      severity := .error
      code := some .assetLocation
      message := lit "resource location of `" ++ name ++ lit "` is not a quoted string"
      labels := [⟨span, lit "in this line", true⟩] }

/-- Reads an entry: the name up to the first space, the word `RCDATA`, and a location in
quotes, which are looked for after the escapes are decoded. -/
def read (line : Line) : Except EntryError Asset :=
  let (name, rest) := line.text.trim.cutAt (· == ' ')
  let (kind, location) := rest.trimStart.cutAt isBlank
  if kind ≠ lit "RCDATA" then .error (.kind kind name)
  else
    match (Escape.decode location.trim).quoted? with
    | some location => .ok ⟨name, location, lineSpan line⟩
    | none => .error (.location name)

/-- The assets that a script lists, or every line that is no entry. -/
def scan (source marker : Text) : Except (List Diagnostic) (List Asset) :=
  Diagnostics.gather <| ((sectionLines source marker).filter isEntryLine).map fun line =>
    (read line).mapError (EntryError.diagnostic (lineSpan line))

end Asset

end DialogGrid
