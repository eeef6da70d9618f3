import DialogGrid.Directive
import DialogGrid.Lines

/-!
# Dialog blocks

A dialog begins with a declaration line, `ID DIALOG …` or `ID DIALOGEX …`, which is searched
backward from a place inside the dialog. The directives up to `BEGIN` are its header, those
from there up to `END` its body.
-/

namespace DialogGrid

/-! ## Header properties -/

/-- The properties of a dialog in the order in which they first occur. -/
abbrev Header := List (Text × List Text)

namespace Header

/-- The arguments of a property, letter case aside. -/
def get? (h : Header) (name : Text) : Option (List Text) :=
  (h.find? fun (key, _) => key.sameLetters name).map (·.2)

/-- Sets a property. One that is there, in whatever letter case, keeps its place and spelling. -/
def insert (h : Header) (name : Text) (args : List Text) : Header :=
  match h with
  | [] => [(name, args)]
  | (key, old) :: rest =>
    if key.sameLetters name then (key, args) :: rest else (key, old) :: insert rest name args

/-- The properties that directives set: all of those with arguments. -/
def ofDirectives (ds : List Directive) : Header :=
  (ds.filter (·.args ≠ [])).foldl (fun h d => h.insert d.name d.args) []

end Header

/-- A dialog: its identifier, its header, the directives of its body and the span of it all. -/
structure Dialog where
  id : Text
  header : Header
  body : List Directive
  span : Span
  deriving DecidableEq, Repr

namespace Dialog

/-- The title of the window: the first argument of `CAPTION`, without quotes. -/
def caption? (d : Dialog) : Option Text :=
  ((d.header.get? (lit "CAPTION")).bind List.head?).map Text.unquote

/-! ## Finding and reading a dialog -/

inductive ReadError where
  /-- No declaration starts at or before `index`. -/
  | noDeclaration (id? : Option Text) (index : Nat)
  /-- The text ends before the keyword `missing`. -/
  | incomplete (missing : Text) (declaration : Line) (size : Nat)
  /-- The anchor text does not occur in a script of that size. -/
  | noAnchor (anchor : Text) (size : Nat)
  deriving DecidableEq, Repr

def ReadError.diagnostic : ReadError → Diagnostic
  | noDeclaration id? index =>
    let wanted := match id? with
      | some id => lit "`" ++ id ++ lit " DIALOG`"
      | none => lit "a `DIALOG` or `DIALOGEX`"
    { severity := .error
      code := some .noDeclaration
      message := lit "no " ++ wanted ++ lit " declaration found before the anchor"
      labels := [⟨.ofBounds index index, lit "searched backward from here", true⟩] }
  | incomplete missing declaration size =>
    { severity := .error
      code := some .openBlock
      message := lit "input ended before `" ++ missing ++ lit "`"
      labels :=
        [⟨.ofBounds size size, lit "input ends here", true⟩,
          ⟨.ofBounds declaration.start (declaration.start + declaration.text.byteSize),
            lit "dialog declared here", false⟩]
      help := some (lit "close the dialog block with `" ++ missing ++ lit "`") }
  | noAnchor anchor size =>
    { severity := .error
      code := some .noAnchor
      message := lit "anchor text `" ++ anchor ++ lit "` not found"
      labels := [⟨.ofBounds 0 size, lit "searched this file", true⟩]
      help := some (lit "pass the text of a line inside the dialog header, such as its CAPTION") }

/-- The byte offset of the first occurrence of the anchor text. -/
def locate (source anchor : Text) : Except ReadError Nat :=
  match source.before? anchor with
  | some before => .ok (Text.byteSize before)
  | none => .error (.noAnchor anchor source.byteSize)

/-- The identifier that a line declares. -/
def declares? (line : Text) : Option Text :=
  match line.words with
  | id :: keyword :: _ =>
    if keyword.sameLetters (lit "DIALOG") || keyword.sameLetters (lit "DIALOGEX") then some id else none
  | _ => none

/-- The last declaration that starts at or before a byte: its line and its identifier. With a
wanted identifier only its declarations count. -/
def declaration? (source : Text) (index : Nat) (wanted? : Option Text) : Option (Line × Text) :=
  let before := source.lines.takeWhile fun line => line.start ≤ index
  let declared := before.filterMap fun line => (declares? line.text).map (line, ·)
  (declared.filter fun (_, id) => wanted?.all (· == id)).getLast?

/-- Reads the dialog whose declaration is the last one at or before a byte of the script. -/
def parse (source : Text) (index : Nat) (wanted? : Option Text) : Except ReadError Dialog :=
  let index := source.boundary index
  match declaration? source index wanted? with
  | none => .error (.noDeclaration wanted? index)
  | some (line, id) =>
    let (header, rest) :=
      (Cursor.ofOffset source line.start).directives.span (!·.isNamed (lit "BEGIN"))
    match rest with
    | [] => .error (.incomplete (lit "BEGIN") line source.byteSize)
    | _ :: rest =>
      let (body, rest) := rest.span (!·.isNamed (lit "END"))
      match rest with
      | [] => .error (.incomplete (lit "END") line source.byteSize)
      | close :: _ => .ok ⟨id, .ofDirectives header, body, .ofBounds line.start close.span.stop⟩

end Dialog

end DialogGrid
