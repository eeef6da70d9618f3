import DialogGrid.Directive
import DialogGrid.Element
import DialogGrid.Numeral

/-!
# Schemas

Each supported keyword has a schema: the fields of its arguments in order, of which the last
few may be missing. A directive that follows the schema of its keyword is an element; one that
does not breaks it in one stated way, a wrong number of arguments before a bad coordinate.
-/

namespace DialogGrid

/-- The fields of a keyword's arguments, how many are required, and where the four coordinates
and the style stand. -/
structure Schema where
  fields : List Text
  required : Nat
  rectAt : Nat
  styleAt : Nat
  deriving DecidableEq, Repr

namespace Schema

/-- Labels and buttons. -/
def ofText : Schema where
  fields := [lit "text", lit "id", lit "x", lit "y", lit "width", lit "height", lit "style", lit "extended-style"]
  required := 6
  rectAt := 2
  styleAt := 6

/-- Lists and edit fields, which have no text. -/
def ofId : Schema where
  fields := [lit "id", lit "x", lit "y", lit "width", lit "height", lit "style", lit "extended-style"]
  required := 5
  rectAt := 1
  styleAt := 5

/-- Generic controls, which name their window class and put the style first. -/
def ofControl : Schema where
  fields :=
    [lit "text", lit "id", lit "class", lit "style", lit "x", lit "y", lit "width", lit "height",
      lit "extended-style"]
  required := 8
  rectAt := 4
  styleAt := 3

/-- The fields after `name`, the optional ones in nested brackets. -/
def signature (s : Schema) (name : Text) : Text :=
  let optional := s.fields.drop s.required
  name ++ lit " " ++ (lit ", ").intercalate (s.fields.take s.required)
    ++ optional.flatMap (lit " [, " ++ ·) ++ List.replicate optional.length ']'

end Schema

/-- The keywords that stand for elements. -/
inductive Keyword where
  | ltext
  | rtext
  | ctext
  | comboBox
  | pushButton
  | defPushButton
  | editText
  | control
  deriving DecidableEq, Repr

namespace Keyword

def all : List Keyword := [ltext, rtext, ctext, comboBox, pushButton, defPushButton, editText, control]

def name : Keyword → Text
  | ltext => lit "LTEXT"
  | rtext => lit "RTEXT"
  | ctext => lit "CTEXT"
  | comboBox => lit "COMBOBOX"
  | pushButton => lit "PUSHBUTTON"
  | defPushButton => lit "DEFPUSHBUTTON"
  | editText => lit "EDITTEXT"
  | control => lit "CONTROL"

/-- The keyword with this name, letter case aside. -/
def ofName? (name : Text) : Option Keyword := all.find? (fun k => name.sameLetters k.name)

def schema : Keyword → Schema
  | ltext | rtext | ctext | pushButton | defPushButton => .ofText
  | comboBox | editText => .ofId
  | control => .ofControl

/-- The element with these arguments; its coordinates and style are given. Texts and classes
lose the quotes around them, identifiers stay as written. -/
def element (k : Keyword) (args : List Text) (rect : Rect) (style : Style) : Element :=
  let arg (index : Nat) : Text := args.getD index []
  match k with
  | ltext => .label (arg 0).unquote (arg 1) rect style .start
  | rtext => .label (arg 0).unquote (arg 1) rect style .finish
  | ctext => .label (arg 0).unquote (arg 1) rect style .center
  | comboBox => .comboBox (arg 0) rect style
  | pushButton => .pushButton (arg 0).unquote (arg 1) rect style false
  | defPushButton => .pushButton (arg 0).unquote (arg 1) rect style true
  | editText => .editText (arg 0) rect style
  | control => .control (arg 0).unquote (arg 1) (arg 2).unquote rect style

end Keyword

/-! ## Breaking a schema -/

inductive SchemaError where
  | tooFew (schema : Schema) (found : Nat)
  | tooMany (schema : Schema) (found : Nat)
  | notInteger (field raw : Text)
  deriving DecidableEq, Repr

namespace SchemaError

/-- The diagnostic for a directive that breaks its schema. -/
def diagnostic (d : Directive) : SchemaError → Diagnostic
  | tooFew schema found => argumentCount schema (lit "at least " ++ Text.ofNat schema.required) found
  | tooMany schema found => argumentCount schema (lit "at most " ++ Text.ofNat schema.fields.length) found
  | notInteger field raw => {
      severity := .error
      code := some .coordinate
      message := lit "`" ++ d.name ++ lit "` " ++ field ++ lit " must be an integer, found `" ++ raw ++ lit "`"
      labels := [⟨d.span, lit "in this directive", true⟩] }
where
  /-- A wrong number of arguments. -/
  argumentCount (schema : Schema) (expected : Text) (found : Nat) : Diagnostic := {
    severity := .error
    code := some .argumentCount
    message := lit "`" ++ d.name ++ lit "` expects " ++ expected ++ lit " arguments, found " ++ Text.ofNat found
    labels := [⟨d.span, lit "in this directive", true⟩]
    help := some (lit "expected `" ++ schema.signature d.name.upper ++ lit "`") }

end SchemaError

namespace Schema

def checkCount (s : Schema) (found : Nat) : Except SchemaError Unit :=
  if found < s.required then .error (.tooFew s found)
  else if s.fields.length < found then .error (.tooMany s found)
  else .ok ()

/-- The coordinate called `field`, at one place of the arguments. -/
def coordinate (args : List Text) (index : Nat) (field : Text) : Except SchemaError Int32 :=
  let raw := args.getD index []
  match raw.int32? with
  | some n => .ok n
  | none => .error (.notInteger field raw)

/-- The four coordinates; the first one that is no number is the one reported. -/
def rect (s : Schema) (args : List Text) : Except SchemaError Rect := do
  let x ← coordinate args s.rectAt (lit "x")
  let y ← coordinate args (s.rectAt + 1) (lit "y")
  let width ← coordinate args (s.rectAt + 2) (lit "width")
  let height ← coordinate args (s.rectAt + 3) (lit "height")
  return ⟨x, y, width, height⟩

end Schema

/-- The element that a directive stands for. A name that is no keyword is never an error. -/
def Element.ofDirective (d : Directive) : Except SchemaError Element :=
  match Keyword.ofName? d.name with
  | none => .ok (.unsupported d.name d.args)
  | some keyword => do
    let schema := keyword.schema
    schema.checkCount d.args.length
    let rect ← schema.rect d.args
    return keyword.element d.args rect (.parse (d.args.getD schema.styleAt []))

end DialogGrid
