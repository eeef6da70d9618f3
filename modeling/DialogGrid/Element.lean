import DialogGrid.Numeral
import DialogGrid.Style

/-!
# Dialog elements

What a body directive stands for: a control with its text, identifier, place and style.
-/

namespace DialogGrid

/-- A rectangle in dialog units. -/
structure Rect where
  x : Int32
  y : Int32
  width : Int32
  height : Int32
  deriving DecidableEq, Repr

/-- The four numbers with commas between them. -/
def Rect.text (r : Rect) : Text :=
  (lit ", ").intercalate ([r.x, r.y, r.width, r.height].map fun n => Text.ofInt n.toInt)

inductive Align where
  | start
  | finish
  | center
  deriving DecidableEq, Repr

/-- The horizontal alignment as the interface toolkit calls it. -/
def Align.text : Align → Text
  | .start => lit "start"
  | .finish => lit "end"
  | .center => lit "center"

/-- A control of a dialog. What has no kind of its own keeps its name and arguments. -/
inductive Element where
  | label (text id : Text) (rect : Rect) (style : Style) (align : Align)
  | comboBox (id : Text) (rect : Rect) (style : Style)
  | pushButton (text id : Text) (rect : Rect) (style : Style) (isDefault : Bool)
  | editText (id : Text) (rect : Rect) (style : Style)
  | control (text id windowClass : Text) (rect : Rect) (style : Style)
  | unsupported (name : Text) (args : List Text)
  deriving DecidableEq, Repr

namespace Element

def isVisible : Element → Bool
  | label _ _ _ style _ => style.isVisible
  | comboBox _ _ style => style.isVisible
  | pushButton _ _ _ style _ => style.isVisible
  | editText _ _ style => style.isVisible
  | control _ _ _ _ style => style.isVisible
  | unsupported _ _ => true

end Element

/-- An edit control can be typed into unless its style says otherwise. -/
def Style.isEditable (s : Style) : Bool := !s.contains (lit "ES_READONLY")

/-- Whether a window class is the one of buttons. -/
def isButtonClass (windowClass : Text) : Bool := windowClass.sameLetters (lit "button")

end DialogGrid
