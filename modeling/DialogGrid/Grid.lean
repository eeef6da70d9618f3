import DialogGrid.Element
import DialogGrid.ShortestDecimal

/-!
# The grid

Controls are placed in dialog units, on a scale too fine for the rows and columns of a grid.
Every coordinate is divided by a ratio and rounded up; what lies left of or above the origin
goes into the first column or row, and a control spans at least one cell. Heights are
compressed further, by a factor of their own.
-/

namespace DialogGrid

/-- Dialog units per column and per row, and the compression of heights. -/
structure Ratios where
  column : Float := 8
  row : Float := 4
  compression : Float := 80

/-- The cell where a control begins, and how many columns and rows it spans. -/
structure Cell where
  column : Nat
  row : Nat
  columnSpan : Nat
  rowSpan : Nat
  columnSpan_pos : 0 < columnSpan := by omega
  rowSpan_pos : 0 < rowSpan := by omega
  deriving DecidableEq, Repr

/-- A cell whose spans are at least one. -/
def Cell.ofSpans (column row columnSpan rowSpan : Nat) : Cell :=
  ⟨column, row, max 1 columnSpan, max 1 rowSpan, by omega, by omega⟩

/-- The largest cell index, and the largest height. -/
def cellLimit : Nat := 4294967295

/-- How many cells a coordinate takes up: the quotient, rounded up and at least zero. -/
def cellsOf (value : Int32) (ratio : Magnitude) : Nat :=
  if value.toInt ≤ 0 then 0 else (Magnitude.divide value.toInt.toNat ratio).ceil cellLimit

/-- A ratio that is not a positive finite number. -/
structure RatioError where
  name : Text
  value : Binary64
  deriving DecidableEq, Repr

def RatioError.message (e : RatioError) : Text :=
  lit "grid ratio `" ++ e.name ++ lit "` must be a positive finite number, got " ++ e.value.text

/-- The divisors of a grid: the values of ratios that are positive and finite. -/
structure Grid where
  column : Magnitude
  row : Magnitude
  height : Magnitude
  deriving DecidableEq, Repr

namespace Grid

/-- The divisor that a ratio is, if it is positive and finite. -/
def divisor (name : Text) (ratio : Float) : Except RatioError Magnitude :=
  match (Binary64.ofFloat ratio).positive? with
  | some value => .ok value
  | none => .error ⟨name, .ofFloat ratio⟩

/-- The grid of three ratios, or the first of them that is no ratio. -/
def ofRatios (r : Ratios) : Except RatioError Grid := do
  let column ← divisor (lit "column_ratio") r.column
  let row ← divisor (lit "row_ratio") r.row
  let compression ← divisor (lit "row_compression") r.compression
  return ⟨column, row, row.mul compression⟩

/-- The cell of a rectangle. -/
def cell (g : Grid) (r : Rect) : Cell :=
  .ofSpans (cellsOf r.x g.column) (cellsOf r.y g.row) (cellsOf r.width g.column) (cellsOf r.height g.height)

end Grid

end DialogGrid
