import DialogGrid.Proofs.Rounding
import DialogGrid.Proofs.StandardRules

/-!
# How many rows a drop-down list spans

The standard rules give a drop-down list the height of one row before heights are compressed. It spans a single row
exactly if the compressed row is at least that high (`Grid.rowSpan_eq_one_iff`): the quotient is rounded before it is
rounded up, but a height of 31 bits is never so close above a row that this makes a difference. And the height is written
out and read again, so it has to be a coordinate.
-/

namespace DialogGrid

/-- A value is at least a whole number. One that is out of range is. -/
def Magnitude.Reaches : Magnitude → Nat → Prop
  | .infinite, _ => True
  | .finite m e, n => (n : ℚ) ≤ m * 2 ^ e

/-! ## Ratios -/

namespace Grid

/-- What is known of the row ratio and of the compressed rows of a grid. -/
structure Rows (r : Ratios) (g : Grid) : Prop where
  rowHeight_pos : 0 < rowHeight r
  precise : ∀ m e, g.height = .finite m e → m ≤ 2 ^ 53

private theorem exists_of_divisor {name : Text} {ratio : Float} {x : Magnitude}
    (accepted : divisor name ratio = .ok x) :
    ∃ m e, Binary64.ofFloat ratio = .finite false m e ∧ 0 < m ∧ x = .finite m e := by
  unfold divisor at accepted
  split at accepted
  · next value positive =>
    obtain rfl := Except.ok.inj accepted
    unfold Binary64.positive? at positive
    split at positive
    · next m e read =>
      split at positive
      · cases positive
      · next nonzero => exact ⟨m, e, read, Nat.pos_of_ne_zero nonzero, (Option.some.inj positive).symm⟩
    · cases positive
  · cases accepted

private theorem rows_of_ofRatios {r : Ratios} {g : Grid} (accepted : ofRatios r = .ok g) : Rows r g := by
  obtain ⟨column, -, accepted⟩ := bind_eq_ok.mp accepted
  obtain ⟨row, isRow, accepted⟩ := bind_eq_ok.mp accepted
  obtain ⟨compression, isCompression, accepted⟩ := bind_eq_ok.mp accepted
  obtain rfl := Except.ok.inj accepted
  obtain ⟨m, e, read, positive, rfl⟩ := exists_of_divisor isRow
  obtain ⟨n, f, -, positive', rfl⟩ := exists_of_divisor isCompression
  constructor
  · refine Nat.lt_of_not_le fun none => ?_
    rw [rowHeight, read, Binary64.ceil, Magnitude.ceil_le_iff (by decide), Nat.zero_mul] at none
    have numerator : 0 < m * 2 ^ e.toNat := by positivity
    omega
  · intro k l product
    refine Magnitude.mantissa_le_of_nearest ?_ ?_ product
    · simp only [Nat.pow_eq]
      positivity
    · simp only [Nat.pow_eq]
      positivity

end Grid

/-! ## Quotients -/

namespace Magnitude

/-- A number of 31 bits that is above a value of 53 bits is so by more than the rounding of their quotient. -/
private theorem apart_of_precise {n m : Nat} {e : Int} (small : n < 2 ^ 31) (precise : m ≤ 2 ^ 53)
    (above : m * 2 ^ e.toNat < n * 2 ^ (-e).toNat) :
    m * 2 ^ e.toNat * (2 ^ 53 + 1) < n * 2 ^ (-e).toNat * 2 ^ 53 := by
  rcases Int.lt_or_le e 0 with fraction | whole
  · -- The number is even once it is scaled, so it is not the one next to `2 ^ 53`.
    obtain ⟨p, scale⟩ : ∃ p, (-e).toNat = p + 1 := ⟨(-e).toNat - 1, by omega⟩
    rw [show e.toNat = 0 by omega, scale, Nat.pow_succ 2 p, ← Nat.mul_assoc] at above ⊢
    omega
  · rw [show (-e).toNat = 0 by omega] at above ⊢
    omega

/-- A number of 31 bits has a quotient of at most one exactly if the divisor is at least the number. -/
theorem ceil_divide_le_one_iff {x : Magnitude} {n : Nat} (positive : 0 < n) (small : n < 2 ^ 31)
    (precise : ∀ m e, x = .finite m e → m ≤ 2 ^ 53) : (divide n x).ceil cellLimit ≤ 1 ↔ x.Reaches n := by
  cases x with
  | infinite =>
    have none : (finite 0 0).ceil cellLimit ≤ 1 := by decide
    exact iff_of_true none trivial
  | finite m e =>
    rw [divide]
    split
    · next zero =>
      refine iff_of_false (by decide) ?_
      simpa [Reaches, zero] using Nat.ne_of_gt positive
    · next nonzero =>
      have divisor : 0 < m := Nat.pos_of_ne_zero nonzero
      simp only [Nat.pow_eq]
      rw [ceil_nearest_le_iff (by positivity) (by positivity) (by decide) (by decide) (by decide) fun above => ?_,
        Nat.one_mul, le_scaled_iff, Reaches]
      rw [Nat.one_mul] at above ⊢
      exact apart_of_precise small (precise m e rfl) above

end Magnitude

/-- The height of one row spans a single row exactly if the rows of the grid are at least that high. -/
theorem Grid.rowSpan_eq_one_iff {r : Ratios} {g : Grid} (accepted : Grid.ofRatios r = .ok g)
    (inside : rowHeight r ≤ 2147483647) : g.rowSpan (.ofNat (rowHeight r)) = 1 ↔ g.height.Reaches (rowHeight r) := by
  have rows := rows_of_ofRatios accepted
  have height : (Int32.ofNat (rowHeight r)).toInt = rowHeight r := Int32.toInt_ofNat_of_lt (by omega)
  have span : g.rowSpan (.ofNat (rowHeight r)) = max 1 ((Magnitude.divide (rowHeight r) g.height).ceil cellLimit) := by
    have above : ¬ (Int32.ofNat (rowHeight r)).toInt ≤ 0 := by
      have positive := rows.rowHeight_pos
      omega
    show max 1 (cellsOf (.ofNat (rowHeight r)) g.height) = _
    rw [cellsOf, if_neg above, height, Int.toNat_natCast]
  rw [span, ← Magnitude.ceil_divide_le_one_iff rows.rowHeight_pos (by omega) rows.precise]
  omega

/-! ## Drop-down lists -/

private theorem Text.not_isCoordinate_ofNat {n : Nat} (beyond : 2147483647 < n) : ¬ (ofNat n).IsCoordinate := by
  rintro ⟨k, written⟩
  have read := integer?_eq_some_iff.mpr written
  rw [integer?_eq_some_iff.mpr (.bare (digits_ofNat n))] at read
  have same := Option.some.inj read
  have high := k.toInt_lt
  omega

namespace Builder

variable {d : Directive} {id x y width height : Text} {more : List Text}

theorem fragment_dropDown_of_inside (b : Builder) (named : d.isNamed (lit "COMBOBOX") = true)
    (args : d.args = id :: x :: y :: width :: height :: more) (few : more.length ≤ 2)
    (numbers : ∀ t ∈ [x, y, width], t.IsCoordinate) {n : Int32} (written : height.Numeral n.toInt) :
    (∃ opening, (b.plain.fragment d).markup = opening ++ rowSpanLine (b.grid.rowSpan n) ++ Widget.ending) ∧
      ∀ problem ∈ (b.plain.fragment d).diagnostics, problem.isError = false := by
  obtain ⟨⟨left, isLeft⟩, ⟨top, isTop⟩, ⟨wide, isWide⟩, -⟩ := by simpa only [List.forall_mem_cons] using numbers
  have documented : Element.Documented .comboBox d.args (.comboBox id ⟨left, top, wide, n⟩ (.leading more)) := by
    rw [args]
    exact .comboBox (.cons isLeft (.cons isTop (.cons isWide (.cons written .nil)))) few
  have read := (Element.ofDirective_dropDown_iff named).mpr documented
  refine ⟨?_, plain_fragment_valid_iff.mpr ⟨_, read⟩⟩
  rw [b.plain_fragment_dropDown read]
  exact ⟨_, Widget.markup_eq _⟩

theorem fragment_dropDown_of_beyond (b : Builder) (named : d.isNamed (lit "COMBOBOX") = true)
    (args : d.args = id :: x :: y :: width :: height :: more) (few : more.length ≤ 2) (bad : ¬ height.IsCoordinate) :
    ∃ problem, b.plain.fragment d = ⟨[], [problem]⟩ ∧ problem.Reports .error (lit "E103") d.span := by
  have counts : Form.dropDown.Counts d.args := by
    rw [args]
    exact ⟨Nat.le_add_left _ _, Nat.add_le_add_right few 5⟩
  have coordinates : Form.dropDown.coordinates d.args = [x, y, width, height] := by
    rw [args]
    rfl
  have reads := Form.reads Form.dropDown_listed named
  obtain ⟨problem, failed, told⟩ := reads.coordinate_iff.mpr ⟨counts, height, by simp [coordinates], bad⟩
  cases read : Element.ofDirective d with
  | ok e =>
    rw [read] at failed
    cases failed
  | error e =>
    rw [read] at failed
    refine ⟨problem, ?_, told⟩
    rw [fragment_eq, alone_translate_of_error (b := b.plain) read]
    exact congrArg (fun problem => (⟨[], [problem]⟩ : Fragment)) (Except.error.inj failed)

/-- With the standard rules of its grid, a drop-down list whose other coordinates are numbers is translated without an
error if the height of one row is a coordinate, and it spans a single row exactly if the rows of the grid, once
compressed, are at least that high. If the height is no coordinate, nothing but an error is left of it. -/
theorem translate_dropDown (b : Builder) {r : Ratios} (standard : b.rules = standardRules r)
    (accepted : Grid.ofRatios r = .ok b.grid) (named : d.isNamed (lit "COMBOBOX") = true)
    (args : d.args = id :: x :: y :: width :: height :: more) (few : more.length ≤ 2)
    (numbers : ∀ t ∈ [x, y, width], t.IsCoordinate) (collected : Collector) :
    let run := (b.translate d).run collected
    let rows := b.grid.rowSpan (.ofNat (rowHeight r))
    (rowHeight r ≤ 2147483647 →
      (rows = 1 ↔ b.grid.height.Reaches (rowHeight r)) ∧
        ∃ opening reported, run.1 = opening ++ rowSpanLine rows ++ Widget.ending ∧
          run.2.diagnostics = collected.diagnostics ++ reported ∧ ∀ problem ∈ reported, problem.severity ≠ .error) ∧
      (2147483647 < rowHeight r → run.1 = [] ∧ ∃ problem,
        run.2.diagnostics = collected.diagnostics ++ [problem] ∧ problem.Reports .error (lit "E103") d.span) := by
  intro run rows
  obtain ⟨markup, diagnostics⟩ := b.independent_translate d collected
  have named' : (d.setArg 4 (Text.ofNat (rowHeight r))).isNamed (lit "COMBOBOX") = true := named
  have args' : (d.setArg 4 (Text.ofNat (rowHeight r))).args = id :: x :: y :: width :: Text.ofNat (rowHeight r) :: more := by
    rw [Directive.setArg, args]
    rfl
  have fragment : b.fragment d = b.plain.fragment (d.setArg 4 (Text.ofNat (rowHeight r))) := by
    rw [fragment_eq_plain (standard ▸ standardRules_keepMarkup r), standard, adjust_standardRules, if_pos named]
  constructor
  · intro inside
    obtain ⟨⟨opening, shown⟩, valid⟩ := b.fragment_dropDown_of_inside named' args' few numbers (Text.numeral_ofNat inside)
    rw [← fragment, fragment_eq] at shown valid
    refine ⟨Grid.rowSpan_eq_one_iff accepted inside, opening, _, markup.trans shown, diagnostics, fun problem member => ?_⟩
    simpa [Diagnostic.isError] using valid problem member
  · intro beyond
    obtain ⟨problem, broken, told⟩ := b.fragment_dropDown_of_beyond named' args' few (Text.not_isCoordinate_ofNat beyond)
    rw [← fragment, fragment_eq] at broken
    obtain ⟨nothing, single⟩ := Fragment.mk.inj broken
    exact ⟨markup.trans nothing, problem, by rw [diagnostics, single], told⟩

/-- Where heights are not compressed but stretched to the double, a drop-down list spans two rows. -/
theorem translate_dropDown_stretched :
    let r : Ratios := { compression := 0.5 }
    let grid : Grid := ⟨.finite 4503599627370496 (-49), .finite 4503599627370496 (-50), .finite 4503599627370496 (-51)⟩
    let b : Builder := ⟨⟨[(lit "IDC_A", lit "1001")]⟩, lit "ID_", grid, standardRules r⟩
    let d : Directive :=
      ⟨lit "COMBOBOX", [lit "IDC_A", lit "8", lit "30", lit "196", lit "120"], .ofBounds 0 27⟩
    Grid.ofRatios r = .ok b.grid ∧ ¬ b.grid.height.Reaches (rowHeight r) ∧
      ∃ opening, ((b.translate d).run .empty).1 = opening ++ rowSpanLine 2 ++ Widget.ending := by
  intro r grid b d
  have accepted : Grid.ofRatios r = .ok b.grid := toOption_eq_some.mp (by decide +kernel)
  have numbers : ∀ t ∈ [lit "8", lit "30", lit "196"], t.IsCoordinate := by decide
  obtain ⟨inside, -⟩ := translate_dropDown b rfl accepted (d := d) (by decide) rfl (by decide) numbers .empty
  obtain ⟨single, opening, reported, shown, -⟩ := inside (by decide +kernel)
  have two : b.grid.rowSpan (.ofNat (rowHeight r)) = 2 := by decide +kernel
  rw [two] at single shown
  exact ⟨accepted, fun reaches => absurd (single.mpr reaches) (by decide), opening, shown⟩

end Builder

end DialogGrid
