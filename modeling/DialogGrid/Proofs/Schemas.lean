import DialogGrid.Proofs.Diagnostics
import DialogGrid.Proofs.Segments

/-!
# Which directives follow their schema

For each keyword it is documented how many arguments a directive has, where its coordinates stand and
which element it is. The documentation is kept to: a directive under a keyword has too few or too many
arguments, or some of its coordinates is no number, or it stands for the element that is documented
(`Form.reads`), and the first of these that holds is what is reported (`Element.ofDirective_documented`).
-/

namespace DialogGrid

/-! ## Numbers as they are written -/

namespace Text

/-- Digits that write a number. There is at least one. -/
structure Digits (t : Text) (n : Nat) : Prop where
  ne_nil : t ≠ []
  digits : ∀ c ∈ t, c.isDigit = true
  value : Nat.ofDigitChars 10 t 0 = n

/-- A whole number as it is written: digits, with at most one sign before them. -/
inductive Numeral : Text → Int → Prop
  | bare {t : Text} {n : Nat} (digits : Digits t n) : Numeral t n
  | plus {t : Text} {n : Nat} (digits : Digits t n) : Numeral ('+' :: t) n
  | minus {t : Text} {n : Nat} (digits : Digits t n) : Numeral ('-' :: t) (-n)

/-- A number of 32 bits as it is written. -/
def IsCoordinate (t : Text) : Prop := ∃ n : Int32, t.Numeral n.toInt

theorem natural?_eq_some_iff {t : Text} {n : Nat} : t.natural? = some n ↔ t.Digits n := by
  constructor
  · intro read
    unfold natural? at read
    split at read
    · next digits => exact ⟨digits.1, List.all_eq_true.mp digits.2, Option.some.inj read⟩
    · cases read
  · rintro ⟨nonempty, digits, value⟩
    rw [natural?, if_pos ⟨nonempty, List.all_eq_true.mpr digits⟩, value]

private theorem integer?_cons (c : Char) (rest : Text) :
    integer? (c :: rest) =
      if c = '-' then (natural? rest).map (fun n : Nat => -(n : Int))
      else if c = '+' then (natural? rest).map (fun n : Nat => (n : Int))
      else (natural? (c :: rest)).map (fun n : Nat => (n : Int)) := by
  rw [integer?]
  split
  · cases natural? rest <;> rfl
  · split
    · cases natural? rest <;> rfl
    · cases natural? (c :: rest) <;> rfl

theorem integer?_eq_some_iff {t : Text} {n : Int} : t.integer? = some n ↔ t.Numeral n := by
  constructor
  · intro read
    cases t with
    | nil => cases read
    | cons c rest =>
      rw [integer?_cons] at read
      split at read
      · next minus =>
        obtain ⟨m, digits, rfl⟩ := Option.map_eq_some_iff.mp read
        rw [minus]
        exact .minus (natural?_eq_some_iff.mp digits)
      · split at read
        · next plus =>
          obtain ⟨m, digits, rfl⟩ := Option.map_eq_some_iff.mp read
          rw [plus]
          exact .plus (natural?_eq_some_iff.mp digits)
        · obtain ⟨m, digits, rfl⟩ := Option.map_eq_some_iff.mp read
          exact .bare (natural?_eq_some_iff.mp digits)
  · intro written
    cases written with
    | @bare t m digits =>
      obtain ⟨c, rest, rfl⟩ := List.exists_cons_of_ne_nil digits.ne_nil
      have first : c.isDigit = true := digits.digits c List.mem_cons_self
      have notMinus : c ≠ '-' := by
        rintro rfl
        cases first
      have notPlus : c ≠ '+' := by
        rintro rfl
        cases first
      rw [integer?_cons, if_neg notMinus, if_neg notPlus, natural?_eq_some_iff.mpr digits, Option.map_some]
    | plus digits =>
      rw [integer?_cons, if_neg (by decide), if_pos rfl, natural?_eq_some_iff.mpr digits, Option.map_some]
    | minus digits => rw [integer?_cons, if_pos rfl, natural?_eq_some_iff.mpr digits, Option.map_some]

/-- A text is read as the number of 32 bits that it writes. -/
theorem int32?_eq_some_iff {t : Text} {n : Int32} : t.int32? = some n ↔ t.Numeral n.toInt := by
  rw [← integer?_eq_some_iff, int32?, Option.bind_eq_some_iff]
  constructor
  · rintro ⟨m, read, inside⟩
    split at inside
    · next range =>
      obtain rfl := Option.some.inj inside
      rw [read, Int32.toInt_ofInt_of_le (by omega) (by omega)]
    · cases inside
  · intro read
    have low := n.minValue_le_toInt
    have high := n.toInt_lt
    have least : Int32.minValue.toInt = -2147483648 := rfl
    exact ⟨n.toInt, read, by rw [if_pos (by omega), Int32.ofInt_toInt]⟩

theorem int32?_eq_none_iff {t : Text} : t.int32? = none ↔ ¬ t.IsCoordinate := by
  rw [Option.eq_none_iff_forall_ne_some, IsCoordinate, not_exists]
  exact forall_congr' fun n => not_congr int32?_eq_some_iff

instance (t : Text) : Decidable t.IsCoordinate :=
  decidable_of_iff (t.int32? ≠ none) (by rw [Ne, int32?_eq_none_iff, not_not])

end Text

/-- The numbers of a rectangle as they are written. -/
def Rect.WrittenAs (r : Rect) (texts : List Text) : Prop :=
  List.Forall₂ (fun t (n : Int32) => t.Numeral n.toInt) texts [r.x, r.y, r.width, r.height]

/-! ## What is documented -/

/-- The style that stands first in the rest of some arguments. One that is missing is empty, and what stands behind it
is the extended style, which means nothing. -/
def Style.leading : List Text → Style
  | [] => {}
  | raw :: _ => .parse raw

/-- The kinds of controls. -/
inductive Kind where
  | label (align : Align)
  | pushButton (isDefault : Bool)
  | comboBox
  | editText
  | control
  deriving DecidableEq, Repr

/-- The arguments of a control of some kind, one by one, and the element that they are. -/
inductive Element.Documented : Kind → List Text → Element → Prop
  | label {text id x y width height shown : Text} {more : List Text} {rect : Rect} {align : Align}
      (unquoted : text.Unquotes shown) (placed : rect.WrittenAs [x, y, width, height]) (few : more.length ≤ 2) :
      Documented (.label align) (text :: id :: x :: y :: width :: height :: more)
        (.label shown id rect (.leading more) align)
  | pushButton {text id x y width height shown : Text} {more : List Text} {rect : Rect} {isDefault : Bool}
      (unquoted : text.Unquotes shown) (placed : rect.WrittenAs [x, y, width, height]) (few : more.length ≤ 2) :
      Documented (.pushButton isDefault) (text :: id :: x :: y :: width :: height :: more)
        (.pushButton shown id rect (.leading more) isDefault)
  | comboBox {id x y width height : Text} {more : List Text} {rect : Rect}
      (placed : rect.WrittenAs [x, y, width, height]) (few : more.length ≤ 2) :
      Documented .comboBox (id :: x :: y :: width :: height :: more) (.comboBox id rect (.leading more))
  | editText {id x y width height : Text} {more : List Text} {rect : Rect}
      (placed : rect.WrittenAs [x, y, width, height]) (few : more.length ≤ 2) :
      Documented .editText (id :: x :: y :: width :: height :: more) (.editText id rect (.leading more))
  | control {text id quotedClass style x y width height shown windowClass : Text} {more : List Text} {rect : Rect}
      (unquoted : text.Unquotes shown) (unquotedClass : quotedClass.Unquotes windowClass)
      (placed : rect.WrittenAs [x, y, width, height]) (few : more.length ≤ 1) :
      Documented .control (text :: id :: quotedClass :: style :: x :: y :: width :: height :: more)
        (.control shown id windowClass rect (.parse style))

/-- What is documented about the directives under one keyword: the kind of control, how many arguments there are at least
and at most, and where the first coordinate and the style stand among them. -/
structure Form where
  kind : Kind
  name : Text
  least : Nat
  most : Nat
  rectAt : Nat
  styleAt : Nat
  deriving DecidableEq, Repr

namespace Form

def all : List Form :=
  [⟨.label .start, lit "LTEXT", 6, 8, 2, 6⟩, ⟨.label .finish, lit "RTEXT", 6, 8, 2, 6⟩,
    ⟨.label .center, lit "CTEXT", 6, 8, 2, 6⟩, ⟨.comboBox, lit "COMBOBOX", 5, 7, 1, 5⟩,
    ⟨.pushButton false, lit "PUSHBUTTON", 6, 8, 2, 6⟩, ⟨.pushButton true, lit "DEFPUSHBUTTON", 6, 8, 2, 6⟩,
    ⟨.editText, lit "EDITTEXT", 5, 7, 1, 5⟩, ⟨.control, lit "CONTROL", 8, 9, 4, 3⟩]

/-- As many arguments as documented. -/
def Counts (f : Form) (args : List Text) : Prop := f.least ≤ args.length ∧ args.length ≤ f.most

instance (f : Form) (args : List Text) : Decidable (f.Counts args) :=
  inferInstanceAs (Decidable (f.least ≤ args.length ∧ args.length ≤ f.most))

/-- The four arguments that are coordinates. -/
def coordinates (f : Form) (args : List Text) : List Text := (args.drop f.rectAt).take 4

/-- What the coordinates are called, in order. -/
def coordinateNames : List Text := [lit "x", lit "y", lit "width", lit "height"]

end Form

/-! ## Coordinates -/

namespace Rect.WrittenAs

variable {r r' : Rect} {texts : List Text}

theorem isCoordinate (written : r.WrittenAs texts) : ∀ t ∈ texts, t.IsCoordinate := by
  have general : ∀ {texts : List Text} {ns : List Int32},
      List.Forall₂ (fun t (n : Int32) => t.Numeral n.toInt) texts ns → ∀ t ∈ texts, t.IsCoordinate := by
    intro texts ns all
    induction all with
    | nil => simp
    | cons numeral _ ih => simpa using ⟨⟨_, numeral⟩, ih⟩
  exact general written

theorem unique (written : r.WrittenAs texts) (other : r'.WrittenAs texts) : r = r' := by
  have one : Relator.RightUnique fun (t : Text) (n : Int32) => t.Numeral n.toInt := fun t n n' first second =>
    Option.some.inj ((Text.int32?_eq_some_iff.mpr first).symm.trans (Text.int32?_eq_some_iff.mpr second))
  have same := one.forall₂ written other
  cases r
  cases r'
  simpa using same

end Rect.WrittenAs

namespace Schema

/-- One coordinate is read as the number that it writes, or it is reported. -/
theorem coordinate_cases (args : List Text) (index : Nat) (field : Text) :
    (∃ n : Int32, (args.getD index []).Numeral n.toInt ∧ coordinate args index field = .ok n) ∨
      ¬ (args.getD index []).IsCoordinate ∧
        coordinate args index field = .error (.notInteger field (args.getD index [])) := by
  unfold coordinate
  dsimp only
  cases read : (args.getD index []).int32? with
  | some n => exact .inl ⟨n, Text.int32?_eq_some_iff.mp read, rfl⟩
  | none => exact .inr ⟨Text.int32?_eq_none_iff.mp read, rfl⟩

/-- Four coordinates are read as a rectangle, or the first one that is no number is reported. -/
theorem rect_cases (s : Schema) {args : List Text} {x y width height : Text}
    (here : (args.drop s.rectAt).take 4 = [x, y, width, height]) :
    (∃ r : Rect, r.WrittenAs [x, y, width, height] ∧ s.rect args = .ok r) ∨
      ∃ before raw after, [x, y, width, height] = before ++ raw :: after ∧ (∀ t ∈ before, t.IsCoordinate) ∧
        ¬ raw.IsCoordinate ∧ s.rect args = .error (.notInteger (Form.coordinateNames.getD before.length []) raw) := by
  have placed : ∀ i < 4, args.getD (s.rectAt + i) [] = [x, y, width, height].getD i [] := by
    intro i inside
    rw [← here, List.getD_eq_getElem?_getD, List.getD_eq_getElem?_getD, List.getElem?_take_of_lt inside,
      List.getElem?_drop]
  have first := coordinate_cases args s.rectAt (lit "x")
  have second := coordinate_cases args (s.rectAt + 1) (lit "y")
  have third := coordinate_cases args (s.rectAt + 2) (lit "width")
  have fourth := coordinate_cases args (s.rectAt + 3) (lit "height")
  rw [show args.getD s.rectAt [] = x from placed 0 (by omega)] at first
  rw [show args.getD (s.rectAt + 1) [] = y from placed 1 (by omega)] at second
  rw [show args.getD (s.rectAt + 2) [] = width from placed 2 (by omega)] at third
  rw [show args.getD (s.rectAt + 3) [] = height from placed 3 (by omega)] at fourth
  unfold rect
  rcases first with ⟨a, isA, readA⟩ | ⟨bad, readA⟩
  · rw [readA]
    rcases second with ⟨b, isB, readB⟩ | ⟨bad, readB⟩
    · rw [readB]
      rcases third with ⟨c, isC, readC⟩ | ⟨bad, readC⟩
      · rw [readC]
        rcases fourth with ⟨d, isD, readD⟩ | ⟨bad, readD⟩
        · rw [readD]
          exact .inl ⟨⟨a, b, c, d⟩, .cons isA (.cons isB (.cons isC (.cons isD .nil))), rfl⟩
        · rw [readD]
          exact .inr ⟨[x, y, width], height, [], rfl, by simpa using ⟨⟨a, isA⟩, ⟨b, isB⟩, ⟨c, isC⟩⟩, bad, rfl⟩
      · rw [readC]
        exact .inr ⟨[x, y], width, [height], rfl, by simpa using ⟨⟨a, isA⟩, ⟨b, isB⟩⟩, bad, rfl⟩
    · rw [readB]
      exact .inr ⟨[x], y, [width, height], rfl, by simpa using ⟨a, isA⟩, bad, rfl⟩
  · rw [readA]
    exact .inr ⟨[], x, [y, width, height], rfl, by simp, bad, rfl⟩

end Schema

/-! ## Keywords -/

namespace Keyword

def kind : Keyword → Kind
  | ltext => .label .start
  | rtext => .label .finish
  | ctext => .label .center
  | comboBox => .comboBox
  | pushButton => .pushButton false
  | defPushButton => .pushButton true
  | editText => .editText
  | control => .control

/-- What a keyword has in common with its documentation. -/
structure Follows (k : Keyword) (f : Form) : Prop where
  kind : k.kind = f.kind
  name : k.name = f.name
  least : k.schema.required = f.least
  most : k.schema.fields.length = f.most
  rectAt : k.schema.rectAt = f.rectAt
  styleAt : k.schema.styleAt = f.styleAt

theorem exists_follows {f : Form} (listed : f ∈ Form.all) : ∃ k : Keyword, k.Follows f := by
  have all : ∀ f ∈ Form.all, ∃ k ∈ Keyword.all, k.kind = f.kind ∧ k.name = f.name ∧ k.schema.required = f.least ∧
      k.schema.fields.length = f.most ∧ k.schema.rectAt = f.rectAt ∧ k.schema.styleAt = f.styleAt := by decide
  obtain ⟨k, -, kind, name, least, most, rectAt, styleAt⟩ := all f listed
  exact ⟨k, kind, name, least, most, rectAt, styleAt⟩

theorem ofName?_of_sameLetters {k : Keyword} {name : Text} (same : name.sameLetters k.name = true) :
    ofName? name = some k := by
  rw [ofName?, funext fun k' : Keyword => Text.sameLetters_congr same k'.name]
  exact k.ofName?_name

private theorem ofName?_eq_none {name : Text} (other : ∀ f ∈ Form.all, name.sameLetters f.name = false) :
    ofName? name = none := by
  have documented : ∀ k ∈ Keyword.all, ∃ f ∈ Form.all, f.name = k.name := by decide
  refine List.find?_eq_none.mpr fun k member => ?_
  obtain ⟨f, listed, same⟩ := documented k member
  rw [← same, other f listed]
  exact Bool.false_ne_true

end Keyword

private theorem Style.parse_getD (args : List Text) (index : Nat) :
    parse (args.getD index []) = leading (args.drop index) := by
  rw [List.getD_eq_getElem?_getD, ← List.head?_drop]
  cases args.drop index with
  | nil => rfl
  | cons raw rest => rfl

private theorem exists_placed {args : List Text} (enough : 5 ≤ args.length) :
    ∃ id x y width height more, args = id :: x :: y :: width :: height :: more := by
  match args with
  | id :: x :: y :: width :: height :: more => exact ⟨id, x, y, width, height, more, rfl⟩
  | [] | [_] | [_, _] | [_, _, _] | [_, _, _, _] => simp at enough

private theorem exists_shown {args : List Text} (enough : 6 ≤ args.length) :
    ∃ text id x y width height more, args = text :: id :: x :: y :: width :: height :: more := by
  obtain ⟨text, rest, rfl⟩ := List.exists_cons_of_length_pos (Nat.zero_lt_of_lt enough)
  obtain ⟨id, x, y, width, height, more, rfl⟩ := exists_placed (Nat.le_of_succ_le_succ enough)
  exact ⟨text, id, x, y, width, height, more, rfl⟩

private theorem exists_classed {args : List Text} (enough : 8 ≤ args.length) :
    ∃ text id windowClass style x y width height more,
      args = text :: id :: windowClass :: style :: x :: y :: width :: height :: more := by
  match args with
  | text :: id :: windowClass :: rest =>
    obtain ⟨style, x, y, width, height, more, rfl⟩ := exists_placed (Nat.le_of_add_le_add_right (b := 3) enough)
    exact ⟨text, id, windowClass, style, x, y, width, height, more, rfl⟩
  | [] | [_] | [_, _] => simp at enough

namespace Keyword

/-- The element of a keyword is the documented one. -/
theorem documented_element (k : Keyword) {args : List Text} {r : Rect} (enough : k.schema.required ≤ args.length)
    (noMore : args.length ≤ k.schema.fields.length) (placed : r.WrittenAs ((args.drop k.schema.rectAt).take 4)) :
    Element.Documented k.kind args (k.element args r (.leading (args.drop k.schema.styleAt))) := by
  cases k with
  | ltext | rtext | ctext =>
    obtain ⟨text, id, x, y, width, height, more, rfl⟩ := exists_shown enough
    exact .label text.unquotes_unquote placed (Nat.le_of_add_le_add_right (b := 6) noMore)
  | pushButton | defPushButton =>
    obtain ⟨text, id, x, y, width, height, more, rfl⟩ := exists_shown enough
    exact .pushButton text.unquotes_unquote placed (Nat.le_of_add_le_add_right (b := 6) noMore)
  | comboBox =>
    obtain ⟨id, x, y, width, height, more, rfl⟩ := exists_placed enough
    exact .comboBox placed (Nat.le_of_add_le_add_right (b := 5) noMore)
  | editText =>
    obtain ⟨id, x, y, width, height, more, rfl⟩ := exists_placed enough
    exact .editText placed (Nat.le_of_add_le_add_right (b := 5) noMore)
  | control =>
    obtain ⟨text, id, quotedClass, style, x, y, width, height, more, rfl⟩ := exists_classed enough
    exact .control text.unquotes_unquote quotedClass.unquotes_unquote placed
      (Nat.le_of_add_le_add_right (b := 8) noMore)

/-- The documented element is the one of the keyword. -/
theorem follows_of_documented (k : Keyword) {args : List Text} {e : Element} (documented : Element.Documented k.kind args e) :
    (k.schema.required ≤ args.length ∧ args.length ≤ k.schema.fields.length) ∧
      ∃ r : Rect, r.WrittenAs ((args.drop k.schema.rectAt).take 4) ∧
        e = k.element args r (.leading (args.drop k.schema.styleAt)) := by
  cases k with
  | ltext | rtext | ctext =>
    cases documented with
    | label unquoted placed few =>
      obtain rfl := Text.unquote_eq_iff.mpr unquoted
      exact ⟨⟨Nat.le_add_left _ _, Nat.add_le_add_right few 6⟩, _, placed, rfl⟩
  | pushButton | defPushButton =>
    cases documented with
    | pushButton unquoted placed few =>
      obtain rfl := Text.unquote_eq_iff.mpr unquoted
      exact ⟨⟨Nat.le_add_left _ _, Nat.add_le_add_right few 6⟩, _, placed, rfl⟩
  | comboBox =>
    cases documented with
    | comboBox placed few => exact ⟨⟨Nat.le_add_left _ _, Nat.add_le_add_right few 5⟩, _, placed, rfl⟩
  | editText =>
    cases documented with
    | editText placed few => exact ⟨⟨Nat.le_add_left _ _, Nat.add_le_add_right few 5⟩, _, placed, rfl⟩
  | control =>
    cases documented with
    | control unquoted unquotedClass placed few =>
      obtain rfl := Text.unquote_eq_iff.mpr unquoted
      obtain rfl := Text.unquote_eq_iff.mpr unquotedClass
      exact ⟨⟨Nat.le_add_left _ _, Nat.add_le_add_right few 8⟩, _, placed, rfl⟩

end Keyword

/-! ## Directives -/

/-- What reading a directive comes to, with a diagnostic for the rule of its schema that it breaks. -/
def Directive.report (d : Directive) (result : Except SchemaError Element) : Except Diagnostic Element :=
  result.mapError (SchemaError.diagnostic d)

namespace Form

variable {f : Form} {d : Directive}

/-- The ways in which a directive under a keyword is read: its arguments are too few or too many, or a coordinate is no
number and those before it are numbers, or it stands for the documented element. -/
inductive Reads (f : Form) (d : Directive) : Except SchemaError Element → Prop
  | count {e : SchemaError} (outside : ¬ f.Counts d.args) (told : (e.diagnostic d).Reports .error (lit "E102") d.span) :
      Reads f d (.error e)
  | coordinate {before after : List Text} {raw : Text} (counts : f.Counts d.args)
      (split : f.coordinates d.args = before ++ raw :: after) (numbers : ∀ t ∈ before, t.IsCoordinate)
      (bad : ¬ raw.IsCoordinate) : Reads f d (.error (.notInteger (coordinateNames.getD before.length []) raw))
  | element {e : Element} (counts : f.Counts d.args) (numbers : ∀ t ∈ f.coordinates d.args, t.IsCoordinate)
      (documented : Element.Documented f.kind d.args e) : Reads f d (.ok e)

private theorem exists_coordinates (listed : f ∈ all) {args : List Text} (counts : f.Counts args) :
    ∃ x y width height, f.coordinates args = [x, y, width, height] := by
  have documented : ∀ f ∈ all, f.rectAt + 4 ≤ f.least := by decide
  have enough : 4 ≤ (args.drop f.rectAt).length := by
    have bound := documented f listed
    have least := counts.1
    rw [List.length_drop]
    omega
  rw [coordinates]
  generalize args.drop f.rectAt = rest at enough
  match rest with
  | x :: y :: width :: height :: more => exact ⟨x, y, width, height, rfl⟩
  | [] | [_] | [_, _] | [_, _, _] => simp at enough

/-- A directive under a documented keyword is read in one of these ways. -/
theorem reads (listed : f ∈ all) (named : d.isNamed f.name = true) : f.Reads d (Element.ofDirective d) := by
  obtain ⟨k, follows⟩ := Keyword.exists_follows listed
  have found : Keyword.ofName? d.name = some k := Keyword.ofName?_of_sameLetters (by rw [follows.name]; exact named)
  rw [Element.ofDirective, found]
  dsimp only
  by_cases few : d.args.length < k.schema.required
  · rw [Schema.checkCount, if_pos few]
    exact .count (fun counts => Nat.not_le_of_lt few (follows.least ▸ counts.1)) ⟨rfl, rfl, rfl⟩
  · by_cases many : k.schema.fields.length < d.args.length
    · rw [Schema.checkCount, if_neg few, if_pos many]
      exact .count (fun counts => Nat.not_le_of_lt many (follows.most ▸ counts.2)) ⟨rfl, rfl, rfl⟩
    · rw [Schema.checkCount, if_neg few, if_neg many]
      have counts : f.Counts d.args := ⟨follows.least ▸ Nat.le_of_not_lt few, follows.most ▸ Nat.le_of_not_lt many⟩
      obtain ⟨x, y, width, height, here⟩ := exists_coordinates listed counts
      have placed : (d.args.drop k.schema.rectAt).take 4 = [x, y, width, height] := by
        rw [follows.rectAt]
        exact here
      rcases k.schema.rect_cases placed with ⟨r, written, read⟩ | ⟨before, raw, after, split, numbers, bad, read⟩
      · have documented := k.documented_element (Nat.le_of_not_lt few) (Nat.le_of_not_lt many) (placed ▸ written)
        rw [read, Style.parse_getD]
        rw [follows.kind] at documented
        exact .element counts (here ▸ written.isCoordinate) documented
      · rw [read]
        exact .coordinate counts (here.trans split) numbers bad

/-- Under a keyword there is at most one documented element for some arguments, and it follows the documentation. -/
theorem follows_of_documented (listed : f ∈ all) {args : List Text} {e : Element}
    (documented : Element.Documented f.kind args e) :
    f.Counts args ∧ (∀ t ∈ f.coordinates args, t.IsCoordinate) ∧ ∀ e', Element.Documented f.kind args e' → e' = e := by
  obtain ⟨k, follows⟩ := Keyword.exists_follows listed
  rw [← follows.kind] at documented ⊢
  obtain ⟨⟨enough, noMore⟩, r, written, rfl⟩ := k.follows_of_documented documented
  rw [Counts, coordinates, ← follows.least, ← follows.most, ← follows.rectAt]
  refine ⟨⟨enough, noMore⟩, written.isCoordinate, fun e' other => ?_⟩
  obtain ⟨-, r', written', rfl⟩ := k.follows_of_documented other
  rw [written.unique written']

section
variable {result : Except SchemaError Element}

private theorem not_reports {x : Diagnostic} {span : Span} (count : x.Reports .error (lit "E102") span) :
    ¬ x.Reports .error (lit "E103") span :=
  fun coordinate => absurd (Option.some.inj (count.code.symm.trans coordinate.code)) (by decide)

theorem Reads.count_iff (reads : f.Reads d result) :
    (∃ x, d.report result = .error x ∧ x.Reports .error (lit "E102") d.span) ↔ ¬ f.Counts d.args := by
  cases reads with
  | count outside told => exact ⟨fun _ => outside, fun _ => ⟨_, rfl, told⟩⟩
  | coordinate counts split numbers bad =>
    refine ⟨?_, fun outside => absurd counts outside⟩
    rintro ⟨x, ⟨⟩, told⟩
    exact absurd ⟨rfl, rfl, rfl⟩ (not_reports told)
  | element counts numbers documented =>
    refine ⟨?_, fun outside => absurd counts outside⟩
    rintro ⟨x, ⟨⟩, -⟩

theorem Reads.coordinate_iff (reads : f.Reads d result) :
    (∃ x, d.report result = .error x ∧ x.Reports .error (lit "E103") d.span) ↔
      f.Counts d.args ∧ ∃ t ∈ f.coordinates d.args, ¬ t.IsCoordinate := by
  cases reads with
  | count outside told =>
    refine ⟨?_, fun ⟨counts, _⟩ => absurd counts outside⟩
    rintro ⟨x, ⟨⟩, other⟩
    exact absurd other (not_reports told)
  | coordinate counts split numbers bad =>
    exact ⟨fun _ => ⟨counts, _, by simp [split], bad⟩, fun _ => ⟨_, rfl, rfl, rfl, rfl⟩⟩
  | element counts numbers documented =>
    refine ⟨?_, fun ⟨_, t, member, bad⟩ => absurd (numbers t member) bad⟩
    rintro ⟨x, ⟨⟩, -⟩

/-- The coordinate that is reported is the first one that is no number. -/
theorem Reads.exists_first (reads : f.Reads d result) {x : Diagnostic} (failed : d.report result = .error x)
    (told : x.Reports .error (lit "E103") d.span) :
    ∃ before raw after, f.coordinates d.args = before ++ raw :: after ∧ (∀ t ∈ before, t.IsCoordinate) ∧
      ¬ raw.IsCoordinate ∧ x.message = lit "`" ++ d.name ++ lit "` " ++ coordinateNames.getD before.length [] ++
        lit " must be an integer, found `" ++ raw ++ lit "`" := by
  cases reads with
  | count outside count =>
    cases failed
    exact absurd told (not_reports count)
  | coordinate counts split numbers bad =>
    cases failed
    exact ⟨_, _, _, split, numbers, bad, rfl⟩
  | element counts numbers documented => cases failed

theorem Reads.exists_ok_iff (reads : f.Reads d result) :
    (∃ e, d.report result = .ok e) ↔ f.Counts d.args ∧ ∀ t ∈ f.coordinates d.args, t.IsCoordinate := by
  cases reads with
  | count outside told =>
    refine ⟨?_, fun ⟨counts, _⟩ => absurd counts outside⟩
    rintro ⟨e, ⟨⟩⟩
  | @coordinate before after raw counts split numbers bad =>
    refine ⟨?_, fun ⟨_, all⟩ => absurd (all raw (by simp [split])) bad⟩
    rintro ⟨e, ⟨⟩⟩
  | element counts numbers documented => exact ⟨fun _ => ⟨counts, numbers⟩, fun _ => ⟨_, rfl⟩⟩

theorem Reads.eq_ok_iff (reads : f.Reads d result) (listed : f ∈ all) {e : Element} :
    d.report result = .ok e ↔ Element.Documented f.kind d.args e := by
  constructor
  · intro done
    cases reads with
    | count outside told => cases done
    | coordinate counts split numbers bad => cases done
    | element counts numbers documented =>
      cases done
      exact documented
  · intro documented
    obtain ⟨counts, numbers, unique⟩ := follows_of_documented listed documented
    obtain ⟨e', done⟩ := reads.exists_ok_iff.mpr ⟨counts, numbers⟩
    cases reads with
    | count outside told => cases done
    | coordinate counts split numbers bad => cases done
    | element counts numbers other =>
      rw [unique _ other]
      rfl

end

end Form

namespace Element

/-- A directive under no documented keyword is kept as it is. Under a keyword, a wrong number of arguments is reported as
`E102` and only that; with the right number, the first coordinate that is no number is reported by name as `E103`; and
otherwise, and only then, the directive stands for the element that is documented. -/
theorem ofDirective_documented (d : Directive) :
    let read := d.report (ofDirective d)
    ((∀ f ∈ Form.all, d.isNamed f.name = false) → read = .ok (.unsupported d.name d.args)) ∧
      ∀ f ∈ Form.all, d.isNamed f.name = true →
        ((∃ x, read = .error x ∧ x.Reports .error (lit "E102") d.span) ↔ ¬ f.Counts d.args) ∧
        ((∃ x, read = .error x ∧ x.Reports .error (lit "E103") d.span) ↔
          f.Counts d.args ∧ ∃ t ∈ f.coordinates d.args, ¬ t.IsCoordinate) ∧
        (∀ x, read = .error x → x.Reports .error (lit "E103") d.span →
          ∃ before raw after, f.coordinates d.args = before ++ raw :: after ∧ (∀ t ∈ before, t.IsCoordinate) ∧
            ¬ raw.IsCoordinate ∧ x.message = lit "`" ++ d.name ++ lit "` " ++
              Form.coordinateNames.getD before.length [] ++ lit " must be an integer, found `" ++ raw ++ lit "`") ∧
        ((∃ e, read = .ok e) ↔ f.Counts d.args ∧ ∀ t ∈ f.coordinates d.args, t.IsCoordinate) ∧
        ∀ e, read = .ok e ↔ Documented f.kind d.args e := by
  intro read
  refine ⟨fun other => ?_, fun f listed named => ?_⟩
  · have none := Keyword.ofName?_eq_none other
    show d.report (ofDirective d) = _
    rw [ofDirective, none]
    rfl
  · have reads := Form.reads listed named
    exact ⟨reads.count_iff, reads.coordinate_iff, fun x failed told => reads.exists_first failed told,
      reads.exists_ok_iff, fun e => reads.eq_ok_iff listed⟩

/-- A button with a word for its second coordinate and a number of 33 bits for its last one: the word is reported. -/
theorem ofDirective_documented_second :
    let d : Directive := ⟨lit "PushButton", [lit "\"Go\"", lit "IDC_GO", lit "-1", lit "two", lit "+3", lit "2147483648"],
      .ofBounds 0 0⟩
    ∃ f ∈ Form.all, d.isNamed f.name = true ∧ ∃ x, d.report (ofDirective d) = .error x ∧
      x.Reports .error (lit "E103") d.span ∧ x.message = lit "`PushButton` y must be an integer, found `two`" := by
  intro d
  let f : Form := ⟨.pushButton false, lit "PUSHBUTTON", 6, 8, 2, 6⟩
  have listed : f ∈ Form.all := by decide
  have named : d.isNamed f.name = true := by decide
  obtain ⟨-, keywords⟩ := ofDirective_documented d
  obtain ⟨-, coordinate, first, -⟩ := keywords f listed named
  obtain ⟨x, failed, told⟩ := coordinate.mpr ⟨by decide, lit "two", by decide, by decide⟩
  obtain ⟨before, raw, after, split, numbers, bad, message⟩ := first x failed told
  have listing : lit "-1" :: lit "two" :: [lit "+3", lit "2147483648"] = before ++ raw :: after := split
  refine ⟨f, listed, named, x, failed, told, message.trans ?_⟩
  match before, listing, numbers with
  | [], listing, _ =>
    obtain ⟨rfl, -⟩ := List.cons.inj listing
    exact absurd bad (by decide)
  | [left], listing, _ =>
    obtain ⟨rfl, -⟩ := List.cons.inj (List.cons.inj listing).2
    rfl
  | _ :: word :: _, listing, numbers =>
    obtain ⟨rfl, -⟩ := List.cons.inj (List.cons.inj listing).2
    exact absurd (numbers (lit "two") (by simp)) (by decide)

end Element

end DialogGrid
