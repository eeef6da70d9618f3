import DialogGrid.Proofs.Block
import DialogGrid.Proofs.Style
import DialogGrid.Schema

/-!
# Reading an element that was written

An element is written as a line of a script: its keyword, then its fields in the order of the
schema, texts and classes in quotes, and a style behind them only if there is one. Whatever layout
the line has, it is read as one directive, and this stands for the element (`Element.read_line`).
-/

namespace DialogGrid

/-! ## How an element is written -/

/-- The text in double quotes. -/
def Text.inQuotes (t : Text) : Text := '"' :: (t ++ ['"'])

/-- The four numbers as they are written. -/
def Rect.numbers (r : Rect) : List Text := [r.x, r.y, r.width, r.height].map fun n => Text.ofInt n.toInt

/-- A style behind the other fields, which is left out if it is empty. -/
def Style.trailing (s : Style) : List Text := if s.flags = [] then [] else [s.text]

namespace Element

/-- The keyword under which an element is written, if there is one. -/
def keyword? : Element → Option Keyword
  | label _ _ _ _ .start => some .ltext
  | label _ _ _ _ .finish => some .rtext
  | label _ _ _ _ .center => some .ctext
  | comboBox _ _ _ => some .comboBox
  | pushButton _ _ _ _ isDefault => some (if isDefault then .defPushButton else .pushButton)
  | editText _ _ _ => some .editText
  | control _ _ _ _ _ => some .control
  | unsupported _ _ => none

/-- The fields of an element as they are written. -/
def fields : Element → List Text
  | label text id rect style _ => text.inQuotes :: id :: (rect.numbers ++ style.trailing)
  | comboBox id rect style => id :: (rect.numbers ++ style.trailing)
  | pushButton text id rect style _ => text.inQuotes :: id :: (rect.numbers ++ style.trailing)
  | editText id rect style => id :: (rect.numbers ++ style.trailing)
  | control text id windowClass rect style =>
    text.inQuotes :: id :: windowClass.inQuotes :: style.text :: rect.numbers
  | unsupported _ args => args

/-- The line of an element, with nothing but a separator between two fields. -/
def line (e : Element) (k : Keyword) : Text := k.name ++ ' ' :: [','].intercalate e.fields

end Element

/-! ## What can be written -/

/-- A text that can stand between two quotes of a line. -/
structure Quotable (t : Text) : Prop where
  noQuote : '"' ∉ t
  oneLine : '\r' ∉ t ∧ '\n' ∉ t

/-- An argument that can stand in a line without quotes. -/
structure Bare (arg : Text) : Prop where
  trimmed : arg.trim = arg
  noComma : ',' ∉ arg
  noQuote : '"' ∉ arg
  oneLine : '\r' ∉ arg ∧ '\n' ∉ arg

/-- A style whose flags are in normal form and can stand in an argument. -/
def Style.Writable (s : Style) : Prop := ∀ flag ∈ s.flags, Style.NormalFlag flag ∧ ',' ∉ flag ∧ '"' ∉ flag

/-- What the parts of an element must be like for its line to be read back. -/
def Element.Writable : Element → Prop
  | label text id _ style _ => Quotable text ∧ Bare id ∧ style.Writable
  | comboBox id _ style => Bare id ∧ style.Writable
  | pushButton text id _ style _ => Quotable text ∧ Bare id ∧ style.Writable
  | editText id _ style => Bare id ∧ style.Writable
  | control text id windowClass _ style => Quotable text ∧ Bare id ∧ Quotable windowClass ∧ style.Writable
  | unsupported _ _ => False

/-! ## The arguments of a line -/

/-- An argument that can stand anywhere in a list of arguments. -/
structure Whole (arg : Text) : Prop where
  trimmed : arg.trim = arg
  oneLine : '\r' ∉ arg ∧ '\n' ∉ arg
  commasQuoted : CommasQuoted arg
  closed : arg.count '"' % 2 = 0

private theorem Bare.whole {arg : Text} (bare : Bare arg) : Whole arg where
  trimmed := bare.trimmed
  oneLine := bare.oneLine
  commasQuoted := fun _ _ comma => absurd (List.mem_of_getElem? comma) bare.noComma
  closed := by rw [List.count_eq_zero.mpr bare.noQuote]

private theorem Quotable.whole {t : Text} (quotable : Quotable t) : Whole t.inQuotes where
  trimmed := by
    apply Text.trim_eq_self
    · intro c first
      cases first
      decide
    · intro c last
      rw [Text.inQuotes, List.getLast?_cons_of_ne_nil (by simp), List.getLast?_concat] at last
      cases last
      decide
  oneLine := by simp [Text.inQuotes, quotable.oneLine]
  commasQuoted := by
    intro i inside comma
    have quote : t.count '"' = 0 := List.count_eq_zero.mpr quotable.noQuote
    cases i with
    | zero => cases comma
    | succ i =>
      have before : i ≤ t.length := by
        simp only [Text.inQuotes, List.length_cons, List.length_append, List.length_nil] at inside
        omega
      have none : (t.take i).count '"' = 0 :=
        List.count_eq_zero.mpr fun member => quotable.noQuote (List.mem_of_mem_take member)
      rw [Text.inQuotes, List.take_succ_cons, List.take_append_of_le_length before, List.count_cons_self, none]
  closed := by
    have quote : t.count '"' = 0 := List.count_eq_zero.mpr quotable.noQuote
    simp [Text.inQuotes, quote]

private theorem canonical_of_whole {name : Text} {args : List Text} (nonempty : name ≠ [])
    (visible : ∀ c ∈ name, isBlank c = false) (several : args ≠ [[]]) (whole : ∀ arg ∈ args, Whole arg) :
    Canonical name args where
  name_ne_nil := nonempty
  name_visible := visible
  args_ne := several
  trimmed := fun arg member => (whole arg member).trimmed
  oneLine := fun arg member => (whole arg member).oneLine
  commasQuoted := fun arg member => (whole arg member).commasQuoted
  closed := fun arg member => (whole arg (List.dropLast_subset _ member)).closed

private theorem Bare.ofInt (n : Int) : Bare (Text.ofInt n) := by
  have lacks : ∀ c, ¬ IsPlain c → c ∉ Text.ofInt n := fun c special inside => special (isPlain_of_mem_ofInt inside)
  exact {
    trimmed := Text.trim_eq_self (fun c first => (isPlain_of_mem_ofInt (List.mem_of_mem_head? first)).1)
      fun c last => (isPlain_of_mem_ofInt (List.mem_of_mem_getLast? last)).1
    noComma := lacks ',' (by decide)
    noQuote := lacks '"' (by decide)
    oneLine := ⟨lacks '\r' (by decide), lacks '\n' (by decide)⟩ }

private theorem Style.Writable.bare {s : Style} (writable : s.Writable) : Bare s.text := by
  have lacks : ∀ c, c ≠ ' ' → c ≠ '|' → (∀ flag ∈ s.flags, c ∉ flag) → c ∉ s.text := by
    intro c notSpace notBar none member
    rcases Style.mem_text member with ⟨flag, inside, here⟩ | space | bar
    · exact none flag inside here
    · exact notSpace space
    · exact notBar bar
  have lineBreak : ∀ c, isBlank c = true → c ≠ ' ' → c ≠ '|' → c ∉ s.text := fun c blank notSpace notBar =>
    lacks c notSpace notBar fun flag member inside => notSpace ((writable flag member).1.blanks c inside blank)
  exact {
    trimmed := Style.trim_text fun flag member => (writable flag member).1
    noComma := lacks ',' (by decide) (by decide) fun flag member => (writable flag member).2.1
    noQuote := lacks '"' (by decide) (by decide) fun flag member => (writable flag member).2.2
    oneLine := ⟨lineBreak '\r' (by decide) (by decide) (by decide),
      lineBreak '\n' (by decide) (by decide) (by decide)⟩ }

private theorem Rect.whole_numbers (r : Rect) : ∀ arg ∈ r.numbers, Whole arg := by
  intro arg member
  obtain ⟨n, -, rfl⟩ := List.mem_map.mp member
  exact (Bare.ofInt n.toInt).whole

private theorem Style.Writable.whole_trailing {s : Style} (writable : s.Writable) : ∀ arg ∈ s.trailing, Whole arg := by
  intro arg member
  rw [Style.trailing] at member
  split at member
  · cases member
  · rw [List.mem_singleton.mp member]
    exact writable.bare.whole

namespace Element

variable {e : Element}

private theorem whole_fields (writable : e.Writable) : ∀ arg ∈ e.fields, Whole arg := by
  cases e with
  | label text id rect style align =>
    obtain ⟨quotable, bare, style⟩ := writable
    rw [fields, List.forall_mem_cons, List.forall_mem_cons, List.forall_mem_append]
    exact ⟨quotable.whole, bare.whole, rect.whole_numbers, style.whole_trailing⟩
  | comboBox id rect style =>
    obtain ⟨bare, style⟩ := writable
    rw [fields, List.forall_mem_cons, List.forall_mem_append]
    exact ⟨bare.whole, rect.whole_numbers, style.whole_trailing⟩
  | pushButton text id rect style isDefault =>
    obtain ⟨quotable, bare, style⟩ := writable
    rw [fields, List.forall_mem_cons, List.forall_mem_cons, List.forall_mem_append]
    exact ⟨quotable.whole, bare.whole, rect.whole_numbers, style.whole_trailing⟩
  | editText id rect style =>
    obtain ⟨bare, style⟩ := writable
    rw [fields, List.forall_mem_cons, List.forall_mem_append]
    exact ⟨bare.whole, rect.whole_numbers, style.whole_trailing⟩
  | control text id windowClass rect style =>
    obtain ⟨quotable, bare, quotableClass, style⟩ := writable
    rw [fields, List.forall_mem_cons, List.forall_mem_cons, List.forall_mem_cons, List.forall_mem_cons]
    exact ⟨quotable.whole, bare.whole, quotableClass.whole, style.bare.whole, rect.whole_numbers⟩
  | unsupported name args => exact writable.elim

end Element

/-! ## Reading the arguments -/

namespace Text

theorem unquote_inQuotes (t : Text) : unquote t.inQuotes = t := by
  simp [unquote, inQuotes, quoted?]

private theorem integer?_ofInt (n : Int) : integer? (ofInt n) = some n := by
  cases n with
  | ofNat n =>
    obtain ⟨c, rest, whole⟩ : ∃ c rest, ofNat n = c :: rest :=
      List.exists_cons_of_ne_nil (ofInt_ne_nil (.ofNat n))
    have digit : c.isDigit = true := isDigit_of_mem_ofNat (by rw [whole]; exact List.mem_cons_self)
    have notMinus : c ≠ '-' := by
      rintro rfl
      cases digit
    have notPlus : c ≠ '+' := by
      rintro rfl
      cases digit
    have read := natural?_ofNat n
    rw [ofInt, whole, integer?, if_neg notMinus, if_neg notPlus, ← whole, read]
    rfl
  | negSucc n =>
    have read := natural?_ofNat (n + 1)
    rw [ofInt, integer?, if_pos rfl, read]
    rfl

theorem int32?_ofInt (n : Int32) : int32? (ofInt n.toInt) = some n := by
  have low := n.minValue_le_toInt
  have high := n.toInt_lt
  have least : Int32.minValue.toInt = -2147483648 := rfl
  rw [int32?, integer?_ofInt, Option.bind_some, if_pos (by omega), Int32.ofInt_toInt]

end Text

namespace Schema

private theorem coordinate_eq {args : List Text} {index : Nat} {n : Int32} (field : Text)
    (here : args[index]? = some (Text.ofInt n.toInt)) : coordinate args index field = .ok n := by
  rw [coordinate, List.getD_eq_getElem?_getD, here]
  dsimp only [Option.getD_some]
  rw [Text.int32?_ofInt]

private theorem rect_numbers {s : Schema} {args back : List Text} {r : Rect}
    (placed : args.drop s.rectAt = r.numbers ++ back) : s.rect args = .ok r := by
  have number : ∀ i < 4, args[s.rectAt + i]? = r.numbers[i]? := by
    intro i inside
    rw [← List.getElem?_drop, placed, List.getElem?_append_left (by simpa [Rect.numbers] using inside)]
  have first : args[s.rectAt]? = r.numbers[0]? := number 0 (by omega)
  unfold rect
  rw [coordinate_eq _ first, coordinate_eq _ (number 1 (by omega)),
    coordinate_eq _ (number 2 (by omega)), coordinate_eq _ (number 3 (by omega))]
  rfl

end Schema

theorem Keyword.ofName?_name (k : Keyword) : ofName? k.name = some k := by
  cases k <;> decide

namespace Element

variable {e : Element}

/-- A directive that follows the schema of its keyword stands for the keyword's element. -/
private theorem ofDirective_eq {d : Directive} {k : Keyword} {r : Rect} {back : List Text}
    (named : Keyword.ofName? d.name = some k) (enough : k.schema.required ≤ d.args.length)
    (noMore : d.args.length ≤ k.schema.fields.length) (placed : d.args.drop k.schema.rectAt = r.numbers ++ back) :
    ofDirective d = .ok (k.element d.args r (.parse (d.args.getD k.schema.styleAt []))) := by
  have count : k.schema.checkCount d.args.length = .ok () := by
    rw [Schema.checkCount, if_neg (by omega), if_neg (by omega)]
  rw [ofDirective, named]
  dsimp only
  rw [count, Schema.rect_numbers placed]
  rfl

private theorem follows_schema {k : Keyword} (kind : e.keyword? = some k) (writable : e.Writable) :
    ∃ (r : Rect) (s : Style) (back : List Text),
      k.schema.required ≤ e.fields.length ∧ e.fields.length ≤ k.schema.fields.length ∧
        e.fields.drop k.schema.rectAt = r.numbers ++ back ∧ e.fields.getD k.schema.styleAt [] = s.text ∧
        s.Writable ∧ k.element e.fields r s = e := by
  have length : ∀ s : Style, s.trailing.length ≤ 2 := by
    intro s
    rw [Style.trailing]
    split <;> simp
  have missing : ∀ s : Style, s.trailing.getD 0 [] = s.text := by
    intro s
    rw [Style.trailing]
    split
    · next none => rw [Style.text, none]; rfl
    · rfl
  cases e with
  | label text id rect style align =>
    refine ⟨rect, style, style.trailing, ?_⟩
    cases align <;> cases kind <;>
      exact ⟨Nat.le_add_left _ _, Nat.add_le_add_right (length style) 6, rfl, missing style, writable.2.2,
        by simp [Keyword.element, fields, Text.unquote_inQuotes]⟩
  | comboBox id rect style =>
    cases kind
    exact ⟨rect, style, style.trailing, Nat.le_add_left _ _, Nat.add_le_add_right (length style) 5, rfl,
      missing style, writable.2, by simp [Keyword.element, fields]⟩
  | pushButton text id rect style isDefault =>
    refine ⟨rect, style, style.trailing, ?_⟩
    cases isDefault <;> cases kind <;>
      exact ⟨Nat.le_add_left _ _, Nat.add_le_add_right (length style) 6, rfl, missing style, writable.2.2,
        by simp [Keyword.element, fields, Text.unquote_inQuotes]⟩
  | editText id rect style =>
    cases kind
    exact ⟨rect, style, style.trailing, Nat.le_add_left _ _, Nat.add_le_add_right (length style) 5, rfl,
      missing style, writable.2, by simp [Keyword.element, fields]⟩
  | control text id windowClass rect style =>
    cases kind
    exact ⟨rect, style, [], Nat.le_refl _, by simp [fields, Rect.numbers, Keyword.schema, Schema.ofControl], rfl,
      rfl, writable.2.2.2, by simp [Keyword.element, fields, Text.unquote_inQuotes]⟩
  | unsupported name args => cases kind

/-- A directive with the keyword and the fields of an element stands for it. -/
theorem ofDirective_fields {d : Directive} {k : Keyword} (kind : e.keyword? = some k) (writable : e.Writable)
    (name : d.name = k.name) (args : d.args = e.fields) : ofDirective d = .ok e := by
  obtain ⟨r, s, back, enough, noMore, placed, styled, style, same⟩ := follows_schema kind writable
  rw [← args] at enough noMore placed
  have named : Keyword.ofName? d.name = some k := by rw [name, Keyword.ofName?_name]
  have kept : Style.parse s.text = s := Style.parse_text fun flag member => (style flag member).1
  rw [ofDirective_eq named enough noMore placed, args, styled, kept, same]

/-- An element is read back from every line that is written with its keyword and its fields. -/
theorem read_written {w : Written} {k : Keyword} (kind : e.keyword? = some k) (writable : e.Writable)
    (name : w.name = k.name) (args : w.args = e.fields) (fits : w.Fits) :
    ∃ d, directives w.text = [d] ∧ ofDirective d = .ok e := by
  have visible : ∀ c ∈ w.name, isBlank c = false := by
    rw [name]
    cases k <;> decide
  have nonempty : w.name ≠ [] := by
    rw [name]
    cases k <;> decide
  have several : e.fields ≠ [[]] := by
    obtain ⟨-, -, -, enough, -⟩ := follows_schema kind writable
    intro single
    rw [single] at enough
    cases k <;> exact absurd enough (by decide)
  have canonical : Canonical w.name w.args := by
    rw [args]
    exact canonical_of_whole nonempty visible several (whole_fields writable)
  have read := directives_written [w] [] (by simpa using canonical) (by simpa using fits) (by simp) (by simp)
    (.inl rfl)
  rw [List.append_nil, Written.textOf, List.flatMap_singleton] at read
  exact ⟨w.directive 0, read, ofDirective_fields kind writable name args⟩

/-! ## The line of an element -/

/-- The line of an element as a directive that is written. -/
def written (e : Element) (k : Keyword) : Written where
  name := k.name
  slots := match e.fields with
    | [] => []
    | first :: rest => { before := [' '], arg := first } :: rest.map fun arg => { arg }
  ending? := none

private theorem args_written (e : Element) (k : Keyword) : (e.written k).args = e.fields := by
  rw [Written.args, written]
  cases e.fields <;> simp [Function.comp_def]

private theorem text_written (k : Keyword) (several : e.fields ≠ []) : (e.written k).text = e.line k := by
  have plain : ∀ args : List Text, Slot.listText (args.map fun arg => { arg }) = [','].intercalate args := by
    intro args
    induction args with
    | nil => rfl
    | cons arg rest ih =>
      cases rest with
      | nil => simp [Slot.listText, Slot.text, LineBreak.optional]
      | cons next more =>
        rw [List.map_cons] at ih
        rw [List.intercalate_cons_cons, ← ih]
        simp [Slot.listText, Slot.text, LineBreak.optional]
  obtain ⟨first, rest, fields⟩ := List.exists_cons_of_ne_nil several
  have lead : Slot.listText ({ before := [' '], arg := first } :: rest.map fun arg => { arg }) =
      ' ' :: Slot.listText ((first :: rest).map fun arg => { arg }) := by
    cases rest <;> simp [Slot.listText, Slot.text, LineBreak.optional]
  rw [line, fields, ← plain, ← lead, Written.text, Written.content, written, fields]
  simp [LineBreak.optional]

private theorem last_field_ne_nil (writable : e.Writable) : ∀ arg ∈ e.fields.getLast?, arg ≠ [] := by
  have placed : ∀ (r : Rect) {s : Style}, s.Writable → ∀ arg ∈ r.numbers ++ s.trailing, arg ≠ [] := by
    intro r s style arg member
    rcases List.mem_append.mp member with number | trailing
    · obtain ⟨n, -, rfl⟩ := List.mem_map.mp number
      exact Text.ofInt_ne_nil n.toInt
    · rw [Style.trailing] at trailing
      split at trailing
      · cases trailing
      · next something =>
        rw [List.mem_singleton.mp trailing]
        exact Style.text_ne_nil something fun flag inside => (style flag inside).1.ne_nil
  have numbers : ∀ (r : Rect) (back : List Text), r.numbers ++ back ≠ [] := fun _ _ => List.cons_ne_nil _ _
  intro arg last
  cases e with
  | label text id rect style align =>
    rw [fields, List.getLast?_cons_of_ne_nil (by simp), List.getLast?_cons_of_ne_nil (numbers rect _)] at last
    exact placed rect writable.2.2 arg (List.mem_of_getLast? last)
  | comboBox id rect style =>
    rw [fields, List.getLast?_cons_of_ne_nil (numbers rect _)] at last
    exact placed rect writable.2 arg (List.mem_of_getLast? last)
  | pushButton text id rect style isDefault =>
    rw [fields, List.getLast?_cons_of_ne_nil (by simp), List.getLast?_cons_of_ne_nil (numbers rect _)] at last
    exact placed rect writable.2.2 arg (List.mem_of_getLast? last)
  | editText id rect style =>
    rw [fields, List.getLast?_cons_of_ne_nil (numbers rect _)] at last
    exact placed rect writable.2 arg (List.mem_of_getLast? last)
  | control text id windowClass rect style =>
    cases last
    exact Text.ofInt_ne_nil rect.height.toInt
  | unsupported name args => exact writable.elim

private theorem fits_written (k : Keyword) (writable : e.Writable) : (e.written k).Fits := by
  have args := e.args_written k
  have ended := last_field_ne_nil writable
  exact {
    gap := by simp [written]
    blanks := by
      intro s member
      rw [written] at member
      cases fields : e.fields with
      | nil => simp [fields] at member
      | cons first rest =>
        simp only [fields, List.mem_cons, List.mem_map] at member
        rcases member with rfl | ⟨arg, -, rfl⟩
        · simp [Inline]
        · simp [Inline]
    trailing := by simp [written, Inline]
    first := by
      intro s member
      rw [written] at member
      cases fields : e.fields with
      | nil => simp [fields] at member
      | cons first rest =>
        simp only [fields, List.head?_cons, Option.mem_some_iff] at member
        simp [← member]
    last := by
      intro s member nothing
      refine absurd nothing (ended s.arg ?_)
      rw [← args, Written.args, List.getLast?_map, Option.mem_def.mp member]
      rfl }

/-- The line of an element is read as one directive, which stands for the element; and so is every
other line with its keyword and its fields, wherever blanks and line breaks stand in it. -/
theorem read_line (e : Element) (k : Keyword) (kind : e.keyword? = some k) (writable : e.Writable) :
    (∃ d, directives (e.line k) = [d] ∧ ofDirective d = .ok e) ∧
      ∀ w : Written, w.name = k.name → w.args = e.fields → w.Fits →
        ∃ d, directives w.text = [d] ∧ ofDirective d = .ok e := by
  refine ⟨?_, fun w name args fits => read_written kind writable name args fits⟩
  have several : e.fields ≠ [] := by
    obtain ⟨-, -, -, enough, -⟩ := follows_schema kind writable
    intro nothing
    rw [nothing] at enough
    cases k <;> exact absurd enough (by decide)
  have read := read_written kind writable rfl (e.args_written k) (fits_written k writable)
  rwa [text_written k several] at read

/-- A separator and blanks in quotes, an identifier of two words, the least and the greatest number,
and a flag of two words. -/
theorem read_line_control :
    let e : Element := .control (lit " a, b ") (lit "IDC A") (lit "Button") ⟨-2147483648, 2147483647, 0, -1⟩
      ⟨[lit "BS_AUTOCHECKBOX", lit "NOT WS_VISIBLE"]⟩
    e.keyword? = some .control ∧ e.Writable ∧
      e.line .control = lit "CONTROL \" a, b \",IDC A,\"Button\",BS_AUTOCHECKBOX | NOT WS_VISIBLE," ++
        lit "-2147483648,2147483647,0,-1" ∧
      ∃ d, directives (e.line .control) = [d] ∧ ofDirective d = .ok e := by
  intro e
  have writable : e.Writable :=
    ⟨⟨by decide, by decide⟩, ⟨by decide, by decide, by decide, by decide⟩, ⟨by decide, by decide⟩, by
      show ∀ flag ∈ [lit "BS_AUTOCHECKBOX", lit "NOT WS_VISIBLE"], _
      decide +kernel⟩
  exact ⟨rfl, writable, by decide +kernel, (read_line e .control rfl writable).1⟩

end Element

end DialogGrid
