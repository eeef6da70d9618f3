import DialogGrid.Proofs.Markup
import DialogGrid.Proofs.Report
import Mathlib.Data.List.Forall2
import Mathlib.Data.List.Infix

/-!
# The document as a tree

The document of a dialog is the markup of a tree: a window around a grid, and in the grid one node
for each directive of the body, in order, which is the child that holds its widget or a comment
(`Converter.interfaceOf_nested`). The tree is well-formed, and so it is what a reader of markup finds
in the document, if the texts that the dialog brings along stand for themselves in markup.
-/

namespace DialogGrid

/-! ## The parts of a document as nodes -/

/-- A property whose text is not for the user. -/
def Node.property (name value : Text) : Node := .leaf (lit "property") [(lit "name", name)] value

def Property.node (p : Property) : Node :=
  .leaf (lit "property") ((lit "name", p.name) :: if p.translatable then [(lit "translatable", lit "yes")] else [])
    p.value

/-- The items of a list, numbered in order. -/
def Node.items (items : List Text) : Node :=
  .element (lit "items") [] (items.zipIdx.map fun (item, i) =>
    .leaf (lit "item") [(lit "id", Text.ofNat i), (lit "translatable", lit "yes")] item)

/-- The place of a widget in the grid. -/
def Cell.node (c : Cell) : Node :=
  .element (lit "layout") []
    [.property (lit "column") (Text.ofNat c.column), .property (lit "column-span") (Text.ofNat c.columnSpan),
      .property (lit "row") (Text.ofNat c.row), .property (lit "row-span") (Text.ofNat c.rowSpan)]

/-- A child with one object: its properties, its items if it has any, and its place in the grid. -/
def Widget.node (w : Widget) : Node :=
  .element (lit "child") []
    [.element (lit "object") [(lit "class", w.objectClass), (lit "id", w.id)]
      (w.properties.map Property.node ++ (if w.items = [] then [] else [.items w.items]) ++ [w.cell.node])]

/-- The tree of a document: a window, with a title if there is one, around a grid with some nodes behind its
own properties. -/
def interfaceNode (id : Text) (title? : Option Text) (nodes : List Node) : Node :=
  .element (lit "interface") []
    [.void (lit "requires") [(lit "lib", lit "gtk"), (lit "version", lit "4.0")],
      .element (lit "object") [(lit "class", lit "GtkWindow"), (lit "id", id)]
        (title?.toList.map (.property (lit "title")) ++
          [.property (lit "can-focus") (lit "False"),
            .element (lit "child") []
              [.element (lit "object") [(lit "class", lit "GtkGrid")]
                ([.property (lit "visible") (lit "True"), .property (lit "can-focus") (lit "False"),
                  .property (lit "column-homogeneous") (lit "False")] ++ nodes)]])]

/-! ## Their markup -/

theorem Property.markup_node (p : Property) (indent : Nat) : p.node.markup indent = markupLine indent p.markup := by
  obtain ⟨name, value, translatable⟩ := p
  refine congrArg (markupLine indent) ?_
  cases translatable with
  | true =>
    show startTag _ [(lit "name", name), (lit "translatable", lit "yes")] ++ value ++ endTag _ =
      lit "<property name=\"" ++ name ++ lit "\"" ++ lit " translatable=\"yes\"" ++ lit ">" ++ value ++
        lit "</property>"
    simp only [startTag, endTag, attributesText, List.flatMap_cons, List.flatMap_nil, List.append_assoc,
      List.cons_append]
    rfl
  | false =>
    show startTag _ [(lit "name", name)] ++ value ++ endTag _ =
      lit "<property name=\"" ++ name ++ lit "\"" ++ [] ++ lit ">" ++ value ++ lit "</property>"
    simp only [startTag, endTag, attributesText, List.flatMap_cons, List.flatMap_nil, List.append_assoc,
      List.cons_append]
    rfl

theorem Property.markupAll_node (ps : List Property) (indent : Nat) :
    Node.markupAll indent (ps.map node) = ps.flatMap fun p => markupLine indent p.markup := by
  induction ps with
  | nil => rfl
  | cons p rest ih => rw [List.map_cons, Node.markupAll, ih, p.markup_node, List.flatMap_cons]

private theorem Widget.markup_items (items : List Text) :
    (Node.items items).markup 12 =
      markupLine 12 (lit "<items>") ++ itemLines 0 items ++ markupLine 12 (lit "</items>") := by
  have line : ∀ (i : Nat) (item : Text),
      Node.markup 14 (.leaf (lit "item") [(lit "id", Text.ofNat i), (lit "translatable", lit "yes")] item) =
        markupLine 14
          (lit "<item id=\"" ++ Text.ofNat i ++ lit "\" translatable=\"yes\">" ++ item ++ lit "</item>") := by
    intro i item
    refine congrArg (markupLine 14) ?_
    simp only [startTag, endTag, attributesText, List.flatMap_cons, List.flatMap_nil, List.append_assoc,
      List.cons_append]
    rfl
  have general : ∀ first, Node.markupAll 14 ((items.zipIdx first).map fun (item, i) =>
      .leaf (lit "item") [(lit "id", Text.ofNat i), (lit "translatable", lit "yes")] item) = itemLines first items := by
    induction items with
    | nil => intro first; rfl
    | cons item rest ih =>
      intro first
      rw [List.zipIdx_cons, List.map_cons, Node.markupAll, ih, itemLines, line]
  rw [Node.items, Node.markup, general 0]
  rfl

theorem Cell.markup_node (c : Cell) :
    c.node.markup 12 = markupLine 12 (lit "<layout>") ++ (Widget.layout c).flatMap (fun p => markupLine 14 p.markup) ++
      markupLine 12 (lit "</layout>") := by
  have properties := Property.markupAll_node (Widget.layout c) 14
  rw [← properties]
  rfl

private theorem Node.markup_element (tag : Text) (attributes : List (Text × Text)) (children : List Node)
    (indent : Nat) :
    (Node.element tag attributes children).markup indent =
      markupLine indent (startTag tag attributes) ++ markupAll (indent + 2) children ++
        markupLine indent (endTag tag) := by
  rw [Node.markup]

private theorem Node.markupAll_singleton (n : Node) (indent : Nat) : markupAll indent [n] = n.markup indent := by
  rw [markupAll, markupAll, List.append_nil]

private theorem startTag_object (objectClass id : Text) :
    startTag (lit "object") [(lit "class", objectClass), (lit "id", id)] =
      lit "<object class=\"" ++ objectClass ++ lit "\" id=\"" ++ id ++ lit "\">" := by
  simp only [startTag, attributesText, List.flatMap_cons, List.flatMap_nil, List.append_assoc, List.cons_append]
  rfl

theorem Widget.markup_node (w : Widget) : w.node.markup 8 = w.markup := by
  have items : Node.markupAll 12 (if w.items = [] then [] else [Node.items w.items]) =
      if w.items = [] then []
      else markupLine 12 (lit "<items>") ++ itemLines 0 w.items ++ markupLine 12 (lit "</items>") := by
    split
    · rfl
    · rw [Node.markupAll_singleton, markup_items]
  rw [node, Node.markup_element, Node.markupAll_singleton, Node.markup_element, Node.markupAll_append,
    Node.markupAll_append, Property.markupAll_node, items, Node.markupAll_singleton, Cell.markup_node,
    startTag_object]
  simp only [markup, List.append_assoc]
  rfl

private theorem Node.markup_property (name value : Text) (indent : Nat) :
    (Node.property name value).markup indent = markupLine indent (Property.markup ⟨name, value, false⟩) :=
  Property.markup_node ⟨name, value, false⟩ indent

/-- The document is the markup of its tree, if what stands in the grid is the markup of the nodes there. -/
theorem documentMarkup_eq (id : Text) (title? : Option Text) {nodes : List Node} {fragments : List Text}
    (markup : Node.markupAll 8 nodes = fragments.flatten) :
    documentMarkup (windowMarkup id title? fragments) =
      documentHead ++ (interfaceNode id title? nodes).markup 0 := by
  have start : startTag (lit "object") [(lit "class", lit "GtkWindow"), (lit "id", id)] =
      lit "<object class=\"GtkWindow\" id=\"" ++ id ++ lit "\">" :=
    startTag_object (lit "GtkWindow") id
  have title : Node.markupAll 4 (title?.toList.map (.property (lit "title"))) =
      title?.elim [] fun title => markupLine 4 (Property.markup ⟨lit "title", title, false⟩) := by
    cases title? with
    | none => rfl
    | some title => exact (Node.markupAll_singleton _ _).trans (Node.markup_property _ _ _)
  have grid : Node.markupAll 8 ([.property (lit "visible") (lit "True"), .property (lit "can-focus") (lit "False"),
      .property (lit "column-homogeneous") (lit "False")] ++ nodes) =
        markupLine 8 (Property.flag (lit "visible") true).markup ++
          (markupLine 8 (Property.flag (lit "can-focus") false).markup ++
            (markupLine 8 (Property.flag (lit "column-homogeneous") false).markup ++ fragments.flatten)) := by
    rw [Node.markupAll_append, markup, Node.markupAll, Node.markupAll, Node.markupAll_singleton, Node.markup_property,
      Node.markup_property, Node.markup_property, List.append_assoc, List.append_assoc]
    rfl
  unfold documentMarkup windowMarkup
  rw [interfaceNode, Node.markup_element, Node.markupAll, Node.markupAll_singleton,
    Node.markup_element, Node.markupAll_append, Node.markupAll, Node.markupAll_singleton, Node.markup_element,
    Node.markupAll_singleton, Node.markup_element, Node.markup_property, title, start, grid]
  simp only [List.append_assoc]
  cases title? <;> rfl

/-! ## Well-formed parts -/

private theorem isTag_zip {tag : Text} (names values : List Text) (name : IsName tag) (isName : ∀ n ∈ names, IsName n)
    (distinct : names.Nodup) (length : names.length ≤ values.length) (verbatim : ∀ v ∈ values, Verbatim v) :
    IsTag tag (names.zip values) where
  name := name
  attributeNames := fun a member => isName _ (List.of_mem_zip member).1
  distinct := by
    rw [List.map_fst_zip length]
    exact distinct
  values := fun a member => verbatim _ (List.of_mem_zip member).2

private theorem isTag_alone {tag : Text} (name : IsName tag) : IsTag tag [] :=
  isTag_zip [] [] name (by simp) List.nodup_nil (Nat.le_refl _) (by simp)

theorem verbatim_ofNat (n : Nat) : Verbatim (Text.ofNat n) := by
  intro c member
  have ne : ∀ sign : Char, sign.isDigit = false → c ≠ sign := by
    rintro sign other rfl
    rw [Text.isDigit_of_mem_ofNat member] at other
    cases other
  exact ⟨ne _ rfl, ne _ rfl, ne _ rfl, ne _ rfl⟩

theorem Node.wellFormed_property {name value : Text} (verbatimName : Verbatim name) (verbatim : Verbatim value) :
    (property name value).WellFormed :=
  .leaf (isTag_zip [lit "name"] [name] (by decide) (by decide) (by decide) (Nat.le_refl _)
    (by simpa using verbatimName)) verbatim

/-- A property that holds no signs of the markup. -/
def Property.IsVerbatim (p : Property) : Prop := Verbatim p.name ∧ Verbatim p.value

theorem Property.isVerbatim_flag {name : Text} (verbatim : Verbatim name) (value : Bool) :
    (flag name value).IsVerbatim := by
  refine ⟨verbatim, ?_⟩
  cases value with
  | true =>
    show Verbatim (lit "True")
    decide
  | false =>
    show Verbatim (lit "False")
    decide

theorem Property.wellFormed_node {p : Property} (verbatim : p.IsVerbatim) : p.node.WellFormed := by
  obtain ⟨name, value, translatable⟩ := p
  obtain ⟨verbatimName, verbatimValue⟩ := verbatim
  cases translatable with
  | true =>
    have both : ∀ v ∈ [name, lit "yes"], Verbatim v := by
      have yes : Verbatim (lit "yes") := by decide
      simpa using And.intro verbatimName yes
    exact .leaf (isTag_zip [lit "name", lit "translatable"] [name, lit "yes"] (by decide) (by decide) (by decide)
      (Nat.le_refl _) both) verbatimValue
  | false => exact Node.wellFormed_property verbatimName verbatimValue

theorem Node.wellFormed_items {items : List Text} (nonempty : items ≠ []) (verbatim : ∀ item ∈ items, Verbatim item) :
    (Node.items items).WellFormed := by
  refine .element (isTag_alone (by decide)) ?_ ?_
  · simpa using nonempty
  · intro n member
    obtain ⟨⟨item, i⟩, inside, rfl⟩ := List.mem_map.mp member
    have values : ∀ v ∈ [Text.ofNat i, lit "yes"], Verbatim v := by
      have yes : Verbatim (lit "yes") := by decide
      simpa using And.intro (verbatim_ofNat i) yes
    exact .leaf (isTag_zip [lit "id", lit "translatable"] [Text.ofNat i, lit "yes"] (by decide) (by decide) (by decide)
      (Nat.le_refl _) values) (verbatim item (List.fst_mem_of_mem_zipIdx inside))

theorem Cell.wellFormed_node (c : Cell) : c.node.WellFormed := by
  refine .element (isTag_alone (by decide)) (by simp) ?_
  have property : ∀ name : Text, Verbatim name → ∀ n, (Node.property name (Text.ofNat n)).WellFormed :=
    fun _ verbatim n => Node.wellFormed_property verbatim (verbatim_ofNat n)
  simp only [List.forall_mem_cons, List.not_mem_nil, false_implies, implies_true, and_true]
  exact ⟨property _ (by decide) _, property _ (by decide) _, property _ (by decide) _, property _ (by decide) _⟩

theorem Widget.wellFormed_node {w : Widget} (objectClass : Verbatim w.objectClass) (id : Verbatim w.id)
    (properties : ∀ p ∈ w.properties, p.IsVerbatim) (items : ∀ item ∈ w.items, Verbatim item) :
    w.node.WellFormed := by
  have object : IsTag (lit "object") [(lit "class", w.objectClass), (lit "id", w.id)] :=
    isTag_zip [lit "class", lit "id"] [w.objectClass, w.id] (by decide) (by decide) (by decide)
      (Nat.le_refl _) (by simpa using And.intro objectClass id)
  have inner : ∀ n ∈ w.properties.map Property.node ++ (if w.items = [] then [] else [Node.items w.items]) ++
      [w.cell.node], n.WellFormed := by
    intro n member
    rcases List.mem_append.mp member with early | late
    · rcases List.mem_append.mp early with property | listed
      · obtain ⟨p, inside, rfl⟩ := List.mem_map.mp property
        exact Property.wellFormed_node (properties p inside)
      · split at listed
        · cases listed
        · next nonempty =>
          rw [List.mem_singleton.mp listed]
          exact Node.wellFormed_items nonempty items
    · rw [List.mem_singleton.mp late]
      exact w.cell.wellFormed_node
  refine .element (isTag_alone (by decide)) (by simp) fun n member => ?_
  rw [List.mem_singleton.mp member]
  exact .element object (by simp) inner

theorem wellFormed_interfaceNode {id : Text} {title? : Option Text} {nodes : List Node} (verbatim : Verbatim id)
    (title : ∀ t ∈ title?, Verbatim t) (inner : ∀ n ∈ nodes, n.WellFormed) :
    (interfaceNode id title? nodes).WellFormed := by
  have property : ∀ name value : Text, Verbatim name → Verbatim value → (Node.property name value).WellFormed :=
    fun _ _ => Node.wellFormed_property
  have requires : IsTag (lit "requires") [(lit "lib", lit "gtk"), (lit "version", lit "4.0")] :=
    isTag_zip [lit "lib", lit "version"] [lit "gtk", lit "4.0"] (by decide) (by decide) (by decide) (Nat.le_refl _)
      (by decide)
  have window : IsTag (lit "object") [(lit "class", lit "GtkWindow"), (lit "id", id)] := by
    have both : ∀ v ∈ [lit "GtkWindow", id], Verbatim v := by
      have windowClass : Verbatim (lit "GtkWindow") := by decide
      simpa using And.intro windowClass verbatim
    exact isTag_zip [lit "class", lit "id"] [lit "GtkWindow", id] (by decide) (by decide) (by decide)
      (Nat.le_refl _) both
  have grid : IsTag (lit "object") [(lit "class", lit "GtkGrid")] :=
    isTag_zip [lit "class"] [lit "GtkGrid"] (by decide) (by decide) (by decide) (Nat.le_refl _) (by decide)
  have gridNode : (Node.element (lit "object") [(lit "class", lit "GtkGrid")]
      ([.property (lit "visible") (lit "True"), .property (lit "can-focus") (lit "False"),
        .property (lit "column-homogeneous") (lit "False")] ++ nodes)).WellFormed := by
    refine .element grid (by simp) fun n member => ?_
    simp only [List.cons_append, List.nil_append, List.mem_cons] at member
    rcases member with rfl | rfl | rfl | inside
    · exact property _ _ (by decide) (by decide)
    · exact property _ _ (by decide) (by decide)
    · exact property _ _ (by decide) (by decide)
    · exact inner n inside
  refine .element (isTag_alone (by decide)) (by simp) fun n member => ?_
  simp only [List.mem_cons, List.not_mem_nil, or_false] at member
  rcases member with rfl | rfl
  · exact .void requires
  · refine .element window (by simp) fun n member => ?_
    simp only [List.mem_append, List.mem_cons, List.not_mem_nil, or_false, List.mem_map, Option.mem_toList] at member
    rcases member with ⟨t, shown, rfl⟩ | rfl | rfl
    · exact property _ _ (by decide) (title t shown)
    · exact property _ _ (by decide) (by decide)
    · refine .element (isTag_alone (by decide)) (by simp) fun n member => ?_
      rw [List.mem_singleton.mp member]
      exact gridNode

/-! ## Elements -/

/-- A text that may stand anywhere in markup: in an attribute, between tags and in a comment. -/
structure Inert (t : Text) : Prop where
  verbatim : Verbatim t
  undashed : ¬ lit "--" <:+: t

instance (t : Text) : Decidable (Inert t) :=
  decidable_of_iff (Verbatim t ∧ ¬ lit "--" <:+: t) ⟨fun ⟨a, b⟩ => ⟨a, b⟩, fun ⟨a, b⟩ => ⟨a, b⟩⟩

private theorem undashed_append {a b : Text} (front : '-' ∉ a) (undashed : ¬ lit "--" <:+: b) :
    ¬ lit "--" <:+: a ++ b := by
  induction a with
  | nil => exact undashed
  | cons c rest ih =>
    rw [List.mem_cons, not_or] at front
    rw [List.cons_append, List.infix_cons_iff]
    rintro (first | later)
    · exact front.1 (List.cons_prefix_cons.mp first).1
    · exact ih front.2 later

theorem dashed_between_iff {front t back : Text} (before : '-' ∉ front) (behind : '-' ∉ back) :
    lit "--" <:+: front ++ t ++ back ↔ lit "--" <:+: t := by
  constructor
  · intro dashed
    by_contra undashed
    have ending : ¬ lit "--" <:+: t ++ back := by
      rw [← List.reverse_infix, List.reverse_append]
      refine undashed_append ?_ ?_
      · simpa using behind
      · exact fun infix_ => undashed (List.reverse_infix.mp infix_)
    rw [List.append_assoc] at dashed
    exact undashed_append before ending dashed
  · intro dashed
    exact dashed.trans (List.infix_append front t back)

namespace Element

/-- The texts of an element that its markup repeats: what a widget shows, or what a comment says about the
element instead. -/
def shownTexts : Element → List Text
  | label text _ _ _ _ => [text]
  | pushButton text _ _ _ _ => [text]
  | comboBox _ _ _ => []
  | editText _ _ _ => []
  | control text _ windowClass _ style => if (controlObject? windowClass style).isSome then [text] else [windowClass]
  | unsupported name _ => [name]

/-- The widget for an element holds nothing but what it shows and its identifier. -/
theorem wellFormed_widget {e : Element} {t : Template} (template : e.template? = some t) {id : Text}
    (verbatimId : Verbatim id) (shown : ∀ t ∈ e.shownTexts, Verbatim t) (cell : Cell) :
    (Widget.mk t.objectClass id t.properties (t.items id) cell).node.WellFormed := by
  have property : ∀ name value translatable, Verbatim name → Verbatim value →
      Property.IsVerbatim ⟨name, value, translatable⟩ := fun _ _ _ verbatimName verbatim => ⟨verbatimName, verbatim⟩
  have flag : ∀ name value, Verbatim name → (Property.flag name value).IsVerbatim :=
    fun _ value verbatim => Property.isVerbatim_flag verbatim value
  have button : ∀ text visible, Verbatim text → ∀ p ∈ buttonProperties text visible, p.IsVerbatim := by
    intro text visible verbatim p member
    simp only [buttonProperties, List.mem_cons, List.not_mem_nil, or_false] at member
    rcases member with rfl | rfl | rfl | rfl
    · exact property _ _ _ (by decide) verbatim
    · exact flag _ _ (by decide)
    · exact flag _ _ (by decide)
    · exact flag _ _ (by decide)
  have pushClass : Verbatim (lit "GtkButton") := by decide
  cases e with
  | label text name rect style align =>
    cases template
    have objectClass : Verbatim (lit "GtkLabel") := by decide
    refine Widget.wellFormed_node objectClass verbatimId (fun p member => ?_) (by simp)
    simp only [List.mem_cons, List.not_mem_nil, or_false] at member
    rcases member with rfl | rfl | rfl
    · exact property _ _ _ (by decide) (shown text List.mem_cons_self)
    · exact property _ _ _ (by decide) (by cases align <;> decide)
    · exact flag _ _ (by decide)
  | comboBox name rect style =>
    cases template
    have objectClass : Verbatim (lit "GtkComboBoxText") := by decide
    refine Widget.wellFormed_node objectClass verbatimId (fun p member => ?_) (by simpa using verbatimId)
    simp only [List.mem_cons, List.not_mem_nil, or_false] at member
    rcases member with rfl | rfl
    · exact flag _ _ (by decide)
    · exact flag _ _ (by decide)
  | pushButton text name rect style isDefault =>
    cases template
    exact Widget.wellFormed_node pushClass verbatimId (button _ _ (shown text List.mem_cons_self)) (by simp)
  | editText name rect style =>
    cases template
    have objectClass : Verbatim (lit "GtkTextView") := by decide
    refine Widget.wellFormed_node objectClass verbatimId (fun p member => ?_) (by simp)
    simp only [List.mem_cons, List.not_mem_nil, or_false] at member
    rcases member with rfl | rfl | rfl
    · exact flag _ _ (by decide)
    · exact flag _ _ (by decide)
    · exact flag _ _ (by decide)
  | control text name windowClass rect style =>
    obtain ⟨objectClass, found, rfl⟩ := Option.map_eq_some_iff.mp template
    have verbatim : Verbatim text := by
      rw [shownTexts, found] at shown
      exact shown text List.mem_cons_self
    have known : Verbatim objectClass := by
      have checkClass : Verbatim (lit "GtkCheckButton") := by decide
      unfold controlObject? at found
      split at found
      · cases found
      · split at found
        · cases found
          exact pushClass
        · split at found
          · cases found
            exact checkClass
          · cases found
    exact Widget.wellFormed_node known verbatimId (button _ _ verbatim) (by simp)
  | unsupported name args => cases template

private theorem exists_placeholder {front t back : Text} (inert : Inert t) (frontUndashed : '-' ∉ front)
    (backUndashed : '-' ∉ back) :
    ∃ content, (Node.comment content).WellFormed ∧
      (Node.comment content).markup 8 = placeholder (front ++ t ++ back) := by
  have whole : ¬ lit "--" <:+: ' ' :: front ++ t ++ (back ++ [' ']) :=
    mt (dashed_between_iff (by simpa using frontUndashed) (by simpa using backUndashed)).mp inert.undashed
  refine ⟨' ' :: front ++ t ++ (back ++ [' ']), .comment whole ?_, ?_⟩
  · rw [← List.append_assoc, List.getLast?_concat]
    decide
  · refine congrArg (markupLine 8) ?_
    simp only [List.append_assoc, List.cons_append]
    rfl

private theorem exists_comment {e : Element} (none : e.template? = none) (shown : ∀ t ∈ e.shownTexts, Inert t)
    (span : Span) :
    ∃ content, (Node.comment content).WellFormed ∧ (Node.comment content).markup 8 = (e.replacement span).alone.1 := by
  cases e with
  | control text name windowClass rect style =>
    have unknown : controlObject? windowClass style = Option.none := Option.map_eq_none_iff.mp none
    have inert : Inert windowClass := by
      rw [shownTexts, unknown] at shown
      exact shown windowClass List.mem_cons_self
    exact exists_placeholder inert (by decide) (by decide)
  | unsupported name args => exact exists_placeholder (shown name List.mem_cons_self) (by decide) (by decide)
  | label _ _ _ _ _ => cases none
  | comboBox _ _ _ => cases none
  | pushButton _ _ _ _ _ => cases none
  | editText _ _ _ => cases none

end Element

/-! ## Directives -/

/-- A rule that leaves the markup of its directives as it is. -/
def Rule.KeepsMarkup (rule : Rule) : Prop := ∀ markup d, rule.adjustMarkup markup d = markup

theorem Rules.adjustMarkup_eq {rules : List Rule} (keeps : ∀ rule ∈ rules, rule.KeepsMarkup) (markup : Text)
    (d : Directive) : adjustMarkup rules markup d = markup := by
  induction rules with
  | nil => rfl
  | cons rule rest ih =>
    have later := ih fun r member => keeps r (List.mem_cons_of_mem rule member)
    have first : (if rule.applies d then rule.adjustMarkup markup d else markup) = markup := by
      rw [keeps rule List.mem_cons_self, ite_self]
    have unfolded : adjustMarkup (rule :: rest) markup d =
        adjustMarkup rest (if rule.applies d then rule.adjustMarkup markup d else markup) d := rfl
    rw [unfolded, first, later]

theorem standardRules_keepMarkup (r : Ratios) : ∀ rule ∈ standardRules r, rule.KeepsMarkup := by
  intro rule member
  obtain rfl := List.mem_singleton.mp member
  exact fun _ _ => rfl

/-- The texts that the markup for a directive repeats, the identifier of its widget among them. -/
def Directive.shownTexts (rules : List Rule) (symbols : SymbolTable) (idLead : Text) (d : Directive) : List Text :=
  let adjusted := Rules.adjust rules d
  match Element.ofDirective adjusted with
  | .error _ => []
  | .ok e => e.shownTexts ++ e.template?.toList.map fun t => (symbols.resolve idLead t.id adjusted.span).1

namespace Builder

/-- An element is placed as a node: the child that holds its widget, or a comment. -/
theorem exists_place {b : Builder} {e : Element} {span : Span} (shown : ∀ t ∈ e.shownTexts, Inert t)
    (id : ∀ t ∈ e.template?, Inert (b.symbols.resolve b.idLead t.id span).1) :
    ∃ n : Node, n.WellFormed ∧ n.markup 8 = (b.place e span).alone.1 ∧
      ((∃ w : Widget, n = w.node) ∨ ∃ content, n = .comment content) := by
  cases template : e.template? with
  | none =>
    obtain ⟨content, wellFormed, markup⟩ := Element.exists_comment template shown span
    rw [place_of_replacement template]
    exact ⟨_, wellFormed, markup, .inr ⟨content, rfl⟩⟩
  | some t =>
    have resolved : Inert (b.symbols.resolve b.idLead t.id span).1 := id t template
    rw [alone_place_of_template template]
    exact ⟨_, Element.wellFormed_widget template resolved.verbatim (fun t member => (shown t member).verbatim) _,
      Widget.markup_node _, .inl ⟨_, rfl⟩⟩

/-- A node that the markup for a directive is the markup of: the child that holds a widget, or a comment. -/
structure Stands (b : Builder) (d : Directive) (n : Node) : Prop where
  wellFormed : n.WellFormed
  markup : n.markup 8 = (b.fragment d).markup
  shape : (∃ w : Widget, n = w.node) ∨ ∃ content, n = .comment content

theorem exists_stands {b : Builder} {d : Directive} (keeps : ∀ rule ∈ b.rules, rule.KeepsMarkup)
    (valid : b.schemaError? d = none) (shown : ∀ t ∈ d.shownTexts b.rules b.symbols b.idLead, Inert t) :
    ∃ n, b.Stands d n := by
  unfold schemaError? at valid
  unfold Directive.shownTexts at shown
  dsimp only at shown
  cases read : Element.ofDirective (Rules.adjust b.rules d) with
  | error e =>
    rw [read] at valid
    cases valid
  | ok e =>
    rw [read] at shown
    obtain ⟨n, wellFormed, markup, shape⟩ := b.exists_place (fun t member => shown t (List.mem_append_left _ member))
      fun t template => shown _ (List.mem_append_right _ (List.mem_map_of_mem (Option.mem_toList.mpr template)))
    refine ⟨n, wellFormed, markup.trans ?_, shape⟩
    rw [fragment_eq, alone_translate_of_ok read]
    exact (Rules.adjustMarkup_eq keeps _ _).symm

/-- The markup for a body is that of its nodes, one after another. -/
theorem markupAll_stands {b : Builder} {body : List Directive} {nodes : List Node}
    (stands : List.Forall₂ b.Stands body nodes) :
    Node.markupAll 8 nodes = ((body.map b.fragment).map (·.markup)).flatten := by
  induction stands with
  | nil => rfl
  | cons first _ ih => rw [Node.markupAll, first.markup, ih]; rfl

private theorem wellFormed_of_stands {b : Builder} {body : List Directive} {nodes : List Node}
    (stands : List.Forall₂ b.Stands body nodes) : ∀ n ∈ nodes, n.WellFormed := by
  induction stands with
  | nil => simp
  | cons first _ ih => simpa using And.intro first.wellFormed ih

private theorem exists_forall₂_stands {b : Builder} {body : List Directive} (keeps : ∀ rule ∈ b.rules, rule.KeepsMarkup)
    (valid : ∀ d ∈ body, b.schemaError? d = none)
    (shown : ∀ d ∈ body, ∀ t ∈ d.shownTexts b.rules b.symbols b.idLead, Inert t) :
    ∃ nodes, List.Forall₂ b.Stands body nodes := by
  induction body with
  | nil => exact ⟨[], .nil⟩
  | cons d rest ih =>
    obtain ⟨n, first⟩ := exists_stands keeps (valid d List.mem_cons_self) (shown d List.mem_cons_self)
    obtain ⟨nodes, later⟩ := ih (fun e member => valid e (List.mem_cons_of_mem d member))
      fun e member => shown e (List.mem_cons_of_mem d member)
    exact ⟨n :: nodes, .cons first later⟩

end Builder

/-! ## Documents -/

namespace Converter

/-- A dialog that is converted has a document that is the markup of a tree, and that is read back as the tree:
a window, with a title exactly if the dialog has a caption, around a grid that holds one node for each
directive of the body, in order. The node of a directive is a child with the widget for it, or a comment, and
its markup is the fragment of the directive. -/
theorem interfaceOf_nested {c : Converter} {source : Text} {dialog : Dialog} {conversion : Conversion}
    (rules : c.rules = standardRules c.config.ratios ∨ c.rules = [])
    (converted : c.interfaceOf source dialog = .ok conversion) (window : Inert c.config.dialog.windowId)
    (caption : ∀ t ∈ dialog.caption?, Inert t)
    (shown : ∀ d ∈ dialog.body, ∀ t ∈ d.shownTexts c.rules c.symbols c.config.symbols.idLead, Inert t) :
    ∃ grid nodes, Grid.ofRatios c.config.ratios = .ok grid ∧
      List.Forall₂ (c.builder grid).Stands dialog.body nodes ∧
      let tree := interfaceNode c.config.dialog.windowId dialog.caption? nodes
      conversion.document = documentHead ++ tree.markup 0 ∧ tree.WellFormed ∧
        Node.read? (tree.markup 0) = some tree := by
  have keeps : ∀ rule ∈ c.rules, rule.KeepsMarkup := by
    rcases rules with standard | none
    · rw [standard]
      exact standardRules_keepMarkup _
    · simp [none]
  cases accepted : Grid.ofRatios c.config.ratios with
  | error e =>
    have refused : c.interfaceOf source dialog = .error (.configuration e.message) := by
      rw [interfaceOf, accepted]
      rfl
    rw [refused] at converted
    cases converted
  | ok grid =>
    rw [c.interfaceOf_eq source dialog accepted] at converted
    dsimp only at converted
    split at converted
    · cases converted
    · next clean =>
      cases converted
      have valid : ∀ d ∈ dialog.body, (c.builder grid).schemaError? d = none := by
        have none := (c.builder grid).errors_body dialog.body
        rw [List.filter_eq_nil_iff.mpr (List.any_eq_false.mp (Bool.eq_false_iff.mpr clean))] at none
        exact List.filterMap_eq_nil_iff.mp none.symm
      obtain ⟨nodes, stands⟩ := Builder.exists_forall₂_stands (b := c.builder grid) keeps valid shown
      have wellFormed : (interfaceNode c.config.dialog.windowId dialog.caption? nodes).WellFormed :=
        wellFormed_interfaceNode window.verbatim (fun t given => (caption t given).verbatim)
          (Builder.wellFormed_of_stands stands)
      exact ⟨grid, nodes, rfl, stands, documentMarkup_eq _ _ (Builder.markupAll_stands stands), wellFormed,
        Node.read_markup wellFormed⟩

/-- A label, a list with an item and a directive without a widget. -/
theorem interfaceOf_nested_mixed :
    let c : Converter := {}
    let place : Span := .ofBounds 0 0
    let rect := [lit "8", lit "6", lit "22", lit "8"]
    let dialog : Dialog := ⟨lit "IDD", [(lit "CAPTION", [lit "\"A b\""])],
      [⟨lit "LTEXT", lit "\"B\"" :: lit "IDC_B" :: rect, place⟩, ⟨lit "COMBOBOX", lit "IDC_C" :: rect, place⟩,
        ⟨lit "ICON", [], place⟩], place⟩
    ∃ conversion nodes, c.interfaceOf [] dialog = .ok conversion ∧ nodes.length = 3 ∧
      let tree := interfaceNode c.config.dialog.windowId (some (lit "A b")) nodes
      conversion.document = documentHead ++ tree.markup 0 ∧ Node.read? (tree.markup 0) = some tree := by
  intro c place rect dialog
  have caption : dialog.caption? = some (lit "A b") := by decide +kernel
  have converted : ∃ conversion, c.interfaceOf [] dialog = .ok conversion := by
    rw [c.interfaceOf_eq [] dialog Grid.ofRatios_default]
    dsimp only
    rw [if_neg (by decide +kernel)]
    exact ⟨_, rfl⟩
  obtain ⟨conversion, converted⟩ := converted
  obtain ⟨grid, nodes, -, stands, document, -, read⟩ := interfaceOf_nested (.inl rfl) converted (by decide +kernel)
    (by rw [caption]; decide +kernel) (by decide +kernel)
  rw [caption] at document read
  exact ⟨conversion, nodes, converted, stands.length_eq.symm, document, read⟩

end Converter

end DialogGrid
