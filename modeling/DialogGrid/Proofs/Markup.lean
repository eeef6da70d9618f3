import DialogGrid.Proofs.Text
import DialogGrid.Widget

/-!
# Markup

Trees of nodes and the markup they are written as, one node on a line or between the lines of its
tags. `MarkupReader` reads markup character by character with the elements that are open, and takes nothing
but properly nested tags. What a well-formed tree is written as is read back as the tree
(`Node.read_markup`).
-/

namespace DialogGrid

/-! ## Trees -/

/-- A node of a document: an element with nodes in it, an element with a text in it, an element with
nothing in it, or a comment. -/
inductive Node where
  | element (tag : Text) (attributes : List (Text × Text)) (children : List Node)
  | leaf (tag : Text) (attributes : List (Text × Text)) (value : Text)
  | void (tag : Text) (attributes : List (Text × Text))
  | comment (content : Text)
  deriving Repr

/-- Attributes, each with a space before it. -/
def attributesText (attributes : List (Text × Text)) : Text :=
  attributes.flatMap fun (name, value) => ' ' :: (name ++ '=' :: '"' :: (value ++ ['"']))

def startTag (tag : Text) (attributes : List (Text × Text)) : Text :=
  '<' :: (tag ++ attributesText attributes ++ ['>'])

def endTag (tag : Text) : Text := '<' :: '/' :: (tag ++ ['>'])

mutual

/-- The lines of a node, indented by a number of spaces, and by two more for each element around them. -/
def Node.markup (indent : Nat) : Node → Text
  | .element tag attributes children =>
    markupLine indent (startTag tag attributes) ++ Node.markupAll (indent + 2) children ++
      markupLine indent (endTag tag)
  | .leaf tag attributes value => markupLine indent (startTag tag attributes ++ value ++ endTag tag)
  | .void tag attributes => markupLine indent ('<' :: (tag ++ attributesText attributes ++ ['/', '>']))
  | .comment content => markupLine indent (lit "<!--" ++ content ++ lit "-->")

def Node.markupAll (indent : Nat) : List Node → Text
  | [] => []
  | n :: rest => n.markup indent ++ Node.markupAll indent rest

end

theorem Node.markupAll_append (indent : Nat) (a b : List Node) :
    markupAll indent (a ++ b) = markupAll indent a ++ markupAll indent b := by
  induction a with
  | nil => rfl
  | cons n rest ih => rw [List.cons_append, markupAll, markupAll, ih, List.append_assoc]

/-! ## Well-formed trees -/

/-- A name of an element or of an attribute, which is made of letters. -/
def IsName (t : Text) : Prop := t ≠ [] ∧ ∀ c ∈ t, c.isAlpha = true

instance (t : Text) : Decidable (IsName t) := inferInstanceAs (Decidable (_ ∧ _))

/-- A text that stands for itself in markup. -/
def Verbatim (t : Text) : Prop := ∀ c ∈ t, c ≠ '<' ∧ c ≠ '>' ∧ c ≠ '&' ∧ c ≠ '"'

instance (t : Text) : Decidable (Verbatim t) := inferInstanceAs (Decidable (∀ c ∈ t, _))

/-- What a start tag can be made of. -/
structure IsTag (tag : Text) (attributes : List (Text × Text)) : Prop where
  name : IsName tag
  attributeNames : ∀ a ∈ attributes, IsName a.1
  distinct : (attributes.map (·.1)).Nodup
  values : ∀ a ∈ attributes, Verbatim a.2

/-- What can be written so that it is read back. -/
inductive Node.WellFormed : Node → Prop
  | element {tag : Text} {attributes : List (Text × Text)} {children : List Node} (start : IsTag tag attributes)
      (nonempty : children ≠ []) (inner : ∀ n ∈ children, n.WellFormed) :
      (Node.element tag attributes children).WellFormed
  | leaf {tag : Text} {attributes : List (Text × Text)} {value : Text} (start : IsTag tag attributes)
      (verbatim : Verbatim value) : (Node.leaf tag attributes value).WellFormed
  | void {tag : Text} {attributes : List (Text × Text)} (start : IsTag tag attributes) :
      (Node.void tag attributes).WellFormed
  | comment {content : Text} (undashed : ¬ lit "--" <:+: content) (last : content.getLast? ≠ some '-') :
      (Node.comment content).WellFormed

/-! ## Reading -/

/-- What stands between the brackets of a tag. -/
inductive Tag where
  | opening (name : Text) (attributes : List (Text × Text))
  | closing (name : Text)
  | void (name : Text) (attributes : List (Text × Text))
  deriving DecidableEq, Repr

namespace Tag

/-- The name in what stands before the value of an attribute. -/
def attributeName? (t : Text) : Option Text :=
  match t with
  | ' ' :: rest => if rest.getLast? = some '=' ∧ IsName rest.dropLast then some rest.dropLast else none
  | _ => none

/-- The attributes in what quotes divide. -/
def attributes? : List Text → Option (List (Text × Text))
  | [[]] => some []
  | before :: value :: rest => do
    let name ← attributeName? before
    let more ← attributes? rest
    if name ∈ more.map (·.1) then none else some ((name, value) :: more)
  | _ => none

/-- A name and attributes behind it. -/
def start? (t : Text) : Option (Text × List (Text × Text)) := do
  let name := t.takeWhile (· != ' ')
  let attributes ← attributes? ((t.dropWhile (· != ' ')).splitOn '"')
  if IsName name then some (name, attributes) else none

def read? (t : Text) : Option Tag :=
  match t with
  | '/' :: name => some (closing name)
  | _ =>
    if t.getLast? = some '/' then (start? t.dropLast).map fun (name, attributes) => void name attributes
    else (start? t).map fun (name, attributes) => opening name attributes

end Tag

/-- An element that is open, with what was read in it so far. -/
structure OpenElement where
  tag : Text := []
  attributes : List (Text × Text) := []
  children : List Node := []
  text : Text := []

namespace OpenElement

/-- The element with one more node in it. -/
def add (e : OpenElement) (n : Node) : OpenElement := { e with children := e.children ++ [n] }

/-- The element with more text in it. -/
def write (e : OpenElement) (t : Text) : OpenElement := { e with text := e.text ++ t }

/-- Whether nothing but blanks stands between the nodes. -/
def isSpaced (e : OpenElement) : Bool := e.text.all fun c => c == ' ' || c == '\n'

/-- The node that the element is once it is closed. It holds nodes or a text, and not both. -/
def node? (e : OpenElement) : Option Node :=
  if e.children = [] then some (.leaf e.tag e.attributes e.text)
  else if e.isSpaced then some (.element e.tag e.attributes e.children)
  else none

end OpenElement

/-- Where a reader stands: between tags, or behind the beginning of a tag or of a comment. -/
inductive MarkupPlace where
  | between
  | tag (read : Text)
  | comment (read : Text)

/-- A reader of markup, with the elements that are open. The innermost comes first; the last stands for the
document. -/
structure MarkupReader where
  place : MarkupPlace := .between
  innermost : OpenElement := {}
  outer : List OpenElement := []

namespace MarkupReader

/-- Closes the innermost element. -/
def close? (r : MarkupReader) (name : Text) : Option MarkupReader :=
  match r.outer with
  | [] => none
  | parent :: more =>
    if r.innermost.tag = name then r.innermost.node?.map fun n => { innermost := parent.add n, outer := more } else none

/-- Goes on behind a tag. -/
def takeTag (r : MarkupReader) : Tag → Option MarkupReader
  | .opening name attributes => some { innermost := { tag := name, attributes }, outer := r.innermost :: r.outer }
  | .closing name => r.close? name
  | .void name attributes => some { innermost := r.innermost.add (.void name attributes), outer := r.outer }

def step (r : MarkupReader) (c : Char) : Option MarkupReader :=
  match r.place with
  | .between =>
    if c = '<' then some { r with place := .tag [] }
    else if c = '&' then none
    else some { r with innermost := r.innermost.write [c] }
  | .tag read =>
    if read ++ [c] = lit "!--" then some { r with place := .comment [] }
    else if c = '<' then none
    else if c = '>' then (Tag.read? read).bind r.takeTag
    else some { r with place := .tag (read ++ [c]) }
  | .comment read =>
    if (lit "--").isSuffixOf read then
      if c = '>' then
        some { r with place := .between, innermost := r.innermost.add (.comment (read.dropLast.dropLast)) }
      else none
    else some { r with place := .comment (read ++ [c]) }

/-- Reads a text from some state on. -/
def run (r : MarkupReader) (t : Text) : Option MarkupReader := t.foldlM step r

theorem run_append (r : MarkupReader) (a b : Text) : r.run (a ++ b) = (r.run a).bind (run · b) := List.foldlM_append

theorem run_cons (r : MarkupReader) (c : Char) (t : Text) : r.run (c :: t) = (r.step c).bind (run · t) := rfl

/-- The only node of a document, which is read from the beginning to the end. -/
def node? (r : MarkupReader) : Option Node :=
  match r with
  | ⟨.between, document, []⟩ =>
    match document.children with
    | [n] => if document.isSpaced then some n else none
    | _ => none
  | _ => none

end MarkupReader

/-- The tree that a text is the markup of. -/
def Node.read? (t : Text) : Option Node := (MarkupReader.run {} t).bind MarkupReader.node?

/-! ## Reading what was written -/

private theorem ne_of_isAlpha {c sign : Char} (letter : c.isAlpha = true) (other : sign.isAlpha = false) :
    c ≠ sign := by
  rintro rfl
  rw [letter] at other
  cases other

private theorem attributesText_cons (name value : Text) (rest : List (Text × Text)) :
    attributesText ((name, value) :: rest) =
      (' ' :: (name ++ ['='])) ++ '"' :: (value ++ '"' :: attributesText rest) := by
  simp [attributesText]

namespace Tag

private theorem attributeName?_written {name : Text} (isName : IsName name) :
    attributeName? (' ' :: (name ++ ['='])) = some name := by
  simp [attributeName?, isName]

private theorem attributes?_written {attributes : List (Text × Text)} (names : ∀ a ∈ attributes, IsName a.1)
    (distinct : (attributes.map (·.1)).Nodup) (values : ∀ a ∈ attributes, Verbatim a.2) :
    attributes? ((attributesText attributes).splitOn '"') = some attributes := by
  induction attributes with
  | nil => rfl
  | cons a rest ih =>
    obtain ⟨name, value⟩ := a
    have isName : IsName name := names _ List.mem_cons_self
    have verbatim : Verbatim value := values _ List.mem_cons_self
    obtain ⟨new, distinct⟩ := List.nodup_cons.mp distinct
    have later := ih (fun a m => names a (List.mem_cons_of_mem _ m)) distinct
      fun a m => values a (List.mem_cons_of_mem _ m)
    have before : '"' ∉ ' ' :: (name ++ ['=']) := by
      have : '"' ∉ name := fun quote => ne_of_isAlpha (isName.2 _ quote) (by decide) rfl
      simp [this]
    have inside : '"' ∉ value := fun quote => (verbatim _ quote).2.2.2 rfl
    rw [attributesText_cons, List.splitOn_append_cons_self, List.splitOn_eq_singleton before,
      List.splitOn_append_cons_self, List.splitOn_eq_singleton inside, List.singleton_append, List.singleton_append,
      attributes?, attributeName?_written isName, later]
    simp [new]

private theorem start?_written {tag : Text} {attributes : List (Text × Text)} (isTag : IsTag tag attributes) :
    start? (tag ++ attributesText attributes) = some (tag, attributes) := by
  have letters : ∀ c ∈ tag, (c != ' ') = true := fun c member => by
    simpa using ne_of_isAlpha (isTag.name.2 c member) (by decide)
  have stop : ∀ c ∈ (attributesText attributes).head?, (c != ' ') = false := by
    intro c first
    cases attributes with
    | nil => cases first
    | cons a rest =>
      rw [attributesText_cons] at first
      cases first
      rfl
  rw [start?, Text.takeWhile_append_stop letters stop, Text.dropWhile_append_stop letters stop,
    attributes?_written isTag.attributeNames isTag.distinct isTag.values]
  simp [isTag.name]

private theorem exists_cons_of_isTag {tag : Text} {attributes : List (Text × Text)} (isTag : IsTag tag attributes) :
    ∃ c rest, c.isAlpha = true ∧ tag ++ attributesText attributes = c :: rest := by
  obtain ⟨c, rest, rfl⟩ := List.exists_cons_of_ne_nil isTag.name.1
  exact ⟨c, rest ++ attributesText attributes, isTag.name.2 c List.mem_cons_self, rfl⟩

private theorem getLast?_ne_slash {tag : Text} {attributes : List (Text × Text)} (isTag : IsTag tag attributes) :
    (tag ++ attributesText attributes).getLast? ≠ some '/' := by
  rcases List.eq_nil_or_concat attributes with rfl | ⟨front, a, rfl⟩
  · intro slash
    have member := List.mem_of_getLast? slash
    rw [attributesText, List.flatMap_nil, List.append_nil] at member
    exact ne_of_isAlpha (isTag.name.2 _ member) (by decide) rfl
  · have quote : ∃ inner, attributesText (front.concat a) = inner ++ ['"'] :=
      ⟨attributesText front ++ (' ' :: (a.1 ++ '=' :: '"' :: a.2)), by simp [attributesText]⟩
    obtain ⟨inner, split⟩ := quote
    rw [split, ← List.append_assoc, List.getLast?_append]
    simp

private theorem read?_opening {tag : Text} {attributes : List (Text × Text)} (isTag : IsTag tag attributes) :
    read? (tag ++ attributesText attributes) = some (opening tag attributes) := by
  obtain ⟨c, rest, letter, split⟩ := exists_cons_of_isTag isTag
  have last := getLast?_ne_slash isTag
  have start := start?_written isTag
  have other : c ≠ '/' := ne_of_isAlpha letter (by decide)
  rw [split] at last start ⊢
  simp [read?, other, last, start]

private theorem read?_void {tag : Text} {attributes : List (Text × Text)} (isTag : IsTag tag attributes) :
    read? (tag ++ attributesText attributes ++ ['/']) = some (void tag attributes) := by
  obtain ⟨c, rest, letter, split⟩ := exists_cons_of_isTag isTag
  have start := start?_written isTag
  have other : c ≠ '/' := ne_of_isAlpha letter (by decide)
  rw [split] at start ⊢
  have dropped : (c :: rest ++ ['/']).dropLast = c :: rest := List.dropLast_concat
  have last : (c :: rest ++ ['/']).getLast? = some '/' := List.getLast?_concat
  rw [List.cons_append] at dropped last ⊢
  simp [read?, other, dropped, last, start]

private theorem unbracketed_of_isTag {tag : Text} {attributes : List (Text × Text)} (isTag : IsTag tag attributes) :
    ∀ c ∈ tag ++ attributesText attributes, c ≠ '<' ∧ c ≠ '>' := by
  have name : ∀ {t : Text}, IsName t → ∀ c ∈ t, c ≠ '<' ∧ c ≠ '>' := fun isName c member =>
    ⟨ne_of_isAlpha (isName.2 c member) (by decide), ne_of_isAlpha (isName.2 c member) (by decide)⟩
  intro c member
  rcases List.mem_append.mp member with early | late
  · exact name isTag.name c early
  · obtain ⟨a, inside, part⟩ := List.mem_flatMap.mp late
    simp only [List.mem_cons, List.mem_append, List.not_mem_nil, or_false] at part
    rcases part with rfl | inName | rfl | rfl | inValue | rfl
    · decide
    · exact name (isTag.attributeNames a inside) c inName
    · decide
    · decide
    · exact ⟨(isTag.values a inside c inValue).1, (isTag.values a inside c inValue).2.1⟩
    · decide

end Tag

namespace MarkupReader

private theorem run_text {t : Text} (plain : ∀ c ∈ t, c ≠ '<' ∧ c ≠ '&') (e : OpenElement) (outer : List OpenElement) :
    run ⟨.between, e, outer⟩ t = some ⟨.between, e.write t, outer⟩ := by
  induction t generalizing e with
  | nil =>
    have kept : e.write [] = e := by rw [OpenElement.write, List.append_nil]
    rw [kept]
    rfl
  | cons c rest ih =>
    obtain ⟨open_, reference⟩ := plain c List.mem_cons_self
    have read : step ⟨.between, e, outer⟩ c = some ⟨.between, e.write [c], outer⟩ := by
      simp [step, open_, reference]
    have written : (e.write [c]).write rest = e.write (c :: rest) := by
      simp [OpenElement.write]
    rw [run_cons, read, Option.bind_some, ih fun d member => plain d (List.mem_cons_of_mem c member), written]

private theorem run_tag {content : Text} (unbracketed : ∀ c ∈ content, c ≠ '<' ∧ c ≠ '>')
    (first : content.head? ≠ some '!') (e : OpenElement) (outer : List OpenElement) :
    run ⟨.between, e, outer⟩ ('<' :: (content ++ ['>'])) =
      (Tag.read? content).bind (takeTag ⟨.between, e, outer⟩) := by
  -- Over the rest of the tag, with what was read of it.
  have general : ∀ read : Text, (read ++ content).head? ≠ some '!' →
      run ⟨.tag read, e, outer⟩ (content ++ ['>']) =
        (Tag.read? (read ++ content)).bind (takeTag ⟨.between, e, outer⟩) := by
    clear first
    induction content with
    | nil =>
      intro read _
      have noComment : read ++ ['>'] ≠ lit "!--" := fun same => by
        have last := congrArg List.getLast? same
        rw [List.getLast?_concat] at last
        cases last
      have place : takeTag ⟨.tag read, e, outer⟩ = takeTag ⟨.between, e, outer⟩ := by
        funext tag
        cases tag <;> rfl
      rw [List.nil_append, List.append_nil, run_cons, step]
      dsimp only
      rw [if_neg noComment, if_neg (by decide), if_pos rfl, place]
      exact Option.bind_fun_some _
    | cons c rest ih =>
      intro read first
      obtain ⟨notOpen, notClose⟩ := unbracketed c List.mem_cons_self
      have noComment : read ++ [c] ≠ lit "!--" := by
        intro same
        rw [List.append_cons, same] at first
        exact first rfl
      have later := ih (fun d member => unbracketed d (List.mem_cons_of_mem c member)) (read ++ [c])
        (by rwa [← List.append_cons])
      rw [List.cons_append, run_cons, step]
      dsimp only
      rw [if_neg noComment, if_neg notOpen, if_neg notClose, Option.bind_some, later, ← List.append_cons]
  exact general [] first

/-- A comment is read up to the first two dashes. -/
theorem run_comment {content : Text} (undashed : ¬ lit "--" <:+: content) (last : content.getLast? ≠ some '-')
    (e : OpenElement) (outer : List OpenElement) :
    run ⟨.between, e, outer⟩ (lit "<!--" ++ content ++ lit "-->") =
      some ⟨.between, e.add (.comment content), outer⟩ := by
  have opened : ∀ rest, run ⟨.between, e, outer⟩ (lit "<!--" ++ rest) = run ⟨.comment [], e, outer⟩ rest := by
    intro rest
    rfl
  -- Over the rest of the comment, with what was read of it.
  have general : ∀ (read rest : Text), ¬ lit "--" <:+: read ++ content →
      run ⟨.comment read, e, outer⟩ (content ++ rest) = run ⟨.comment (read ++ content), e, outer⟩ rest := by
    clear undashed last
    induction content with
    | nil =>
      intro read rest _
      rw [List.nil_append, List.append_nil]
    | cons c more ih =>
      intro read rest undashed
      have open_ : ¬ (lit "--").isSuffixOf read = true := by
        rw [List.isSuffixOf_iff_suffix]
        exact fun suffix => undashed (suffix.isInfix.trans (List.prefix_append read _).isInfix)
      rw [List.cons_append, run_cons, step]
      dsimp only
      rw [if_neg open_, Option.bind_some, ih _ _ (by rwa [← List.append_cons]), ← List.append_cons]
  have closed : run ⟨.comment content, e, outer⟩ (lit "-->") =
      some ⟨.between, e.add (.comment content), outer⟩ := by
    have none : ¬ (lit "--").isSuffixOf content = true := by
      rw [List.isSuffixOf_iff_suffix]
      exact fun suffix => undashed suffix.isInfix
    have one : ¬ (lit "--").isSuffixOf (content ++ ['-']) = true := by
      rw [List.isSuffixOf_iff_suffix]
      rintro ⟨front, same⟩
      have regrouped : front ++ ['-'] ++ ['-'] = content ++ ['-'] := by
        rw [List.append_assoc]
        exact same
      rw [← List.append_cancel_right regrouped, List.getLast?_concat] at last
      exact last rfl
    have both : (lit "--").isSuffixOf (content ++ ['-'] ++ ['-']) = true := by
      rw [List.isSuffixOf_iff_suffix, List.append_assoc]
      exact List.suffix_append content _
    have kept : (content ++ ['-'] ++ ['-']).dropLast.dropLast = content := by
      rw [List.dropLast_concat, List.dropLast_concat]
    show run _ ['-', '-', '>'] = _
    rw [run_cons, step]
    dsimp only
    rw [if_neg none, Option.bind_some, run_cons, step]
    dsimp only
    rw [if_neg one, Option.bind_some, run_cons, step]
    dsimp only
    rw [if_pos both, if_pos rfl, kept]
    rfl
  rw [List.append_assoc, opened, general [] _ undashed, List.nil_append, closed]

private theorem run_startTag {tag : Text} {attributes : List (Text × Text)} (isTag : IsTag tag attributes)
    (e : OpenElement) (outer : List OpenElement) :
    run ⟨.between, e, outer⟩ (startTag tag attributes) = some ⟨.between, { tag, attributes }, e :: outer⟩ := by
  obtain ⟨c, rest, letter, split⟩ := Tag.exists_cons_of_isTag isTag
  have first : (tag ++ attributesText attributes).head? ≠ some '!' := by
    rw [split]
    simpa using ne_of_isAlpha letter (by decide)
  rw [startTag, run_tag (Tag.unbracketed_of_isTag isTag) first, Tag.read?_opening isTag]
  rfl

private theorem run_void {tag : Text} {attributes : List (Text × Text)} (isTag : IsTag tag attributes) (e : OpenElement)
    (outer : List OpenElement) :
    run ⟨.between, e, outer⟩ ('<' :: (tag ++ attributesText attributes ++ ['/', '>'])) =
      some ⟨.between, e.add (.void tag attributes), outer⟩ := by
  obtain ⟨c, rest, letter, split⟩ := Tag.exists_cons_of_isTag isTag
  have unbracketed : ∀ c ∈ tag ++ attributesText attributes ++ ['/'], c ≠ '<' ∧ c ≠ '>' := by
    intro c member
    rcases List.mem_append.mp member with early | late
    · exact Tag.unbracketed_of_isTag isTag c early
    · rw [List.mem_singleton.mp late]
      decide
  have first : (tag ++ attributesText attributes ++ ['/']).head? ≠ some '!' := by
    rw [split]
    simpa using ne_of_isAlpha letter (by decide)
  have grouped : tag ++ attributesText attributes ++ ['/', '>'] =
      tag ++ attributesText attributes ++ ['/'] ++ ['>'] := by
    rw [List.append_assoc _ ['/']]
    rfl
  rw [grouped, run_tag unbracketed first, Tag.read?_void isTag]
  rfl

private theorem run_endTag {e : OpenElement} {n : Node} (name : IsName e.tag) (closed : e.node? = some n)
    (parent : OpenElement) (outer : List OpenElement) :
    run ⟨.between, e, parent :: outer⟩ (endTag e.tag) = some ⟨.between, parent.add n, outer⟩ := by
  have unbracketed : ∀ c ∈ '/' :: e.tag, c ≠ '<' ∧ c ≠ '>' := by
    intro c member
    rcases List.mem_cons.mp member with rfl | letter
    · decide
    · exact ⟨ne_of_isAlpha (name.2 c letter) (by decide), ne_of_isAlpha (name.2 c letter) (by decide)⟩
  have read : Tag.read? ('/' :: e.tag) = some (.closing e.tag) := rfl
  rw [endTag, ← List.cons_append, run_tag unbracketed (by simp), read, Option.bind_some, takeTag, close?]
  dsimp only
  rw [if_pos rfl, closed]
  rfl

theorem run_markupLine {content : Text} {e e' : OpenElement} {outer outer' : List OpenElement} (indent : Nat)
    (read : run ⟨.between, e.write (List.replicate indent ' '), outer⟩ content = some ⟨.between, e', outer'⟩) :
    run ⟨.between, e, outer⟩ (markupLine indent content) = some ⟨.between, e'.write ['\n'], outer'⟩ := by
  have blank : ∀ c ∈ List.replicate indent ' ', c ≠ '<' ∧ c ≠ '&' := by
    intro c member
    rw [List.eq_of_mem_replicate member]
    decide
  have feed : ∀ c ∈ ['\n'], c ≠ '<' ∧ c ≠ '&' := by decide
  rw [markupLine, List.append_assoc, run_append, run_text blank, Option.bind_some, run_append, read, Option.bind_some]
  exact run_text feed e' outer'

end MarkupReader

namespace Node

/-- A text of blanks, as it stands between nodes. -/
def Spacing (t : Text) : Prop := ∀ c ∈ t, c = ' ' ∨ c = '\n'

theorem Spacing.append {a b : Text} (first : Spacing a) (second : Spacing b) : Spacing (a ++ b) := by
  intro c member
  rcases List.mem_append.mp member with early | late
  · exact first c early
  · exact second c late

theorem spacing_line (indent : Nat) : Spacing (List.replicate indent ' ' ++ ['\n']) := by
  intro c member
  rcases List.mem_append.mp member with space | feed
  · exact .inl (List.eq_of_mem_replicate space)
  · exact .inr (List.mem_singleton.mp feed)

/-- Reading some nodes adds them to the innermost element, with blanks around them. -/
def Reads (t : Text) (nodes : List Node) : Prop :=
  ∀ (e : OpenElement) (outer : List OpenElement), ∃ spacing, Spacing spacing ∧
    MarkupReader.run ⟨.between, e, outer⟩ t =
      some ⟨.between, { e with children := e.children ++ nodes, text := e.text ++ spacing }, outer⟩

theorem Reads.nil : Reads [] [] := by
  intro e outer
  refine ⟨[], by simp [Spacing], ?_⟩
  rw [List.append_nil, List.append_nil]
  rfl

theorem Reads.append {a b : Text} {ns ms : List Node} (first : Reads a ns) (second : Reads b ms) :
    Reads (a ++ b) (ns ++ ms) := by
  intro e outer
  obtain ⟨spacing, blank, read⟩ := first e outer
  obtain ⟨spacing', blank', read'⟩ := second { e with children := e.children ++ ns, text := e.text ++ spacing } outer
  refine ⟨spacing ++ spacing', blank.append blank', ?_⟩
  rw [MarkupReader.run_append, read, Option.bind_some, read', List.append_assoc, List.append_assoc]

/-- A node that is written on one line. -/
theorem Reads.line {content : Text} {n : Node} (indent : Nat)
    (read : ∀ e outer, MarkupReader.run ⟨.between, e, outer⟩ content = some ⟨.between, e.add n, outer⟩) :
    Reads (markupLine indent content) [n] := by
  intro e outer
  refine ⟨_, spacing_line indent, ?_⟩
  rw [MarkupReader.run_markupLine indent (read _ outer), ← List.append_assoc]
  rfl

theorem Reads.all {indent : Nat} {nodes : List Node} (each : ∀ n ∈ nodes, Reads (n.markup indent) [n]) :
    Reads (markupAll indent nodes) nodes := by
  induction nodes with
  | nil => exact .nil
  | cons n rest ih =>
    exact (each n List.mem_cons_self).append (ih fun m member => each m (List.mem_cons_of_mem n member))

theorem WellFormed.reads {n : Node} (wellFormed : n.WellFormed) (indent : Nat) : Reads (n.markup indent) [n] := by
  induction wellFormed generalizing indent with
  | @element tag attributes children start nonempty inner ih =>
    intro e outer
    obtain ⟨spacing, blank, content⟩ := Reads.all (fun n member => ih n member (indent + 2))
      ⟨tag, attributes, [], ['\n']⟩ (e.write (List.replicate indent ' ') :: outer)
    have opened := MarkupReader.run_markupLine indent (MarkupReader.run_startTag start (e.write _) outer)
    have filled : OpenElement.node? ⟨tag, attributes, children, ['\n'] ++ spacing ++ List.replicate indent ' '⟩ =
        some (Node.element tag attributes children) := by
      have spaced : ∀ c ∈ ['\n'] ++ spacing ++ List.replicate indent ' ', c = ' ' ∨ c = '\n' := by
        intro c member
        rw [List.append_assoc] at member
        rcases List.mem_append.mp member with feed | rest
        · exact .inr (List.mem_singleton.mp feed)
        · rcases List.mem_append.mp rest with inside | behind
          · exact blank c inside
          · exact .inl (List.eq_of_mem_replicate behind)
      rw [OpenElement.node?, if_neg nonempty, if_pos]
      rw [OpenElement.isSpaced, List.all_eq_true]
      simpa using spaced
    have closed := MarkupReader.run_markupLine (e := ⟨tag, attributes, children, ['\n'] ++ spacing⟩) indent
      (MarkupReader.run_endTag start.name filled (e.write (List.replicate indent ' ')) outer)
    refine ⟨_, spacing_line indent, ?_⟩
    rw [markup, MarkupReader.run_append, MarkupReader.run_append, opened, Option.bind_some]
    show Option.bind (MarkupReader.run ⟨.between, ⟨tag, attributes, [], ['\n']⟩, _⟩ _) _ = _
    rw [content, Option.bind_some]
    rw [← List.append_assoc]
    exact closed
  | @leaf tag attributes value start verbatim =>
    refine .line indent fun e outer => ?_
    have plain : ∀ c ∈ value, c ≠ '<' ∧ c ≠ '&' := fun c member => ⟨(verbatim c member).1, (verbatim c member).2.2.1⟩
    have closed := MarkupReader.run_endTag (e := ⟨tag, attributes, [], value⟩) start.name rfl e outer
    rw [MarkupReader.run_append, MarkupReader.run_append, MarkupReader.run_startTag start, Option.bind_some,
      MarkupReader.run_text plain, Option.bind_some]
    exact closed
  | void start => exact .line indent fun e outer => MarkupReader.run_void start e outer
  | comment undashed last => exact .line indent fun e outer => MarkupReader.run_comment undashed last e outer

/-- What a well-formed tree is written as is read back as the tree. -/
theorem read_markup {n : Node} (wellFormed : n.WellFormed) : read? (n.markup 0) = some n := by
  obtain ⟨spacing, blank, read⟩ := wellFormed.reads 0 {} []
  have spaced : ([] ++ spacing).all (fun c => c == ' ' || c == '\n') = true := by
    simpa [Spacing] using blank
  rw [read?]
  show Option.bind (MarkupReader.run ⟨.between, {}, []⟩ _) _ = _
  rw [read, Option.bind_some, MarkupReader.node?]
  exact if_pos spaced

end Node

end DialogGrid
