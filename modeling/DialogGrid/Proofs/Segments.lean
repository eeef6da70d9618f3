import DialogGrid.Proofs.Elements
import DialogGrid.Proofs.Locality
import DialogGrid.Proofs.Properties

/-!
# The parts of a dialog

The directives from a declaration on are cut at the first `BEGIN`, and those behind it at the first `END`. With both
keywords there is a dialog; without one of them reading fails, and the problem that is reported names it. What the parts
are, the properties among them, is told by the directives alone (`Dialog.parse_segments`).
-/

namespace DialogGrid

/-! ## Lists that are cut at a keyword -/

namespace Directive

/-- A list of directives, cut at the first one of some name. -/
structure CutAt (keyword : Text) (ds front : List Directive) (d : Directive) (behind : List Directive) : Prop where
  split : ds = front ++ d :: behind
  before : ∀ x ∈ front, x.isNamed keyword = false
  named : d.isNamed keyword = true

variable {keyword : Text} {ds front behind : List Directive} {d : Directive}

private theorem CutAt.span (cut : CutAt keyword ds front d behind) :
    ds.span (!·.isNamed keyword) = (front, d :: behind) := by
  have before : ∀ x ∈ front, (!x.isNamed keyword) = true := fun x member => by
    rw [cut.before x member]
    rfl
  rw [cut.split]
  exact Text.span_append_stop before (by simp [cut.named])

theorem CutAt.unique {front' behind' : List Directive} {d' : Directive} (cut : CutAt keyword ds front d behind)
    (other : CutAt keyword ds front' d' behind') : front = front' ∧ d = d' ∧ behind = behind' := by
  obtain ⟨fronts, rest⟩ := Prod.mk.inj (cut.span.symm.trans other.span)
  obtain ⟨here, behinds⟩ := List.cons.inj rest
  exact ⟨fronts, here, behinds⟩

/-- A list that has a directive of some name can be cut at the first one. -/
theorem exists_cutAt (present : ∃ x ∈ ds, x.isNamed keyword = true) : ∃ front d behind, CutAt keyword ds front d behind := by
  obtain ⟨d, found⟩ := Option.isSome_iff_exists.mp (List.find?_isSome.mpr present)
  obtain ⟨named, front, behind, split, before⟩ := List.find?_eq_some_iff_append.mp found
  exact ⟨front, d, behind, split, fun x member => by simpa using before x member, named⟩

private theorem span_of_absent (absent : ∀ x ∈ ds, x.isNamed keyword = false) :
    ds.span (!·.isNamed keyword) = (ds, []) := by
  have all : ∀ x ∈ ds, (!x.isNamed keyword) = true := fun x member => by
    rw [absent x member]
    rfl
  have whole := Text.span_append_stop (b := []) all (by simp)
  rwa [List.append_nil] at whole

end Directive

/-! ## Quotes -/

theorem Text.quoted?_eq_some_iff {t inner : Text} : t.quoted? = some inner ↔ t = inner.inQuotes := by
  constructor
  · intro quoted
    unfold quoted? at quoted
    split at quoted
    · next rest =>
      split at quoted
      · next last =>
        obtain rfl := Option.some.inj quoted
        rw [inQuotes, List.dropLast_append_getLast? _ last]
      · cases quoted
    · cases quoted
  · rintro rfl
    rw [inQuotes, quoted?, List.getLast?_concat, if_pos rfl, List.dropLast_concat]

/-- What a text is without the one pair of quotes around it: the text between them, or all of it if there is none. -/
def Text.Unquotes (t inner : Text) : Prop := t = inner.inQuotes ∨ (t = inner ∧ ∀ s : Text, t ≠ s.inQuotes)

theorem Text.unquotes_unquote (t : Text) : t.Unquotes t.unquote := by
  unfold unquote
  cases quoted : t.quoted? with
  | some inner => exact .inl (quoted?_eq_some_iff.mp quoted)
  | none =>
    refine .inr ⟨rfl, fun s same => ?_⟩
    cases quoted.symm.trans (quoted?_eq_some_iff.mpr same)

theorem Text.unquote_eq_iff {t inner : Text} : t.unquote = inner ↔ t.Unquotes inner := by
  constructor
  · rintro rfl
    exact t.unquotes_unquote
  · rintro (rfl | ⟨rfl, bare⟩)
    · exact unquote_inQuotes inner
    · rcases t.unquotes_unquote with quoted | ⟨same, -⟩
      · exact absurd quoted (bare _)
      · exact same.symm

/-! ## Dialogs -/

namespace Dialog

open Directive

variable {source : Text} {index : Nat} {wanted? : Option Text} {line : Line} {id : Text}

/-- Reading fails for want of a keyword: there is one problem, and it names the keyword. -/
def Lacks (parsed : Except ReadError Dialog) (keyword : Text) : Prop :=
  ∃ problem, parsed.mapError ReadError.diagnostic = .error problem ∧ problem.severity = .error ∧
    problem.code.map Code.text = some (lit "E101") ∧ problem.message = lit "input ended before `" ++ keyword ++ lit "`"

private theorem Lacks.of_incomplete {parsed : Except ReadError Dialog} {keyword : Text} {line : Line} {size : Nat}
    (failed : parsed = .error (.incomplete keyword line size)) : Lacks parsed keyword :=
  ⟨_, by rw [failed]; rfl, rfl, rfl, rfl⟩

private theorem parse_unopened (declared : declaration? source (source.boundary index) wanted? = some (line, id))
    (absent : ∀ x ∈ (Cursor.ofOffset source line.start).directives, x.isNamed (lit "BEGIN") = false) :
    parse source index wanted? = .error (.incomplete (lit "BEGIN") line source.byteSize) := by
  rw [parse]
  dsimp only
  rw [declared]
  dsimp only
  rw [span_of_absent absent]

private theorem parse_unclosed {header inner : List Directive} {opening : Directive}
    (declared : declaration? source (source.boundary index) wanted? = some (line, id))
    (opened : CutAt (lit "BEGIN") (Cursor.ofOffset source line.start).directives header opening inner)
    (absent : ∀ x ∈ inner, x.isNamed (lit "END") = false) :
    parse source index wanted? = .error (.incomplete (lit "END") line source.byteSize) := by
  rw [parse]
  dsimp only
  rw [declared]
  dsimp only
  rw [opened.span]
  dsimp only
  rw [span_of_absent absent]

/-- The parts that a dialog is made of. -/
structure Segmented (d : Dialog) (start : Nat) (header inner : List Directive) : Prop where
  body : ∃ closing behind, CutAt (lit "END") inner d.body closing behind ∧ d.span = .ofBounds start closing.span.stop
  properties : d.header = .ofDirectives header

/-- There is a dialog exactly if both keywords are there, the second behind the first, and these cut it into its parts. -/
theorem parse_eq_ok_iff (declared : declaration? source (source.boundary index) wanted? = some (line, id)) {d : Dialog} :
    parse source index wanted? = .ok d ↔ d.id = id ∧ ∃ header opening inner,
      CutAt (lit "BEGIN") (Cursor.ofOffset source line.start).directives header opening inner ∧
        d.Segmented line.start header inner := by
  rw [parse_eq_ok, declared]
  constructor
  · rintro ⟨found, header, opening, closing, behind, same, read, consists⟩
    obtain ⟨rfl, rfl⟩ := Prod.mk.inj (Option.some.inj same)
    exact ⟨rfl, header, opening, _, ⟨read, consists.outside, consists.opens⟩,
      ⟨closing, behind, ⟨rfl, consists.inside, consists.closes⟩, consists.span⟩, consists.properties⟩
  · rintro ⟨rfl, header, opening, inner, opened, ⟨closing, behind, closed, span⟩, properties⟩
    obtain rfl := closed.split
    exact ⟨line, header, opening, closing, behind, rfl, opened.split,
      ⟨opened.before, opened.named, closed.before, closed.named, properties, span⟩⟩

/-- The title is the first argument of the last `CAPTION`, without quotes. -/
theorem caption?_eq_some_iff {d : Dialog} {header : List Directive} (collects : d.header.Collects header) {title : Text} :
    d.caption? = some title ↔
      ∃ caption ∈ last? header (lit "CAPTION"), ∃ first ∈ caption.args.head?, first.Unquotes title := by
  rw [caption?, collects.get?]
  cases last? header (lit "CAPTION") with
  | none => simp
  | some caption => simp [← Text.unquote_eq_iff]

/-- Behind a declaration that is found, the directives decide. There is a dialog exactly if one of them is `BEGIN` and
one behind the first of these is `END`; otherwise the keyword that is missing is reported. The directives before
`BEGIN` tell the properties: those of them that have arguments, each name once, with its first place and spelling and
its last arguments. The ones from there up to `END` are the body. -/
theorem parse_segments (declared : declaration? source (source.boundary index) wanted? = some (line, id)) :
    let read := (Cursor.ofOffset source line.start).directives
    let parsed := parse source index wanted?
    ((∃ d, parsed = .ok d) ↔ ∃ header opening inner, CutAt (lit "BEGIN") read header opening inner ∧
        ∃ x ∈ inner, x.isNamed (lit "END") = true) ∧
      ((∀ x ∈ read, x.isNamed (lit "BEGIN") = false) → Lacks parsed (lit "BEGIN")) ∧
      ∀ header opening inner, CutAt (lit "BEGIN") read header opening inner →
        ((∀ x ∈ inner, x.isNamed (lit "END") = false) → Lacks parsed (lit "END")) ∧
        ∀ d, parsed = .ok d →
          (d.id = id ∧ ∃ closing behind, CutAt (lit "END") inner d.body closing behind ∧
            d.span = .ofBounds line.start closing.span.stop) ∧
          d.header.Collects (header.filter (·.args ≠ [])) ∧
          ∀ title, d.caption? = some title ↔ ∃ caption ∈ last? (header.filter (·.args ≠ [])) (lit "CAPTION"),
            ∃ first ∈ caption.args.head?, first.Unquotes title := by
  intro read parsed
  refine ⟨?_, fun absent => .of_incomplete (parse_unopened declared absent), fun header opening inner opened =>
    ⟨fun absent => .of_incomplete (parse_unclosed declared opened absent), fun d ok => ?_⟩⟩
  · constructor
    · rintro ⟨d, ok⟩
      obtain ⟨-, header, opening, inner, opened, ⟨closing, behind, closed, -⟩, -⟩ := (parse_eq_ok_iff declared).mp ok
      exact ⟨header, opening, inner, opened, closing, by simp [closed.split], closed.named⟩
    · rintro ⟨header, opening, inner, opened, present⟩
      obtain ⟨body, closing, behind, closed⟩ := exists_cutAt present
      exact ⟨⟨id, .ofDirectives header, body, .ofBounds line.start closing.span.stop⟩, (parse_eq_ok_iff declared).mpr
        ⟨rfl, header, opening, inner, opened, ⟨closing, behind, closed, rfl⟩, rfl⟩⟩
  · obtain ⟨same, header', opening', inner', opened', segmented⟩ := (parse_eq_ok_iff declared).mp ok
    obtain ⟨rfl, -, rfl⟩ := opened.unique opened'
    have collects := Header.collects_ofDirectives header
    rw [← segmented.properties] at collects
    exact ⟨⟨same, segmented.body⟩, collects, fun title => caption?_eq_some_iff collects⟩

/-- A title that is set twice, in another letter case, and once more without a text; and a script where the keywords
come in the wrong order. -/
theorem parse_segments_repeated :
    let source := lit "D DIALOG\ncaption x\nStyle 1\nCaption \"a\"\nCAPTION\nBegin\nX\nEND\n"
    let header : List Directive := [⟨['D'], [lit "DIALOG"], .ofBounds 0 8⟩, ⟨lit "caption", [['x']], .ofBounds 9 18⟩,
      ⟨lit "Style", [['1']], .ofBounds 19 26⟩, ⟨lit "Caption", [lit "\"a\""], .ofBounds 27 38⟩]
    let d : Dialog :=
      { id := ['D'], header := [(['D'], [lit "DIALOG"]), (lit "caption", [lit "\"a\""]), (lit "Style", [['1']])]
        body := [⟨['X'], [], .ofBounds 53 54⟩], span := .ofBounds 0 58 }
    let swapped := lit "D DIALOG\nEND\nBEGIN\n"
    parse source 20 none = .ok d ∧ d.caption? = some ['a'] ∧ d.header.Collects header ∧
      Lacks (parse swapped 0 none) (lit "END") := by
  intro source header d swapped
  have opened : CutAt (lit "BEGIN") (Cursor.ofOffset source 0).directives (header ++ [⟨lit "CAPTION", [], .ofBounds 39 46⟩])
      ⟨lit "Begin", [], .ofBounds 47 52⟩ [⟨['X'], [], .ofBounds 53 54⟩, ⟨lit "END", [], .ofBounds 55 58⟩] :=
    ⟨Cursor.directives_of_within (n := 9) (by decide +kernel), by decide, by decide⟩
  have declared : declaration? source (source.boundary 20) none = some (⟨0, lit "D DIALOG"⟩, ['D']) := by decide +kernel
  have parsed : parse source 20 none = .ok d :=
    (parse_eq_ok_iff declared).mpr ⟨rfl, _, _, _, opened,
      ⟨⟨lit "END", [], .ofBounds 55 58⟩, [], ⟨rfl, by decide, by decide⟩, rfl⟩, by decide⟩
  obtain ⟨-, -, parts⟩ := parse_segments declared
  obtain ⟨-, collects, title⟩ := (parts _ _ _ opened).2 d parsed
  have opened' : CutAt (lit "BEGIN") (Cursor.ofOffset swapped 0).directives
      [⟨['D'], [lit "DIALOG"], .ofBounds 0 8⟩, ⟨lit "END", [], .ofBounds 9 12⟩] ⟨lit "BEGIN", [], .ofBounds 13 18⟩ [] :=
    ⟨Cursor.directives_of_within (n := 4) (by decide +kernel), by decide, by decide⟩
  have declared' : declaration? swapped (swapped.boundary 0) none = some (⟨0, lit "D DIALOG"⟩, ['D']) := by decide +kernel
  obtain ⟨-, -, parts'⟩ := parse_segments declared'
  obtain ⟨lacks, -⟩ := parts' _ _ _ opened'
  exact ⟨parsed, (title ['a']).mpr ⟨_, rfl, lit "\"a\"", rfl, .inl rfl⟩, collects, lacks (by simp)⟩

end Dialog

end DialogGrid
