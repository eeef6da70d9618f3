import DialogGrid.Proofs.CarriageReturns
import DialogGrid.Proofs.Layout
import DialogGrid.SymbolTable
import Mathlib.Data.List.Induction
import Mathlib.Logic.Relation

/-!
# Define dumps

A dump is read line by line, and the table holds for each name what the last line that defines it says. So two dumps one
behind the other are read as the union of their tables, in which the later one counts; lines that define nothing may stand
anywhere; and it does not matter with which line break a line ends (`ofDump_union`).
-/

namespace DialogGrid.SymbolTable

/-! ## The last pair counts -/

/-- A table that is built from pairs holds the last value of each name. -/
theorem get?_ofPairs (pairs : List (Text × Text)) (name : Text) : (ofPairs pairs).get? name = pairs.reverse.lookup name := by
  induction pairs using List.reverseRecOn with
  | nil => rfl
  | append_singleton front pair ih =>
    obtain ⟨key, value⟩ := pair
    have step : ofPairs (front ++ [(key, value)]) = (ofPairs front).insert key value := List.foldl_append ..
    rw [step, List.reverse_concat, List.lookup_cons]
    by_cases same : name = key
    · subst same
      rw [get?_insert_self, beq_self_eq_true]
    · rw [get?_insert_of_ne _ value same, ih, beq_false_of_ne same]

/-! ## Lines of a dump -/

open dumpLines (dropReturn)

private theorem dropReturn_concat (line : Text) : dropReturn (line ++ ['\r']) = line := by
  simp [dropReturn]

private theorem dropReturn_eq_self {line : Text} (unreturned : line.getLast? ≠ some '\r') : dropReturn line = line :=
  if_neg unreturned

private theorem dumpLines_single {line : Text} (oneLine : '\n' ∉ line) : dumpLines line = [line] := by
  rw [dumpLines, List.splitOn_eq_singleton oneLine]
  rfl

private theorem dumpLines_cons {line : Text} (rest : Text) (oneLine : '\n' ∉ line) :
    dumpLines (line ++ '\n' :: rest) = dropReturn line :: dumpLines rest := by
  obtain ⟨next, more, split⟩ := List.exists_cons_of_ne_nil (List.splitOn_ne_nil '\n' rest)
  rw [dumpLines, dumpLines, List.splitOn_append_cons_self_of_not_mem oneLine, split]
  rfl

/-- Two dumps with a line feed between them. A carriage return before that would be part of the line break. -/
theorem dumpLines_append {front : Text} (back : Text) (unreturned : front.getLast? ≠ some '\r') :
    dumpLines (front ++ '\n' :: back) = dumpLines front ++ dumpLines back := by
  induction front using Text.line_induction with
  | last line oneLine =>
    rw [dumpLines_cons back oneLine, dumpLines_single oneLine, dropReturn_eq_self unreturned, List.singleton_append]
  | more line rest oneLine ih =>
    have later : rest.getLast? ≠ some '\r' := by
      intro returned
      refine unreturned ?_
      rw [List.getLast?_append, List.getLast?_cons, returned]
      rfl
    rw [List.append_assoc, List.cons_append, dumpLines_cons _ oneLine, dumpLines_cons _ oneLine, ih later,
      List.cons_append]

theorem dumpLines_append_crlf (front back : Text) :
    dumpLines (front ++ '\r' :: '\n' :: back) = dumpLines front ++ dumpLines back := by
  induction front using Text.line_induction with
  | last line oneLine =>
    have returned : '\n' ∉ line ++ ['\r'] := by simp [oneLine]
    rw [show line ++ '\r' :: '\n' :: back = (line ++ ['\r']) ++ '\n' :: back by simp, dumpLines_cons back returned,
      dropReturn_concat, dumpLines_single oneLine, List.singleton_append]
  | more line rest oneLine ih =>
    rw [List.append_assoc, List.cons_append, dumpLines_cons _ oneLine, dumpLines_cons _ oneLine, ih, List.cons_append]

theorem dumpLines_crlf {dump : Text} (noReturn : '\r' ∉ dump) : dumpLines (Text.crlf dump) = dumpLines dump := by
  induction dump using Text.line_induction with
  | last line oneLine => rw [Text.crlf_eq_self oneLine]
  | more line rest oneLine ih =>
    have unreturned : line.getLast? ≠ some '\r' := fun returned =>
      noReturn (List.mem_append_left _ (List.mem_of_getLast? returned))
    have later : '\r' ∉ rest := fun returned => noReturn (by simp [returned])
    rw [Text.crlf_append, Text.crlf_feed, Text.crlf_eq_self oneLine, dumpLines_append_crlf, ih later,
      dumpLines_append rest unreturned]

/-! ## What the lines define -/

/-- What the lines of a dump define, from the first line to the last. -/
def definitions (dump : Text) : List (Text × Text) := (dumpLines dump).filterMap definition?

theorem get?_ofDump (dump name : Text) : (ofDump dump).get? name = (definitions dump).reverse.lookup name :=
  get?_ofPairs _ name

private theorem definitions_nil : definitions [] = [] := rfl

private theorem definitions_single {line : Text} (oneLine : '\n' ∉ line) :
    definitions line = (definition? line).toList := by
  rw [definitions, dumpLines_single oneLine]
  cases found : definition? line <;> simp [found]

private theorem definitions_cons {line : Text} (rest : Text) (oneLine : '\n' ∉ line) :
    definitions (line ++ '\n' :: rest) = (definition? (dropReturn line)).toList ++ definitions rest := by
  rw [definitions, dumpLines_cons rest oneLine, definitions]
  cases found : definition? (dropReturn line) <;> simp [found]

theorem definitions_append {front : Text} (back : Text) (unreturned : front.getLast? ≠ some '\r') :
    definitions (front ++ '\n' :: back) = definitions front ++ definitions back := by
  rw [definitions, dumpLines_append back unreturned, List.filterMap_append, definitions, definitions]

theorem definitions_append_crlf (front back : Text) :
    definitions (front ++ '\r' :: '\n' :: back) = definitions front ++ definitions back := by
  rw [definitions, dumpLines_append_crlf, List.filterMap_append, definitions, definitions]

/-- A dump that is empty or ends with a line feed. What follows begins a line. -/
def Ended (dump : Text) : Prop := dump = [] ∨ dump.getLast? = some '\n'

instance (dump : Text) : Decidable (Ended dump) := inferInstanceAs (Decidable (_ ∨ _))

/-- Behind the end of a line a dump goes on as if it began there. -/
theorem Ended.definitions_append {front : Text} (ended : Ended front) (back : Text) :
    definitions (front ++ back) = definitions front ++ definitions back := by
  induction front using Text.line_induction with
  | last line oneLine =>
    rcases ended with rfl | feed
    · rfl
    · exact absurd (List.mem_of_getLast? feed) oneLine
  | more line rest oneLine ih =>
    have later : Ended rest := by
      rcases ended with nothing | feed
      · exact absurd nothing (by simp)
      · cases rest with
        | nil => exact .inl rfl
        | cons c rest =>
          rw [List.getLast?_append, List.getLast?_cons_cons] at feed
          exact .inr (by simpa using feed)
    rw [List.append_assoc, List.cons_append, definitions_cons _ oneLine, definitions_cons _ oneLine, ih later,
      List.append_assoc]

/-! ## What a line defines -/

/-- A line that defines nothing: it does not begin with the keyword, or its second field is missing or empty. The fields
are separated by single spaces. -/
def Idle (line : Text) : Prop := ¬ lit "#define" <+: line ∨ ∀ name ∈ (line.splitOn ' ')[1]?, name = []

instance (line : Text) : Decidable (Idle line) := inferInstanceAs (Decidable (_ ∨ ∀ name ∈ (line.splitOn ' ')[1]?, _))

theorem definition?_eq_none_iff {line : Text} : definition? line = none ↔ Idle line := by
  rw [definition?, Idle, ← List.isPrefixOf_iff_prefix]
  split
  · next keyword =>
    rw [or_iff_right (by simpa using keyword)]
    split
    · next first name value fields => simp [fields]
    · next short =>
      refine iff_of_true rfl fun name second => ?_
      -- Every line has a first field, so what is missing is the second one.
      obtain ⟨first, rest, fields⟩ := List.exists_cons_of_ne_nil (List.splitOn_ne_nil ' ' line)
      cases rest with
      | nil => simp [fields] at second
      | cons next more => exact absurd fields (short first next more)
  · next other => exact iff_of_true rfl (.inl (by simpa using other))

private theorem flatten_splitOn (t : Text) (c : Char) : (t.splitOn c).flatten = t.filter (· ≠ c) := by
  induction t with
  | nil => rfl
  | cons d rest ih =>
    obtain ⟨first, more, split⟩ := List.exists_cons_of_ne_nil (List.splitOn_ne_nil c rest)
    rw [List.splitOn_cons_eq_if_modifyHead]
    rw [split] at ih ⊢
    by_cases same : d = c
    · simpa [same] using ih
    · simpa [same] using ih

/-- The line that gives a name its value. -/
def definingLine (name value : Text) : Text := lit "#define" ++ ' ' :: (name ++ ' ' :: value)

private theorem definingLine_eq (name value : Text) :
    definingLine name value = lit "#define" ++ ' ' :: (name ++ ' ' :: value) := rfl

/-- The value of a name is all behind the name, without spaces. -/
theorem definition?_definingLine {name : Text} (value : Text) (nonempty : name ≠ []) (noSpace : ' ' ∉ name) :
    definition? (definingLine name value) = some (name, value.filter (· ≠ ' ')) := by
  have begins : (lit "#define").isPrefixOf (definingLine name value) = true :=
    List.isPrefixOf_iff_prefix.mpr (List.prefix_append _ _)
  have single : ' ' ∉ lit "#define" := by decide
  rw [definition?, if_pos begins, definingLine_eq, List.splitOn_append_cons_self_of_not_mem single,
    List.splitOn_append_cons_self_of_not_mem noSpace]
  dsimp only
  rw [if_neg nonempty, flatten_splitOn]

private theorem not_mem_definingLine {name value : Text} {c : Char} (lineBreak : c = '\r' ∨ c = '\n')
    (inName : c ∉ name) (inValue : c ∉ value) : c ∉ definingLine name value := by
  have keyword : c ∉ lit "#define" := by
    rcases lineBreak with rfl | rfl <;> decide
  have space : c ≠ ' ' := by
    rcases lineBreak with rfl | rfl <;> decide
  rw [definingLine_eq]
  simp only [List.mem_append, List.mem_cons, not_or]
  exact ⟨keyword, space, inName, space, inValue⟩

private theorem definitions_line {line back : Text} {lineBreak? : Option LineBreak} (oneLine : '\n' ∉ line)
    (kept : lineBreak? = some .lf → line.getLast? ≠ some '\r') (stop : lineBreak? = none → back = []) :
    definitions (line ++ (LineBreak.optional lineBreak? ++ back)) = (definition? line).toList ++ definitions back := by
  rw [← definitions_single oneLine]
  match lineBreak? with
  | none =>
    obtain rfl := stop rfl
    rw [definitions_nil, List.append_nil, LineBreak.optional, Option.elim_none, List.append_nil, List.append_nil]
  | some .lf => exact definitions_append back (kept rfl)
  | some .crlf => exact definitions_append_crlf line back

theorem Ended.definitions_definingLine {front name value : Text} {lineBreak? : Option LineBreak} (ended : Ended front)
    (nonempty : name ≠ []) (bare : ∀ c ∈ [' ', '\r', '\n'], c ∉ name) (unbroken : ∀ c ∈ ['\r', '\n'], c ∉ value) :
    definitions (front ++ (definingLine name value ++ LineBreak.optional lineBreak?)) =
      definitions front ++ [(name, value.filter (· ≠ ' '))] := by
  have noFeed : '\n' ∉ definingLine name value :=
    not_mem_definingLine (.inr rfl) (bare _ (by decide)) (unbroken _ (by decide))
  have noReturn : '\r' ∉ definingLine name value :=
    not_mem_definingLine (.inl rfl) (bare _ (by decide)) (unbroken _ (by decide))
  have kept : lineBreak? = some .lf → (definingLine name value).getLast? ≠ some '\r' :=
    fun _ returned => noReturn (List.mem_of_getLast? returned)
  have last := definitions_line noFeed kept fun _ => rfl
  rw [List.append_nil, definition?_definingLine value nonempty (bare _ (by decide)), definitions_nil,
    List.append_nil] at last
  rw [ended.definitions_append, last]
  rfl

/-! ## Lines that come and go -/

/-- One dump is the other one with one more line that defines nothing, wherever a line may begin, or with a line break
behind its last line. Only the last line may lack its line break; and a carriage return at the end of a line would be part
of a line feed behind it. -/
inductive Pads : Text → Text → Prop
  | line {front line back : Text} {lineBreak? : Option LineBreak} (ended : Ended front) (oneLine : '\n' ∉ line)
      (idle : Idle line) (kept : lineBreak? = some .lf → line.getLast? ≠ some '\r')
      (stop : lineBreak? = none → back = []) :
      Pads (front ++ back) (front ++ (line ++ (LineBreak.optional lineBreak? ++ back)))
  | lineBreak {dump : Text} {lineBreak : LineBreak} (kept : lineBreak = .lf → dump.getLast? ≠ some '\r') :
      Pads dump (dump ++ lineBreak.text)

/-- Padding adds nothing to what is defined. -/
theorem Pads.definitions_eq {dump dump' : Text} (pads : Pads dump dump') : definitions dump' = definitions dump := by
  cases pads with
  | @line front line back lineBreak? ended oneLine idle kept stop =>
    rw [ended.definitions_append, ended.definitions_append, definitions_line oneLine kept stop,
      definition?_eq_none_iff.mpr idle]
    rfl
  | @lineBreak _ lineBreak kept =>
    have nothing : definitions (dump ++ lineBreak.text) = definitions dump ++ definitions [] := by
      cases lineBreak with
      | lf => exact definitions_append [] (kept rfl)
      | crlf => exact definitions_append_crlf dump []
    rw [nothing, definitions_nil, List.append_nil]

theorem definitions_of_padded {dump dump' : Text} (padded : Relation.EqvGen Pads dump dump') :
    definitions dump' = definitions dump := by
  induction padded with
  | rel dump dump' pads => exact pads.definitions_eq
  | refl dump => rfl
  | symm dump dump' _ ih => exact ih.symm
  | trans dump dump' dump'' _ _ first second => exact second.trans first

/-! ## Reading a dump -/

/-- A dump is read as the union of its lines, in which the later ones count. Of two dumps with a line feed between them the
second one has the say about the names that it defines, and the first one about all others. Lines that define nothing may
be put in or left out at any place and any number of times. A definition in the last line holds, and is about its own name
only. And it does not matter with which kind of line break the lines end. -/
theorem ofDump_union :
    (∀ front back name : Text, front.getLast? ≠ some '\r' →
      (ofDump (front ++ '\n' :: back)).get? name = ((ofDump back).get? name).or ((ofDump front).get? name)) ∧
    (∀ dump dump' name : Text, Relation.EqvGen Pads dump dump' → (ofDump dump').get? name = (ofDump dump).get? name) ∧
    (∀ (front name value : Text) (lineBreak? : Option LineBreak), Ended front →
      name ≠ [] → (∀ c ∈ [' ', '\r', '\n'], c ∉ name) → (∀ c ∈ ['\r', '\n'], c ∉ value) →
      let table := ofDump (front ++ (definingLine name value ++ LineBreak.optional lineBreak?))
      table.get? name = some (value.filter (· ≠ ' ')) ∧
        ∀ other, other ≠ name → table.get? other = (ofDump front).get? other) ∧
    ∀ dump name : Text, '\r' ∉ dump → (ofDump (Text.crlf dump)).get? name = (ofDump dump).get? name := by
  refine ⟨?_, ?_, ?_, ?_⟩
  · intro front back name unreturned
    rw [get?_ofDump, definitions_append back unreturned, List.reverse_append, List.lookup_append, get?_ofDump, get?_ofDump]
  · intro dump dump' name padded
    rw [get?_ofDump, get?_ofDump, definitions_of_padded padded]
  · intro front name value lineBreak? ended nonempty bare unbroken table
    have defined : ∀ asked, table.get? asked =
        ((name, value.filter (· ≠ ' ')) :: (definitions front).reverse).lookup asked := fun asked => by
      rw [get?_ofDump, ended.definitions_definingLine nonempty bare unbroken, List.reverse_concat]
    constructor
    · rw [defined, List.lookup_cons_self]
    · intro other apart
      rw [defined, List.lookup_cons, beq_false_of_ne apart, get?_ofDump]
  · intro dump name noReturn
    rw [get?_ofDump, get?_ofDump, definitions, dumpLines_crlf noReturn, definitions]

/-- A name that is defined twice, a line with two spaces before the name, and a value with spaces. -/
theorem ofDump_union_redefined :
    let front := lit "#define A 1\n"
    let back := lit "#define B x y\n#define A 3 4"
    let idle := lit "#define  A 5"
    front.dropLast.getLast? ≠ some '\r' ∧ Ended front ∧ Idle idle ∧ '\r' ∉ front ++ back ∧
      (ofDump (front.dropLast ++ '\n' :: back)).get? (lit "A") = some (lit "34") ∧
      (ofDump (front ++ (idle ++ (LineBreak.crlf.text ++ back)))).get? (lit "A") = some (lit "34") ∧
      (ofDump (front ++ (definingLine (lit "N") (lit "(A + 1)") ++ LineBreak.lf.text))).get? (lit "N") =
        some (lit "(A+1)") ∧
      (ofDump (front ++ (definingLine (lit "N") (lit "(A + 1)") ++ LineBreak.lf.text))).get? (lit "A") = some (lit "1") ∧
      (ofDump (Text.crlf (front ++ back))).get? (lit "B") = some (lit "xy") := by
  intro front back idle
  have unreturned : front.dropLast.getLast? ≠ some '\r' := by decide
  have ended : Ended front := by decide
  have nothing : Idle idle := by decide
  have noReturn : '\r' ∉ front ++ back := by decide
  have pads : Pads (front ++ back) (front ++ (idle ++ (LineBreak.crlf.text ++ back))) :=
    @Pads.line front idle back (some .crlf) ended (by decide) nothing (by decide) (by decide)
  obtain ⟨joined, padded, last, returned⟩ := ofDump_union
  obtain ⟨holds, others⟩ := last front (lit "N") (lit "(A + 1)") (some .lf) ended (by decide) (by decide) (by decide)
  refine ⟨unreturned, ended, nothing, noReturn, ?_, ?_, ?_, ?_, ?_⟩
  · rw [joined front.dropLast back (lit "A") unreturned]
    decide +kernel
  · rw [padded _ _ (lit "A") (.rel _ _ pads)]
    decide +kernel
  · exact holds
  · exact (others (lit "A") (by decide)).trans (by decide +kernel)
  · rw [returned _ (lit "B") noReturn]
    decide +kernel

end DialogGrid.SymbolTable
