import DialogGrid.Dialog
import Mathlib.Data.List.Induction

/-!
# The properties of a dialog

Letter case aside, a property that is set again keeps its place and its spelling, and takes the later value
(`Header.names_insert`, `Header.get?_insert`). So a header that is made of directives has the names that come first and
the values that come last (`Header.collects_ofDirectives`).
-/

namespace DialogGrid

theorem Text.sameLetters_iff {a b : Text} : a.sameLetters b = true ↔ a.upper = b.upper := beq_iff_eq

theorem Text.sameLetters_congr {a b : Text} (same : a.sameLetters b = true) (c : Text) :
    a.sameLetters c = b.sameLetters c := by
  rw [sameLetters, sameLetters_iff.mp same, sameLetters]

/-! ## Setting one property -/

namespace Header

/-- The names in order. -/
def names (h : Header) : List Text := h.map (·.1)

@[simp] theorem names_cons (key : Text) (args : List Text) (rest : Header) :
    names ((key, args) :: rest) = key :: rest.names := rfl

/-- No two names are the same but for letter case. -/
def Distinct (h : Header) : Prop := h.names.Pairwise fun a b => a.sameLetters b = false

theorem get?_cons (key : Text) (args : List Text) (rest : Header) (name : Text) :
    get? ((key, args) :: rest) name = if key.sameLetters name then some args else rest.get? name := by
  by_cases here : key.sameLetters name
  · simp [get?, here]
  · simp [get?, here]

theorem isSome_get? (h : Header) (name : Text) : (h.get? name).isSome = h.names.any (·.sameLetters name) := by
  induction h with
  | nil => rfl
  | cons property rest ih =>
    obtain ⟨key, args⟩ := property
    rw [get?_cons, names_cons, List.any_cons, ← ih]
    by_cases here : key.sameLetters name
    · simp [here]
    · simp [here]

/-- A property that was set has its value, whatever letter case it is looked up in, and the others keep theirs. -/
theorem get?_insert (h : Header) (name : Text) (args : List Text) (other : Text) :
    (h.insert name args).get? other = if name.sameLetters other then some args else h.get? other := by
  induction h with
  | nil => rw [insert, get?_cons]
  | cons property rest ih =>
    obtain ⟨key, old⟩ := property
    rw [insert]
    by_cases same : key.sameLetters name
    · rw [if_pos same, get?_cons, get?_cons, Text.sameLetters_congr same other]
      by_cases here : name.sameLetters other
      · rw [if_pos here, if_pos here]
      · rw [if_neg here, if_neg here, if_neg here]
    · rw [if_neg same, get?_cons, get?_cons, ih]
      by_cases here : key.sameLetters other
      · have apart : ¬ name.sameLetters other := by
          intro there
          rw [Text.sameLetters_iff] at same here there
          exact same (here.trans there.symm)
        rw [if_pos here, if_neg apart, if_pos here]
      · rw [if_neg here, if_neg here]

/-- A name that is there keeps its place and its spelling, and a new one goes behind the others. -/
theorem names_insert (h : Header) (name : Text) (args : List Text) :
    (h.insert name args).names = h.names ++ if h.names.any (·.sameLetters name) then [] else [name] := by
  induction h with
  | nil => rfl
  | cons property rest ih =>
    obtain ⟨key, old⟩ := property
    rw [insert]
    by_cases same : key.sameLetters name
    · simp [same]
    · rw [if_neg same, names_cons, ih]
      simp [same]

theorem Distinct.insert {h : Header} (distinct : h.Distinct) (name : Text) (args : List Text) :
    (h.insert name args).Distinct := by
  rw [Distinct, names_insert]
  by_cases there : h.names.any (·.sameLetters name)
  · rw [if_pos there, List.append_nil]
    exact distinct
  · rw [if_neg there, List.pairwise_append]
    refine ⟨distinct, List.pairwise_singleton _ _, fun key member new isNew => ?_⟩
    obtain rfl := List.mem_singleton.mp isNew
    have apart := List.any_eq_false.mp (Bool.eq_false_iff.mpr there) key member
    exact Bool.eq_false_iff.mpr apart

end Header

/-! ## Directives that set properties -/

namespace Directive

/-- The directives that have another name than all before them, letter case aside. -/
def firsts (ds : List Directive) : List Directive :=
  (ds.zipIdx.filter fun (d, i) => (ds.take i).all fun earlier => !earlier.isNamed d.name).map (·.1)

/-- The last directive of a name, letter case aside. -/
def last? (ds : List Directive) (name : Text) : Option Directive := (ds.filter (·.isNamed name)).getLast?

private theorem firsts_concat (ds : List Directive) (d : Directive) :
    firsts (ds ++ [d]) = firsts ds ++ if ds.any (·.isNamed d.name) then [] else [d] := by
  have earlier : ds.zipIdx.filter (fun (x, i) => ((ds ++ [d]).take i).all fun earlier => !earlier.isNamed x.name) =
      ds.zipIdx.filter fun (x, i) => (ds.take i).all fun earlier => !earlier.isNamed x.name := by
    refine List.filter_congr fun (x, i) member => ?_
    have inside : i < ds.length := List.snd_lt_of_mem_zipIdx member
    dsimp only
    rw [List.take_append_of_le_length (Nat.le_of_lt inside)]
  rw [firsts, List.zipIdx_append, List.filter_append, List.map_append, earlier, ← firsts]
  congr 1
  by_cases there : ds.any (·.isNamed d.name)
  · have shadowed : ¬ ds.all fun earlier => !earlier.isNamed d.name := by simpa using there
    simp [there, shadowed]
  · have first : ds.all fun earlier => !earlier.isNamed d.name := by simpa using there
    simp [there, first]

private theorem last?_concat (ds : List Directive) (d : Directive) (name : Text) :
    last? (ds ++ [d]) name = if d.isNamed name then some d else last? ds name := by
  by_cases here : d.isNamed name
  · simp [last?, here]
  · simp [last?, here]

private theorem isSome_last? (ds : List Directive) (name : Text) :
    (last? ds name).isSome = ds.any (·.isNamed name) := by
  rw [Bool.eq_iff_iff, last?, List.getLast?_isSome]
  simp

end Directive

namespace Header

/-- What a header keeps of the directives that set its properties: each name once, in the order and the spelling in
which they come first, and under each the arguments that come last. -/
structure Collects (h : Header) (ds : List Directive) : Prop where
  distinct : h.Distinct
  names : h.names = (Directive.firsts ds).map (·.name)
  get? : ∀ name, h.get? name = (Directive.last? ds name).map (·.args)

theorem Collects.nil : Collects [] [] where
  distinct := List.Pairwise.nil
  names := rfl
  get? := fun _ => rfl

theorem Collects.insert {h : Header} {ds : List Directive} (collects : h.Collects ds) (d : Directive) :
    (h.insert d.name d.args).Collects (ds ++ [d]) where
  distinct := collects.distinct.insert d.name d.args
  names := by
    -- Whether the name is new is the same question for the header and for the directives.
    have there : h.names.any (·.sameLetters d.name) = ds.any (·.isNamed d.name) := by
      rw [← isSome_get?, collects.get?, Option.isSome_map, Directive.isSome_last?]
    rw [names_insert, there, Directive.firsts_concat, List.map_append, collects.names]
    by_cases old : ds.any (·.isNamed d.name)
    · rw [if_pos old, if_pos old, List.map_nil]
    · rw [if_neg old, if_neg old, List.map_singleton]
  get? := by
    intro name
    rw [get?_insert, Directive.last?_concat, collects.get?]
    by_cases here : d.name.sameLetters name
    · rw [if_pos here, Directive.isNamed, if_pos here, Option.map_some]
    · rw [if_neg here, Directive.isNamed, if_neg here]

private theorem collects_foldl (ds : List Directive) :
    Collects (ds.foldl (fun h d => h.insert d.name d.args) []) ds := by
  induction ds using List.reverseRecOn with
  | nil => exact .nil
  | append_singleton ds d ih =>
    rw [List.foldl_append]
    exact ih.insert d

/-- The properties that directives set are told by those of them that have arguments. -/
theorem collects_ofDirectives (ds : List Directive) : (ofDirectives ds).Collects (ds.filter (·.args ≠ [])) :=
  collects_foldl _

end Header

end DialogGrid
