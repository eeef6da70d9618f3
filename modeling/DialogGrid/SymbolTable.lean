import DialogGrid.Text

/-!
# Symbol tables

The values of control identifiers. A define dump gives one line `#define NAME VALUE` per
symbol; of two lines for one name the later one counts.
-/

namespace DialogGrid

theorem lookup_filter_of_ne {α β : Type} [BEq α] [LawfulBEq α] {key wanted : α} (apart : wanted ≠ key)
    (l : List (α × β)) : (l.filter (·.1 != key)).lookup wanted = l.lookup wanted := by
  induction l with
  | nil => rfl
  | cons entry rest ih =>
    obtain ⟨k, b⟩ := entry
    by_cases same : k = key
    · subst same
      have unequal : (wanted == k) = false := by simpa using apart
      simpa [List.lookup_cons, unequal] using ih
    · simp [List.lookup_cons, same, ih]

/-- Names with their values; a name occurs at most once. -/
structure SymbolTable where
  entries : List (Text × Text) := []
  deriving DecidableEq, Repr

namespace SymbolTable

def get? (s : SymbolTable) (name : Text) : Option Text := s.entries.lookup name

def contains (s : SymbolTable) (name : Text) : Bool := (s.get? name).isSome

def size (s : SymbolTable) : Nat := s.entries.length

def isEmpty (s : SymbolTable) : Bool := s.entries.isEmpty

/-- Sets the value of a name. -/
def insert (s : SymbolTable) (name value : Text) : SymbolTable :=
  ⟨(name, value) :: s.entries.filter (·.1 != name)⟩

/-- The table of pairs, of which the last one for a name counts. -/
def ofPairs (pairs : List (Text × Text)) : SymbolTable :=
  pairs.foldl (fun s (name, value) => s.insert name value) {}

@[simp] theorem get?_insert_self (s : SymbolTable) (name value : Text) :
    (s.insert name value).get? name = some value := by
  simp [get?, insert]

theorem get?_insert_of_ne (s : SymbolTable) {name other : Text} (value : Text) (h : other ≠ name) :
    (s.insert name value).get? other = s.get? other := by
  have apart : (other == name) = false := by simpa using h
  simp only [get?, insert, List.lookup_cons, apart, lookup_filter_of_ne h]

/-! ## Define dumps -/

/-- The lines of a dump without their line ends, which are a line feed and at most one carriage
return before it. A last line without a line feed keeps its carriage return. -/
def dumpLines (dump : Text) : List Text :=
  let pieces := dump.splitOn '\n'
  pieces.dropLast.map dropReturn ++ pieces.getLast?.toList
where
  /-- The text without a carriage return at its end. -/
  dropReturn (t : Text) : Text := if t.getLast? = some '\r' then t.dropLast else t

/-- The name and the value that a line defines. Fields are separated by single spaces; the
value is what follows the name, without spaces. -/
def definition? (line : Text) : Option (Text × Text) :=
  if (lit "#define").isPrefixOf line then
    match line.splitOn ' ' with
    | _ :: name :: value => if name = [] then none else some (name, value.flatten)
    | _ => none
  else none

/-- The table that a define dump gives. -/
def ofDump (dump : Text) : SymbolTable := .ofPairs ((dumpLines dump).filterMap definition?)

end SymbolTable

end DialogGrid
