import DialogGrid.Files
import DialogGrid.Proofs.Results
import DialogGrid.SymbolTable

/-!
# What writing a file changes

A file is written into a folder that is there (`Files.reaches_of_target`), and changes what lies at its own place
only (`Files.wrote_of_write`). So writing makes no folder and removes none (`Files.Wrote.sameFolders`), and every path
leads where it led before (`Files.find_of_target`).
-/

namespace DialogGrid

namespace Files

/-! ## Entries -/

variable {fs fs' : Files} {place other folder : Place}

/-- What is put or stands at a place of its own, without the folders that only lead on. -/
def stored? (fs : Files) (place : Place) : Option Entry := fs.entries.lookup place <|> standard.lookup place

/-- A place that leads to the working folder or to an entry. -/
def LeadsOn (fs : Files) (place : Place) : Prop :=
  place <+: fs.workingFolder ∨ ∃ item ∈ fs.entries, place <+: item.1

theorem entry?_of_stored {entry : Entry} (stored : fs.stored? place = some entry) : fs.entry? place = some entry := by
  unfold stored? at stored
  simp only [stored, entry?]

theorem entry?_of_not_stored (absent : fs.stored? place = none) (entry : Entry) :
    fs.entry? place = some entry ↔ entry = .folder ∧ fs.LeadsOn place := by
  unfold stored? at absent
  unfold entry?
  rw [absent]
  dsimp only
  by_cases leads : fs.LeadsOn place
  · rw [if_pos (by simpa [LeadsOn] using leads)]
    simp [leads, eq_comm]
  · rw [if_neg (by simpa [LeadsOn] using leads)]
    simp [leads]

private theorem standard_above : ∀ item ∈ standard, ∀ n ∈ List.range item.1.length,
    n = 0 ∨ (standard.lookup (item.1.take n)).isSome := by
  decide +kernel

private theorem leadsOn_of_folder (isFolder : fs.entry? folder = some .folder) (above : other <+: folder)
    (absent : fs.stored? other = none) : fs.LeadsOn other := by
  have absentStandard : standard.lookup other = none := by
    simp only [stored?, Option.orElse_eq_orElse, Option.orElse_eq_or, Option.or_eq_none_iff] at absent
    exact absent.2
  cases written : fs.entries.lookup folder with
  | some found =>
    obtain ⟨before, after, split, -⟩ := List.lookup_eq_some_iff.mp written
    exact .inr ⟨(folder, found), by simp [split], above⟩
  | none =>
    cases given : standard.lookup folder with
    | some found =>
      obtain ⟨before, after, split, -⟩ := List.lookup_eq_some_iff.mp given
      have apart : other.length ≠ folder.length := by
        intro same
        rw [above.eq_of_length same, given] at absentStandard
        cases absentStandard
      have shorter : other.length ∈ List.range folder.length :=
        List.mem_range.mpr (Nat.lt_of_le_of_ne above.length_le apart)
      have cut : other = folder.take other.length := List.prefix_iff_eq_take.mp above
      obtain empty | there := standard_above (folder, found) (by simp [split]) other.length shorter
      · rw [List.length_eq_zero_iff.mp empty]
        exact .inl (List.nil_prefix)
      · rw [← cut, absentStandard] at there
        cases there
    | none =>
      have absentFolder : fs.stored? folder = none := by simp [stored?, written, given]
      obtain ⟨-, leads⟩ := (entry?_of_not_stored absentFolder .folder).mp isFolder
      obtain working | ⟨item, member, leads⟩ := leads
      · exact .inl (above.trans working)
      · exact .inr ⟨item, member, above.trans leads⟩

/-! ## Putting an entry into a folder -/

@[simp] theorem entry?_put_self (fs : Files) (place : Place) (entry : Entry) :
    entry? (fs.put place entry) place = some entry := by
  simp [put, entry?]

private theorem stored?_put_of_ne (apart : other ≠ place) (entry : Entry) :
    (fs.put place entry).stored? other = fs.stored? other := by
  have unequal : (other == place) = false := by simpa using apart
  simp only [stored?, put, List.lookup_cons, unequal, lookup_filter_of_ne apart]

private theorem leadsOn_put {entry : Entry} :
    (fs.put place entry).LeadsOn other ↔ fs.LeadsOn other ∨ other <+: place := by
  constructor
  · rintro (working | ⟨item, member, leads⟩)
    · exact .inl (.inl working)
    · obtain rfl | member := List.mem_cons.mp member
      · exact .inr leads
      · exact .inl (.inr ⟨item, (List.mem_filter.mp member).1, leads⟩)
  · rintro ((working | ⟨item, member, leads⟩) | leads)
    · exact .inl working
    · by_cases same : item.1 = place
      · exact .inr ⟨(place, entry), List.mem_cons_self, same ▸ leads⟩
      · exact .inr ⟨item, List.mem_cons_of_mem _ (List.mem_filter.mpr ⟨member, by simpa using same⟩), leads⟩
    · exact .inr ⟨(place, entry), List.mem_cons_self, leads⟩

/-- What lies elsewhere stays when an entry is put into a folder. -/
theorem entry?_put_of_ne {name : Text} (isFolder : fs.entry? folder = some .folder) (apart : other ≠ folder ++ [name])
    (entry : Entry) : entry? (fs.put (folder ++ [name]) entry) other = fs.entry? other := by
  have same : (fs.put (folder ++ [name]) entry).stored? other = fs.stored? other := stored?_put_of_ne apart entry
  cases stored : fs.stored? other with
  | some found => rw [entry?_of_stored stored, entry?_of_stored (same.trans stored)]
  | none =>
    refine Option.ext fun found => ?_
    rw [entry?_of_not_stored stored, entry?_of_not_stored (same.trans stored), leadsOn_put]
    have above : other <+: folder ++ [name] → fs.LeadsOn other := by
      intro leads
      obtain equal | above := List.prefix_concat_iff.mp leads
      · exact absurd equal apart
      · exact leadsOn_of_folder isFolder above stored
    rw [or_iff_left_of_imp above]

/-! ## Following paths -/

/-- The same folders, and the same one to start from. Every path leads to the same place then. -/
structure SameFolders (fs fs' : Files) : Prop where
  workingFolder : fs'.workingFolder = fs.workingFolder
  folder : ∀ place, fs'.entry? place = some .folder ↔ fs.entry? place = some .folder

namespace SameFolders

theorem refl (fs : Files) : SameFolders fs fs := ⟨rfl, fun _ => Iff.rfl⟩

theorem symm (same : SameFolders fs fs') : SameFolders fs' fs :=
  ⟨same.workingFolder.symm, fun place => (same.folder place).symm⟩

theorem trans {fs'' : Files} (same : SameFolders fs fs') (later : SameFolders fs' fs'') : SameFolders fs fs'' :=
  ⟨later.workingFolder.trans same.workingFolder, fun place => (later.folder place).trans (same.folder place)⟩

theorem base (same : SameFolders fs fs') (path : Text) : fs'.base path = fs.base path := by
  unfold Files.base
  rw [same.workingFolder]

end SameFolders

private theorem enter_eq_ok : fs.enter place = .ok () ↔ fs.entry? place = some .folder := by
  unfold enter
  split <;> simp_all

private theorem follow_cons_eq_ok {start : Place} {name : Text} {rest : List Text} :
    fs.follow start (name :: rest) = .ok place ↔ fs.entry? start = some .folder ∧
      (if name = [] ∨ name = lit "." then fs.follow start rest
        else if name = lit ".." then fs.follow start.dropLast rest
        else if isLongName name then .error .nameTooLong
        else fs.follow (start ++ [name]) rest) = .ok place := by
  rw [← enter_eq_ok, follow, bind_eq_ok]
  exact ⟨fun ⟨_, entered, leads⟩ => ⟨entered, leads⟩, fun ⟨entered, leads⟩ => ⟨(), entered, leads⟩⟩

/-- Names lead on to the same place in files with the same folders. -/
theorem SameFolders.follow (same : SameFolders fs fs') {names : List Text} {start : Place}
    (leads : fs.follow start names = .ok place) : fs'.follow start names = .ok place := by
  induction names generalizing start with
  | nil => exact leads
  | cons name rest ih =>
    obtain ⟨isFolder, leads⟩ := follow_cons_eq_ok.mp leads
    refine follow_cons_eq_ok.mpr ⟨(same.folder start).mpr isFolder, ?_⟩
    split at leads
    · next skipped => rw [if_pos skipped]; exact ih leads
    · next kept =>
      rw [if_neg kept]
      split at leads
      · next back => rw [if_pos back]; exact ih leads
      · next on =>
        rw [if_neg on]
        split at leads
        · cases leads
        · next short => rw [if_neg short]; exact ih leads

theorem follow_append (start : Place) (names more : List Text) :
    fs.follow start (names ++ more) = (fs.follow start names) >>= fun place => fs.follow place more := by
  induction names generalizing start with
  | nil => rfl
  | cons name rest ih =>
    rw [List.cons_append, follow, follow, bind_assoc]
    refine congrArg _ (funext fun _ => ?_)
    split
    · exact ih _
    · split
      · exact ih _
      · split
        · rfl
        · exact ih _

/-! ## Where a file may be written -/

/-- A path to `name` in `folder`: a file may be written there. -/
structure Reaches (fs : Files) (path : Text) (folder : Place) (name : Text) : Prop where
  checked : checkPath path = .ok ()
  leads : ∃ names, path.splitOn '/' = names ++ [name] ∧ fs.follow (fs.base path) names = .ok folder
  isFolder : fs.entry? folder = some .folder
  plain : name ≠ [] ∧ name ≠ lit "." ∧ name ≠ lit ".." ∧ isLongName name = false
  free : fs.entry? (folder ++ [name]) ≠ some .folder

variable {path name : Text}

theorem target_of_reaches (reaches : fs.Reaches path folder name) : fs.target path = .ok (folder ++ [name]) := by
  obtain ⟨before, split, leads⟩ := reaches.leads
  obtain ⟨filled, here, up, short⟩ := reaches.plain
  have named : ((before ++ [name]).reverse.dropWhile (· == [])).reverse = before ++ [name] := by
    simp [filled]
  have entered := enter_eq_ok.mpr reaches.isFolder
  unfold target
  dsimp only
  rw [reaches.checked, split, named, List.getLast?_concat, List.dropLast_concat]
  simp only [bind, Except.bind, leads, entered, here, up, short, reaches.free, Nat.lt_irrefl, or_self, if_false,
    Bool.false_eq_true]
  rfl

private theorem concat_of_trimmed {names named : List Text} {name : Text}
    (trimmed : named = (names.reverse.dropWhile (· == [])).reverse) (last : named.getLast? = some name)
    (whole : ¬ named.length < names.length) : names = named.dropLast ++ [name] ∧ name ≠ [] := by
  have shorter : names.reverse.dropWhile (· == []) <:+ names.reverse := List.dropWhile_suffix _
  have all : names.reverse.dropWhile (· == []) = names.reverse := by
    apply shorter.eq_of_length_le
    simpa [trimmed] using whole
  have same : named = names := by rw [trimmed, all, List.reverse_reverse]
  obtain ⟨before, split⟩ := List.getLast?_eq_some_iff.mp (same ▸ last)
  have first : (names.reverse.dropWhile (· == [])).head? = some name := by
    rw [all, List.head?_reverse, ← same, last]
  have filled := List.head?_dropWhile_not (· == []) names.reverse
  rw [first] at filled
  refine ⟨?_, by simpa using filled⟩
  rw [same, split, List.dropLast_concat]

theorem reaches_of_target (target : fs.target path = .ok place) :
    ∃ folder name, fs.Reaches path folder name ∧ place = folder ++ [name] := by
  obtain ⟨_, checked, target⟩ := bind_eq_ok.mp target
  dsimp only at target
  split at target
  · cases target
  · next name last =>
    obtain ⟨folder, leads, target⟩ := bind_eq_ok.mp target
    obtain ⟨_, entered, target⟩ := bind_eq_ok.mp target
    split at target
    · cases target
    · next plain =>
      split at target
      · cases target
      · next short =>
        split at target
        · cases target
        · next free =>
          cases target
          obtain ⟨whole, here, up⟩ := (not_or.mp plain).imp_right not_or.mp
          obtain ⟨split, filled⟩ := concat_of_trimmed rfl last whole
          exact ⟨folder, name, ⟨checked, ⟨_, split, leads⟩, enter_eq_ok.mp entered,
            ⟨filled, here, up, by simpa using short⟩, free⟩, rfl⟩

theorem Reaches.sameFolders (reaches : fs.Reaches path folder name) (same : SameFolders fs fs') :
    fs'.Reaches path folder name where
  checked := reaches.checked
  leads := by
    obtain ⟨before, split, leads⟩ := reaches.leads
    refine ⟨before, split, ?_⟩
    rw [same.base]
    exact same.follow leads
  isFolder := (same.folder folder).mpr reaches.isFolder
  plain := reaches.plain
  free isFolder := reaches.free ((same.folder _).mp isFolder)

/-- A path leads to whatever lies where it lets a file be written. -/
theorem locate_of_reaches (reaches : fs.Reaches path folder name) :
    fs.locate path = match fs.entry? (folder ++ [name]) with
      | some entry => .ok (folder ++ [name], entry)
      | none => .error .notFound := by
  obtain ⟨before, split, leads⟩ := reaches.leads
  obtain ⟨filled, here, up, short⟩ := reaches.plain
  have last : fs.follow folder [name] = .ok (folder ++ [name]) := by
    refine follow_cons_eq_ok.mpr ⟨reaches.isFolder, ?_⟩
    rw [if_neg (not_or.mpr ⟨filled, here⟩), if_neg up, short]
    rfl
  unfold locate
  rw [reaches.checked, split, follow_append, leads]
  simp only [bind, Except.bind, last]
  rfl

theorem find_of_target (target : fs.target path = .ok place) (same : SameFolders fs fs') :
    fs'.find path = match fs'.entry? place with
      | some entry => .ok entry
      | none => .error .notFound := by
  obtain ⟨folder, name, reaches, rfl⟩ := reaches_of_target target
  rw [find, locate_of_reaches (reaches.sameFolders same)]
  split <;> rfl

theorem SameFolders.target (same : SameFolders fs fs') (target : fs.target path = .ok place) :
    fs'.target path = .ok place := by
  obtain ⟨folder, name, reaches, rfl⟩ := reaches_of_target target
  exact target_of_reaches (reaches.sameFolders same)

theorem free_of_target (target : fs.target path = .ok place) : fs.entry? place ≠ some .folder := by
  obtain ⟨folder, name, reaches, rfl⟩ := reaches_of_target target
  exact reaches.free

/-! ## Writing -/

/-- What lies at a place once bytes are written there: a file that holds them, or the device that took them. -/
def received (bytes : List UInt8) (there : Option Entry) : Entry :=
  match there with
  | some (.device device) => .device device
  | _ => .file bytes

/-- What a path leads to, if it leads to anything. -/
def at? (fs : Files) (path : Text) : Option Entry := (fs.find path).toOption

theorem at?_of_target (target : fs.target path = .ok place) (same : SameFolders fs fs') :
    fs'.at? path = fs'.entry? place := by
  rw [at?, find_of_target target same]
  cases fs'.entry? place with
  | none => rfl
  | some entry => rfl

/-- Writing changes what lies at one place, and nothing anywhere else. -/
structure Wrote (fs : Files) (place : Place) (bytes : List UInt8) (fs' : Files) : Prop where
  workingFolder : fs'.workingFolder = fs.workingFolder
  here : fs'.entry? place = some (received bytes <| fs.entry? place)
  elsewhere : ∀ other ≠ place, fs'.entry? other = fs.entry? other

private theorem wrote_put (isFolder : fs.entry? folder = some .folder) {bytes : List UInt8}
    (isFile : (received bytes <| fs.entry? (folder ++ [name])) = .file bytes) :
    fs.Wrote (folder ++ [name]) bytes (fs.put (folder ++ [name]) (.file bytes)) where
  workingFolder := rfl
  here := by rw [entry?_put_self, isFile]
  elsewhere _ apart := entry?_put_of_ne isFolder apart _

private theorem wrote_device {device : Device} (isDevice : fs.entry? place = some (.device device))
    (bytes : List UInt8) : fs.Wrote place bytes fs where
  workingFolder := rfl
  here := by rw [isDevice, received]
  elsewhere _ _ := rfl

theorem wrote_of_write {bytes : List UInt8} (wrote : fs.write path bytes = .ok fs') :
    ∃ place, fs.target path = .ok place ∧ fs.Wrote place bytes fs' := by
  obtain ⟨place, target, wrote⟩ := bind_eq_ok.mp wrote
  refine ⟨place, target, ?_⟩
  obtain ⟨folder, name, reaches, rfl⟩ := reaches_of_target target
  unfold writeAt at wrote
  split at wrote
  · next full =>
    split at wrote
    · cases wrote
      exact wrote_device full bytes
    · cases wrote
  · next device _ there =>
    cases wrote
    exact wrote_device there bytes
  · next noDevice =>
    cases wrote
    refine wrote_put reaches.isFolder ?_
    unfold received
    split
    · next device there => exact absurd there (noDevice device)
    · rfl

theorem received_received (bytes bytes' : List UInt8) (there : Option Entry) :
    received bytes' (some (received bytes there)) = received bytes' there := by
  cases there with
  | none => rfl
  | some entry => cases entry <;> rfl

private theorem received_ne_folder (bytes : List UInt8) (there : Option Entry) : received bytes there ≠ .folder := by
  unfold received
  split <;> simp

theorem Wrote.sameFolders {bytes : List UInt8} (wrote : fs.Wrote place bytes fs')
    (free : fs.entry? place ≠ some .folder) : SameFolders fs fs' where
  workingFolder := wrote.workingFolder
  folder other := by
    by_cases same : other = place
    · subst same
      rw [wrote.here]
      simp [received_ne_folder, free]
    · rw [wrote.elsewhere other same]

end Files

end DialogGrid
