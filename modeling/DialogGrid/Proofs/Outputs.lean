import DialogGrid.Proofs.Writing
import DialogGrid.Session.Basic
import DialogGrid.SettingsFile
import Mathlib.Control.Monad.Basic

/-!
# What a run leaves

On any host, a run that succeeds writes the outputs that are asked for and nothing else (`Host.run_writes`): the
interface of the dialog that the command line and the configuration name, and the manifest of the script. A run that
fails for another reason than a file leaves the files as they were, with one exception: the interface is written before
the manifest is made, so it stays if there is no manifest (`Host.run_fails`).
-/

namespace DialogGrid

/-! ## The dialog that is found -/

private theorem Dialog.id_of_parse {source id : Text} {index : Nat} {d : Dialog}
    (read : Dialog.parse source index (some id) = .ok d) : d.id = id := by
  unfold parse at read
  dsimp only at read
  split at read
  · cases read
  · next line found declared =>
    have wanted : id = found := by
      have member := List.mem_of_getLast? declared
      simpa using (List.mem_filter.mp member).2
    split at read
    · cases read
    · split at read
      · cases read
      · cases read
        exact wanted.symm

/-- The dialog that is converted is the one that the configuration names. -/
theorem Converter.id_of_findDialog {c : Converter} {source id : Text} {d : Dialog}
    (named : c.config.dialog.id? = some id) (found : c.findDialog source = .ok d) : d.id = id := by
  unfold findDialog at found
  dsimp only at found
  rw [named] at found
  cases anchored : c.config.dialog.anchor? with
  | none =>
    rw [anchored] at found
    exact Dialog.id_of_parse (mapError_eq_ok.mp found)
  | some anchor =>
    rw [anchored] at found
    obtain ⟨index, -, read⟩ := bind_eq_ok.mp (mapError_eq_ok.mp found)
    exact Dialog.id_of_parse read

namespace Host

open Session (writeText)

variable {host : Host} {fs found written after : Files} {settingsFolder? : Option Text} {args : Arguments}

/-- A host on which no program is found. -/
def bare : Host where
  start _ _ _ := .error .notFound
  settings? := SettingsFile.read?

/-! ## What is converted, and with what -/

/-- The symbols of a define dump, if one is given. -/
def SymbolsOf (fs : Files) (defines? : Option Text) (symbols : SymbolTable) : Prop :=
  match defines? with
  | none => symbols = {}
  | some path => ∃ dump, fs.readText path = .ok dump ∧ symbols = .ofDump dump

/-- What a run works with that reads its symbols from no header: the configuration that is loaded, with the dialog
of the command line, the symbols of the define dump, and the script. -/
structure Inputs (host : Host) (fs : Files) (settingsFolder? : Option Text) (args : Arguments) (loaded : Configuration)
    (c : Converter) (source : Text) : Prop where
  configuration : host.findConfiguration fs settingsFolder? args.config? = .ok loaded
  id : c.config.dialog.id? = some ((args.dialogId? <|> loaded.dialog.id?).getD (lit "IDD_DIALOG"))
  anchor : c.config.dialog.anchor? = (args.anchor? <|> loaded.dialog.anchor?)
  windowId : c.config.dialog.windowId = loaded.dialog.windowId
  ratios : c.config.ratios = loaded.ratios
  symbolSettings : c.config.symbols = loaded.symbols
  assets : c.config.assets = loaded.assets
  rules : c.rules = standardRules loaded.ratios
  symbols : SymbolsOf fs args.defines? c.symbols
  source : fs.readText args.input = .ok source

/-- Without a header, no program runs that could change the files. -/
theorem findSymbols_spec (host : Host) (fs : Files) (noHeader : args.header? = none) (settings : SymbolSettings) :
    (host.findSymbols fs args settings).2 = fs ∧
      ∀ symbols, (host.findSymbols fs args settings).1 = .ok symbols → SymbolsOf fs args.defines? symbols := by
  unfold findSymbols SymbolsOf
  rw [noHeader]
  cases args.defines? with
  | none =>
    refine ⟨rfl, ?_⟩
    intro symbols read
    cases read
    rfl
  | some path =>
    refine ⟨rfl, ?_⟩
    intro symbols read
    obtain ⟨dump, dumped, rfl⟩ := map_eq_ok.mp read
    exact ⟨dump, mapError_eq_ok.mp dumped, rfl⟩

theorem prepare_spec (host : Host) (fs : Files) (settingsFolder? : Option Text) (noHeader : args.header? = none) :
    (host.prepare fs settingsFolder? args).2 = fs ∧
      ∀ c source, (host.prepare fs settingsFolder? args).1 = .ok (c, source) →
        ∃ loaded, host.Inputs fs settingsFolder? args loaded c source := by
  unfold prepare
  cases configured : host.findConfiguration fs settingsFolder? args.config? with
  | error f => exact ⟨rfl, fun _ _ read => nomatch read⟩
  | ok loaded =>
    dsimp only
    obtain ⟨same, symbolsOf⟩ := host.findSymbols_spec fs noHeader loaded.symbols
    cases read : host.findSymbols fs args loaded.symbols with
    | mk result files =>
      rw [read] at same symbolsOf
      obtain rfl : files = fs := same
      cases result with
      | error f => exact ⟨rfl, fun _ _ read => nomatch read⟩
      | ok symbols =>
        refine ⟨rfl, ?_⟩
        intro c source read
        obtain ⟨text, script, made⟩ := map_eq_ok.mp read
        cases made
        exact ⟨loaded, configured, rfl, rfl, rfl, rfl, rfl, rfl, rfl, symbolsOf symbols rfl, mapError_eq_ok.mp script⟩

/-! ## Outputs -/

/-- A text is written where one is asked for, and nothing else changes. -/
structure Output (before : Files) (path? : Option Text) (text : Except Failure Text) (after : Files) : Prop where
  sameFolders : before.SameFolders after
  made : ∀ path ∈ path?, ∃ t place, text = .ok t ∧ before.target path = .ok place ∧
    after.entry? place = some (Files.received (Utf8.encode t) <| before.entry? place)
  elsewhere : ∀ place, (∀ path ∈ path?, before.target path ≠ .ok place) → after.entry? place = before.entry? place

private theorem writeText_eq_ok {path? : Option Text} {text : Except Failure Text}
    (wrote : writeText fs path? text = .ok after) :
    (path? = none ∧ after = fs) ∨
      ∃ path t, path? = some path ∧ text = .ok t ∧ fs.write path (Utf8.encode t) = .ok after := by
  cases path? with
  | none =>
    cases wrote
    exact .inl ⟨rfl, rfl⟩
  | some path =>
    obtain ⟨t, made, wrote⟩ := bind_eq_ok.mp wrote
    exact .inr ⟨path, t, rfl, made, mapError_eq_ok.mp wrote⟩

theorem output_of_writeText {path? : Option Text} {text : Except Failure Text}
    (wrote : writeText fs path? text = .ok after) : Output fs path? text after := by
  obtain ⟨rfl, rfl⟩ | ⟨path, t, rfl, made, wrote⟩ := writeText_eq_ok wrote
  · exact ⟨.refl _, (fun _ asked => nomatch asked), fun _ _ => rfl⟩
  · obtain ⟨place, target, wrote⟩ := Files.wrote_of_write wrote
    refine ⟨wrote.sameFolders (Files.free_of_target target), ?_, ?_⟩
    · intro asked equal
      obtain rfl := Option.some.inj equal
      exact ⟨t, place, made, target, wrote.here⟩
    · intro other apart
      refine wrote.elsewhere other ?_
      rintro rfl
      exact apart path rfl target

/-- An output makes no device and removes none, so what can be written to a place stays the same. -/
private theorem Output.received_eq {path? : Option Text} {text : Except Failure Text}
    (output : Output fs path? text after) (place : Place) (bytes : List UInt8) :
    (Files.received bytes <| after.entry? place) = (Files.received bytes <| fs.entry? place) := by
  by_cases here : ∃ path ∈ path?, fs.target path = .ok place
  · obtain ⟨path, asked, target⟩ := here
    obtain ⟨t, place', -, target', made⟩ := output.made path asked
    obtain rfl : place' = place := Except.ok.inj (target'.symm.trans target)
    rw [made, Files.received_received]
  · rw [output.elsewhere place fun path asked target => here ⟨path, asked, target⟩]

/-- Two outputs, one after the other: the first one stays unless the second one is put in its place. -/
theorem Output.both {path? path'? : Option Text} {text text' : Except Failure Text}
    (first : Output fs path? text written) (second : Output written path'? text' after) :
    (∀ path ∈ path?, ∃ t, text = .ok t ∧ ((∀ other ∈ path'?, fs.target other ≠ fs.target path) →
      after.at? path = some (Files.received (Utf8.encode t) (fs.at? path)))) ∧
    (∀ path ∈ path'?, ∃ t, text' = .ok t ∧
      after.at? path = some (Files.received (Utf8.encode t) (fs.at? path))) ∧
    ∀ place, (∀ path ∈ path?, fs.target path ≠ .ok place) → (∀ path ∈ path'?, fs.target path ≠ .ok place) →
      after.entry? place = fs.entry? place := by
  have same : fs.SameFolders after := first.sameFolders.trans second.sameFolders
  have unmoved : ∀ {path place}, written.target path = .ok place → fs.target path = .ok place :=
    fun target => first.sameFolders.symm.target target
  refine ⟨?_, ?_, ?_⟩
  · intro path asked
    obtain ⟨t, place, made, target, here⟩ := first.made path asked
    refine ⟨t, made, ?_⟩
    intro apart
    have later : after.entry? place = written.entry? place := by
      refine second.elsewhere place ?_
      intro other alsoAsked targetOther
      exact apart other alsoAsked ((unmoved targetOther).trans target.symm)
    rw [Files.at?_of_target target same, later, here, Files.at?_of_target target (.refl fs)]
  · intro path asked
    obtain ⟨t, place, made, target, here⟩ := second.made path asked
    refine ⟨t, made, ?_⟩
    rw [Files.at?_of_target (unmoved target) same, here, first.received_eq, Files.at?_of_target (unmoved target) (.refl fs)]
  · intro place apart apart'
    rw [second.elsewhere place fun path asked target => apart' path asked (unmoved target), first.elsewhere place apart]

/-! ## How a run ends -/

/-- How a run can end, and the files that it leaves then. -/
inductive Ends (host : Host) (fs : Files) (settingsFolder? : Option Text) (args : Arguments) : Session.Outcome → Prop where
  | unprepared {f : Failure} {found : Files} (prepared : host.prepare fs settingsFolder? args = (.error f, found)) :
    Ends host fs settingsFolder? args ⟨.error f, found⟩
  | noInterface {c : Converter} {source : Text} {f : Failure} {found : Files}
    (prepared : host.prepare fs settingsFolder? args = (.ok (c, source), found))
    (interface : writeText found args.interfacePath? ((c.convert source).map (·.document)) = .error f) :
    Ends host fs settingsFolder? args ⟨.error f, found⟩
  | noManifest {c : Converter} {source : Text} {f : Failure} {found written : Files}
    (prepared : host.prepare fs settingsFolder? args = (.ok (c, source), found))
    (interface : writeText found args.interfacePath? ((c.convert source).map (·.document)) = .ok written)
    (manifest : writeText written args.resourcesOutput? (c.manifestOf source) = .error f) :
    Ends host fs settingsFolder? args ⟨.error f, written⟩
  | done {c : Converter} {source : Text} {found written all : Files}
    (prepared : host.prepare fs settingsFolder? args = (.ok (c, source), found))
    (interface : writeText found args.interfacePath? ((c.convert source).map (·.document)) = .ok written)
    (manifest : writeText written args.resourcesOutput? (c.manifestOf source) = .ok all) :
    Ends host fs settingsFolder? args ⟨.ok (), all⟩

theorem run_ends (host : Host) (fs : Files) (settingsFolder? : Option Text) (args : Arguments) :
    host.Ends fs settingsFolder? args (host.run fs settingsFolder? args) := by
  unfold run
  split
  · next prepared => exact .unprepared prepared
  · next prepared =>
    split
    · next interface => exact .noInterface prepared interface
    · next interface =>
      split
      · next manifest => exact .noManifest prepared interface manifest
      · next manifest => exact .done prepared interface manifest

/-! ## Runs that succeed -/

/-- What a run writes that reads its symbols from no header and succeeds. The interface file holds the document of
the dialog that is named, if the manifest goes to another place than it; the manifest file holds the manifest; and
what lies anywhere else is as it was. -/
theorem run_writes (noHeader : args.header? = none) (done : (host.run fs settingsFolder? args).result = .ok ()) :
    let after := (host.run fs settingsFolder? args).files
    args.interfacePath? = (args.uiOutput? <|> if args.resourcesOutput? = none then some (lit "window.ui") else none) ∧
    ∃ loaded c source, host.Inputs fs settingsFolder? args loaded c source ∧
      (∀ path ∈ args.interfacePath?, ∃ dialog conversion,
        c.findDialog source = .ok dialog ∧ c.config.dialog.id? = some dialog.id ∧
        c.convert source = .ok conversion ∧
        ((∀ other ∈ args.resourcesOutput?, fs.target other ≠ fs.target path) →
          after.at? path = some (Files.received (Utf8.encode conversion.document) (fs.at? path)))) ∧
      (∀ path ∈ args.resourcesOutput?, ∃ manifest, c.manifestOf source = .ok manifest ∧
        after.at? path = some (Files.received (Utf8.encode manifest) (fs.at? path))) ∧
      ∀ place, (∀ path ∈ args.interfacePath?, fs.target path ≠ .ok place) →
        (∀ path ∈ args.resourcesOutput?, fs.target path ≠ .ok place) → after.entry? place = fs.entry? place := by
  have ends := host.run_ends fs settingsFolder? args
  generalize host.run fs settingsFolder? args = outcome at done ends ⊢
  obtain _ | _ | _ | ⟨prepared, interface, manifest⟩ := ends
  · cases done
  · cases done
  · cases done
  next c source found written after =>
  obtain ⟨unchanged, inputs⟩ := host.prepare_spec fs settingsFolder? noHeader
  rw [prepared] at unchanged inputs
  obtain rfl : fs = found := unchanged.symm
  obtain ⟨loaded, inputs⟩ := inputs c source rfl
  obtain ⟨interface, manifest, elsewhere⟩ := (output_of_writeText interface).both (output_of_writeText manifest)
  refine ⟨?_, loaded, c, source, inputs, ?_, manifest, elsewhere⟩
  · unfold Arguments.interfacePath?
    cases args.uiOutput? <;> cases args.resourcesOutput? <;> rfl
  · intro path asked
    obtain ⟨document, made, left⟩ := interface path asked
    obtain ⟨conversion, converted, rfl⟩ := map_eq_ok.mp made
    obtain ⟨dialog, searched, -⟩ := bind_eq_ok.mp converted
    have named : c.config.dialog.id? = some dialog.id := by
      rw [Converter.id_of_findDialog inputs.id searched]
      exact inputs.id
    exact ⟨dialog, conversion, searched, named, converted, left⟩

/-- A run that succeeds and writes both outputs, with symbols from a define dump. -/
theorem run_writes_both :
    let fs : Files := {
      workingFolder := [lit "w"]
      entries := [
        ([lit "w", lit "d.rc"], .file (Utf8.encode
          (lit "A DIALOG\nBEGIN\nLTEXT \"Ä\", IDC_A, 8, 6, 22, 8\nEND\nI RCDATA \"../res/i\"\n"))),
        ([lit "w", lit "s"], .file (Utf8.encode (lit "#define IDC_A 1\n")))] }
    let args : Arguments := {
      input := lit "d.rc", defines? := some (lit "s"), uiOutput? := some (lit "a.ui"),
      resourcesOutput? := some (lit "./b.xml"), dialogId? := some (lit "A") }
    let outcome := bare.run fs none args
    args.header? = none ∧ outcome.result = .ok () ∧ fs.target (lit "./b.xml") ≠ fs.target (lit "a.ui") ∧
      ∃ (loaded : Configuration) (c : Converter) (source : Text) (conversion : Conversion) (manifest : Text),
        bare.Inputs fs none args loaded c source ∧ c.convert source = .ok conversion ∧ c.manifestOf source = .ok manifest ∧
        outcome.files.at? (lit "a.ui") = some (.file (Utf8.encode conversion.document)) ∧
        outcome.files.at? (lit "./b.xml") = some (.file (Utf8.encode manifest)) ∧
        outcome.files.entry? [lit "w", lit "d.rc"] = fs.entry? [lit "w", lit "d.rc"] := by
  intro fs args outcome
  have done : outcome.result = .ok () := by decide +kernel
  have first : fs.target (lit "a.ui") = .ok [lit "w", lit "a.ui"] := by decide +kernel
  have second : fs.target (lit "./b.xml") = .ok [lit "w", lit "b.xml"] := by decide +kernel
  have apart : fs.target (lit "./b.xml") ≠ fs.target (lit "a.ui") := by
    rw [first, second]
    decide
  have new : fs.at? (lit "a.ui") = none ∧ fs.at? (lit "./b.xml") = none := by decide +kernel
  obtain ⟨-, loaded, c, source, inputs, interface, manifest, elsewhere⟩ := run_writes rfl done
  obtain ⟨_, conversion, -, -, converted, written⟩ := interface _ rfl
  obtain ⟨m, made, listed⟩ := manifest _ rfl
  have document := written (by rintro _ ⟨⟩; exact apart)
  rw [new.1] at document
  rw [new.2] at listed
  refine ⟨rfl, done, apart, loaded, c, source, conversion, m, inputs, converted, made, document, listed, ?_⟩
  refine elsewhere _ ?_ ?_
  · rintro _ ⟨⟩
    rw [first]
    decide
  · rintro _ ⟨⟩
    rw [second]
    decide

/-! ## Runs that fail -/

private theorem writeText_eq_error {path? : Option Text} {text : Except Failure Text} {f : Failure}
    (failed : writeText fs path? text = .error f) :
    path?.isSome ∧ (text = .error f ∨ ∃ message, f = .files message) := by
  cases path? with
  | none => cases failed
  | some path =>
    refine ⟨rfl, ?_⟩
    cases text with
    | error f' =>
      cases failed
      exact .inl rfl
    | ok t =>
      have refused : (fs.write path (Utf8.encode t)).mapError Failure.ofFileError = .error f := failed
      cases wrote : fs.write path (Utf8.encode t) with
      | ok files => rw [wrote] at refused; cases refused
      | error e =>
        rw [wrote] at refused
        cases refused
        exact .inr ⟨e.message, rfl⟩

/-- A run that fails for another reason than a file leaves the files as they were when the symbols were found, and
without a header that is as they were at all. Only an interface that was made stays where no manifest could be made. -/
theorem run_fails {f : Failure} (failed : (host.run fs settingsFolder? args).result = .error f)
    (noFile : ∀ message, f ≠ .files message) :
    let before := (host.prepare fs settingsFolder? args).2
    let after := (host.run fs settingsFolder? args).files
    (args.header? = none → before = fs) ∧
      (after = before ∨
        ∃ c source path conversion, (host.prepare fs settingsFolder? args).1 = .ok (c, source) ∧
          args.interfacePath? = some path ∧ args.resourcesOutput?.isSome ∧
          c.convert source = .ok conversion ∧ c.manifestOf source = .error f ∧
          before.write path (Utf8.encode conversion.document) = .ok after) := by
  intro before after
  refine ⟨fun noHeader => (host.prepare_spec fs settingsFolder? noHeader).1, ?_⟩
  have ends := host.run_ends fs settingsFolder? args
  unfold before after
  generalize host.run fs settingsFolder? args = outcome at failed ends ⊢
  cases ends with
  | unprepared prepared => exact .inl (by rw [prepared])
  | noInterface prepared _ => exact .inl (by rw [prepared])
  | done => cases failed
  | noManifest prepared interface manifest =>
    cases failed
    rw [prepared]
    obtain ⟨asked, made | ⟨message, file⟩⟩ := writeText_eq_error manifest
    · obtain ⟨-, rfl⟩ | ⟨path, document, path?, made', wrote⟩ := writeText_eq_ok interface
      · exact .inl rfl
      · obtain ⟨conversion, converted, rfl⟩ := map_eq_ok.mp made'
        exact .inr ⟨_, _, path, conversion, rfl, path?, asked, converted, made, wrote⟩
    · exact absurd file (noFile message)

/-- A script with an asset in the wrong folder: the interface is left although the run fails. -/
theorem run_fails_outside :
    let source := lit "IDD_DIALOG DIALOGEX 0, 0, 10, 10\nBEGIN\nEND\nIDR_A RCDATA \"elsewhere/a\"\n"
    let fs : Files := {
      workingFolder := [lit "w"]
      entries := [([lit "w", lit "d.rc"], .file (Utf8.encode source))] }
    let args : Arguments := {
      input := lit "d.rc", uiOutput? := some (lit "w.ui"), resourcesOutput? := some (lit "g.xml") }
    let f : Failure := .script [{
      severity := .error
      code := some .assetOutside
      message := lit "resource `IDR_A` is outside `../res/`"
      labels := [⟨.ofBounds 43 69, lit "unexpected location", true⟩]
      help := some (lit "move the file below `../res/` or change `assets.source_prefix`") }] source
    let outcome := bare.run fs none args
    outcome.result = .error f ∧ (∀ message, f ≠ .files message) ∧ outcome.files ≠ fs ∧
      ∃ (c : Converter) (conversion : Conversion), c.convert source = .ok conversion ∧
        c.manifestOf source = .error f ∧
        fs.write (lit "w.ui") (Utf8.encode conversion.document) = .ok outcome.files := by
  intro source fs args f outcome
  have failed : outcome.result = .error f := by decide +kernel
  have noFile : ∀ message, f ≠ .files message := fun _ same => nomatch same
  have changed : outcome.files ≠ fs := by decide +kernel
  refine ⟨failed, noFile, changed, ?_⟩
  obtain ⟨same, kept | ⟨c, script, path, conversion, prepared, interface, -, converted, unlisted, wrote⟩⟩ :=
    run_fails failed noFile
  · exact absurd (kept.trans (same rfl)) changed
  · rw [same rfl] at wrote
    cases interface
    obtain ⟨-, inputs⟩ := bare.prepare_spec fs none (rfl : args.header? = none)
    obtain ⟨_, inputs⟩ := inputs c script prepared
    have read : fs.readText args.input = .ok source := by decide +kernel
    obtain rfl : script = source := Except.ok.inj (inputs.source.symm.trans read)
    exact ⟨c, conversion, converted, unlisted, wrote⟩

end Host

end DialogGrid
