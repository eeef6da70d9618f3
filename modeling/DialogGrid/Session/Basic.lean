import DialogGrid.Arguments
import DialogGrid.Converter
import DialogGrid.Host

/-!
# Runs of the command line

One run of the command line on a host, as a function of the files that it finds: it loads the
configuration and the symbols, reads the script, and writes the interface and then the manifest
where they are asked for. Its outcome is success or a failure, and the files as they then are.
-/

namespace DialogGrid

namespace Failure

def ofFileError (e : FileError) : Failure := .files e.message

end Failure

/-! ## Configuration -/

namespace Session

/-- The settings file of a project. -/
def localPath : Text := lit "rcgtk/config.toml"

/-- The settings file of a user, in the folder for settings. -/
def userPath (settingsFolder : Text) : Text := settingsFolder ++ lit "/rcgtk/config.toml"

/-- The dialog that is converted if nothing names one. -/
def defaultDialog : Text := lit "IDD_DIALOG"

/-- What the command line says about the dialog goes before the configuration. -/
def choose (args : Arguments) (settings : DialogSettings) : DialogSettings where
  id? := some ((args.dialogId? <|> settings.id?).getD defaultDialog)
  anchor? := args.anchor? <|> settings.anchor?
  windowId := settings.windowId

end Session

namespace Host

/-- Reads a settings file. -/
def readConfiguration (host : Host) (fs : Files) (path : Text) : Except Failure Configuration := do
  let written ← (fs.readText path).mapError .ofFileError
  match (host.settings? written).bind (Configuration.ofSetting? true) with
  | some config => return config
  | none => .error (.configuration (lit "invalid configuration in " ++ path))

/-- The configuration of a run: of the file that is asked for, which must exist, else of the
project, else of the user, else the default. -/
def findConfiguration (host : Host) (fs : Files) (settingsFolder? : Option Text) (path? : Option Text) :
    Except Failure Configuration :=
  match path? with
  | some path =>
    if fs.isFile path then host.readConfiguration fs path
    else .error (.configuration (lit "missing configuration file " ++ path))
  | none =>
    match (Session.localPath :: (settingsFolder?.map Session.userPath).toList).find? fs.isFile with
    | some path => host.readConfiguration fs path
    | none => .ok {}

end Host

/-! ## Symbols -/

inductive PreprocessorError where
  | notStarted (program : Text) (reason : FileError)
  | failed (program : Text) (ending : Ending) (messages : Text)
  | notText (program : Text) (fault : Utf8.Fault)
  deriving DecidableEq, Repr

def PreprocessorError.message : PreprocessorError → Text
  | notStarted program reason => lit "failed to run `" ++ program ++ lit "`: " ++ reason.message
  | failed program ending messages =>
    lit "`" ++ program ++ lit "` exited with " ++ ending.text ++ lit ": " ++ messages.trim
  | notText program fault => lit "`" ++ program ++ lit "` output is not UTF-8: " ++ fault.message

namespace Host

/-- What a program prints about a header, and the files as it leaves them. -/
def preprocess (host : Host) (fs : Files) (program : Text) (words : List Text) :
    Except PreprocessorError Text × Files :=
  match host.start fs program words with
  | .error e => (.error (.notStarted program e), fs)
  | .ok run =>
    let result :=
      if run.ending ≠ .status 0 then .error (.failed program run.ending (Utf8.decodeLossy run.messages))
      else (Utf8.decode run.output).mapError (.notText program)
    (result, run.files)

/-- The symbols of a run: of a header, through the preprocessor, or of a define dump. With them come
the files, which a preprocessor may change. -/
def findSymbols (host : Host) (fs : Files) (args : Arguments) (settings : SymbolSettings) :
    Except Failure SymbolTable × Files :=
  match args.header?, args.defines? with
  | some header, _ =>
    match settings.preprocessor with
    | [] => (.error (.configuration (lit "`symbols.preprocessor` is empty")), fs)
    | program :: words =>
      let (result, after) := host.preprocess fs program (words ++ [header])
      ((result.mapError fun e => .preprocessor e.message).map .ofDump, after)
  | none, some defines => (((fs.readText defines).mapError .ofFileError).map .ofDump, fs)
  | none, none => (.ok {}, fs)

end Host

/-! ## Running -/

namespace Session

/-- How a run ends, and the files it leaves. -/
structure Outcome where
  result : Except Failure Unit
  files : Files

/-- Writes a text where one is asked for; without a path it is not even made. -/
def writeText (fs : Files) (path? : Option Text) (text : Except Failure Text) : Except Failure Files :=
  match path? with
  | none => .ok fs
  | some path => do (fs.write path (Utf8.encode (← text))).mapError .ofFileError

end Session

namespace Host

/-- The converter for a run and the script it converts, and the files after the symbols were found. -/
def prepare (host : Host) (fs : Files) (settingsFolder? : Option Text) (args : Arguments) :
    Except Failure (Converter × Text) × Files :=
  match host.findConfiguration fs settingsFolder? args.config? with
  | .error f => (.error f, fs)
  | .ok loaded =>
    let config := { loaded with dialog := Session.choose args loaded.dialog }
    match host.findSymbols fs args config.symbols with
    | (.error f, after) => (.error f, after)
    | (.ok symbols, after) =>
      (((after.readText args.input).mapError .ofFileError).map fun source => ({ config, symbols }, source), after)

/-- Runs the command line. The interface is written before the manifest is made. -/
def run (host : Host) (fs : Files) (settingsFolder? : Option Text) (args : Arguments) : Session.Outcome :=
  match host.prepare fs settingsFolder? args with
  | (.error f, after) => ⟨.error f, after⟩
  | (.ok (converter, source), after) =>
    match Session.writeText after args.interfacePath? ((converter.convert source).map (·.document)) with
    | .error f => ⟨.error f, after⟩
    | .ok written =>
      match Session.writeText written args.resourcesOutput? (converter.manifestOf source) with
      | .error f => ⟨.error f, written⟩
      | .ok all => ⟨.ok (), all⟩

end Host

end DialogGrid
