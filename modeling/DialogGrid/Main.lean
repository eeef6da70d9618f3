import DialogGrid.Report
import DialogGrid.Session

/-!
# Command line

The outer layer: it reads the files that a session may look at, runs the session on them, and
writes what has changed. Everything else is decided by the session.
-/

namespace DialogGrid.CommandLine

/-- The names of a path from the root down, without the ones that cancel out. -/
def placeOf (workingFolder : Place) (path : Text) : Place :=
  let start := if path.head? = some '/' then [] else workingFolder
  (path.splitOn '/').foldl (fun place name =>
    if name = [] ∨ name = lit "." then place
    else if name = lit ".." then place.dropLast
    else place ++ [name]) start

def pathOf (place : Place) : String := String.ofList (place.flatMap ('/' :: ·))

/-- The places that lead to a place, and the place itself. -/
def wayTo (place : Place) : List Place := (List.range (place.length + 1)).map place.take

/-- Adds what lies at a place, if anything does. -/
def load (files : Files) (place : Place) : IO Files := do
  let path := (← IO.currentDir) / pathOf place
  if ← path.isDir then return files.put place .folder
  else if ← path.pathExists then
    return files.put place (.file (← IO.FS.readBinFile path).toList)
  else return files

/-- The paths that a session may follow. -/
def mentioned (settingsFolder? : Option Text) (args : Arguments) : List Text :=
  [args.input, Session.localPath] ++ (settingsFolder?.map Session.userPath).toList
    ++ [args.config?, args.header?, args.defines?, args.interfacePath?, args.resourcesOutput?].filterMap id

def refusalText : Arguments.Refusal → String
  | .missingInput => "error: the path of the input script is missing"
  | .unknownArgument => "error: an argument is unknown"
  | .conflict => "error: arguments exclude each other, or one is given twice"
  | .missingValue => "error: an option has no value"
  | .needlessValue => "error: an option takes no value"
  | .helpWanted => usage
  | .versionWanted => "0.1.0"
where
  usage : String :=
    "Usage: dialoggrid [OPTIONS] <INPUT>\n\n"
      ++ "      --header <HEADER>                      C header that defines the identifiers\n"
      ++ "      --defines <DEFINES>                    define dump to read identifiers from\n"
      ++ "      --ui-output <UI_OUTPUT>                path of the interface document\n"
      ++ "      --resources-output <RESOURCES_OUTPUT>  path of the resource manifest\n"
      ++ "      --anchor <ANCHOR>                      text inside the dialog header\n"
      ++ "      --dialog-id <DIALOG_ID>                identifier of the dialog\n"
      ++ "  -c, --config <CONFIG>                      path of the configuration\n"
      ++ "      --log-level <LOG_LEVEL>                how much is logged\n"
      ++ "  -h, --help                                 print this text\n"
      ++ "  -V, --version                              print the version"

def reportText (r : Report) : Text :=
  r.severity.text ++ (r.code?.map fun code => lit "[" ++ code ++ lit "]").getD [] ++ lit ": " ++ r.text
    ++ (r.help?.map fun help => lit "\n  help: " ++ help).getD []

/-- Runs a session on the real files. -/
def runOn (args : Arguments) : IO UInt32 := do
  let workingFolder := placeOf [] (← IO.currentDir).toString.toList
  let settingsFolder? := match (← IO.getEnv "XDG_CONFIG_HOME"), (← IO.getEnv "HOME") with
    | some folder, _ => some folder.toList
    | none, some home => some (home.toList ++ lit "/.config")
    | none, none => none
  let places := ((mentioned settingsFolder? args).map (placeOf workingFolder)).flatMap wayTo
  let before ← places.eraseDups.foldlM load { workingFolder }
  let outcome := Session.run before settingsFolder? args
  for (path, bytes) in outcome.files.changesSince before do
    IO.FS.writeBinFile (String.ofList path) ⟨bytes.toArray⟩
  match outcome.result with
  | .ok () => return 0
  | .error failure =>
    for report in Report.ofFailure failure do
      IO.eprintln (String.ofList (reportText report))
    return 1

end DialogGrid.CommandLine

open DialogGrid in
def main (words : List String) : IO UInt32 := do
  match Arguments.parse (words.map String.toList) with
  | .ok args => CommandLine.runOn args
  | .error refusal =>
    let text := CommandLine.refusalText refusal
    if refusal = .helpWanted ∨ refusal = .versionWanted then
      IO.println text
      return 0
    else
      IO.eprintln text
      return 2
