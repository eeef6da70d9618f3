import DialogGrid.Converter

/-!
# Reports

What is handed to a report printer: one report per problem of a script, each drawn against the
script, and a single report for any other failure.
-/

namespace DialogGrid

/-- A label as a printer takes it: where it begins, and how long it is. -/
structure ReportLabel where
  offset : Nat
  size : Nat
  message : Text
  primary : Bool
  deriving DecidableEq, Repr

/-- One report. It has labels only if its problem points at the script. -/
structure Report where
  text : Text
  code? : Option Text
  severity : Severity
  help? : Option Text
  source? : Option Text
  labels? : Option (List ReportLabel)
  deriving DecidableEq, Repr

namespace Report

def ofLabel (l : Label) : ReportLabel := ⟨l.span.start, l.span.size, l.message, l.primary⟩

/-- The report on a problem of a script. -/
def ofDiagnostic (source : Text) (d : Diagnostic) : Report where
  text := d.message
  code? := d.code.map Code.text
  severity := d.severity
  help? := d.help
  source? := some source
  labels? := if d.labels = [] then none else some (d.labels.map ofLabel)

def ofDiagnostics (source : Text) (ds : List Diagnostic) : List Report := ds.map (ofDiagnostic source)

/-- The only report on a failure that is not in a script. -/
def single (f : Failure) (code : Text) (help? : Option Text := none) : Report :=
  ⟨f.text, some code, .error, help?, none, none⟩

/-- The reports on a failure. -/
def ofFailure (f : Failure) : List Report :=
  match f with
  | .script diagnostics source => ofDiagnostics source diagnostics
  | .configuration _ => [single f (lit "rcgtk::config")]
  | .files _ => [single f (lit "rcgtk::io")]
  | .preprocessor _ =>
    [single f (lit "rcgtk::preprocessor")
      (some (lit "set `symbols.preprocessor` in the configuration or pass `--defines`"))]

end Report

end DialogGrid
