import DialogGrid.Configuration
import DialogGrid.Dialog
import DialogGrid.Document
import DialogGrid.Fragment
import DialogGrid.Manifest

/-!
# Converter

A converter holds a configuration, the symbols and the rules, and makes of a script the
interface document of one dialog and the manifest of its assets. The body directives are
translated one after another with one collector, so one run reports every problem; a document
results exactly if no problem is an error, and then the problems are its warnings.
-/

namespace DialogGrid

/-- Why a run fails. Problems in a script come with the script. -/
inductive Failure where
  | script (diagnostics : List Diagnostic) (source : Text)
  | configuration (message : Text)
  | files (message : Text)
  | preprocessor (message : Text)
  deriving DecidableEq, Repr

/-- The text that a failure is shown as. -/
def Failure.text : Failure → Text
  | script diagnostics _ => Diagnostics.summary diagnostics
  | configuration message => lit "Configuration error: " ++ message
  | files message => lit "I/O error: " ++ message
  | preprocessor message => lit "Preprocessor error: " ++ message

structure Converter where
  config : Configuration := {}
  symbols : SymbolTable := {}
  rules : List Rule := standardRules config.ratios

/-- An interface document and the warnings about it. -/
structure Conversion where
  document : Text
  warnings : List Diagnostic
  deriving DecidableEq, Repr

namespace Converter

/-- Finds and reads the configured dialog. It is searched from the anchor text backward, or from
the end of the script. -/
def findDialog (c : Converter) (source : Text) : Except Failure Dialog :=
  let settings := c.config.dialog
  let found := do
    let index ← match settings.anchor? with
      | some anchor => Dialog.locate source anchor
      | none => .ok source.byteSize
    Dialog.parse source index settings.id?
  found.mapError fun e => .script [e.diagnostic] source

/-- What fragments are built with on a given grid. -/
def builder (c : Converter) (grid : Grid) : Builder where
  symbols := c.symbols
  idLead := c.config.symbols.idLead
  grid := grid
  rules := c.rules

/-- The interface document of a dialog that stands in a script. -/
def interfaceOf (c : Converter) (source : Text) (dialog : Dialog) : Except Failure Conversion := do
  let grid ← (Grid.ofRatios c.config.ratios).mapError fun e => .configuration e.message
  let (fragments, collected) := (dialog.body.mapM (c.builder grid).translate).run .empty
  let warnings ← collected.finish.mapError fun ds => .script ds source
  let window := windowMarkup c.config.dialog.windowId dialog.caption? fragments
  return ⟨documentMarkup window, warnings⟩

/-- The interface document of the configured dialog. -/
def convert (c : Converter) (source : Text) : Except Failure Conversion := do
  let dialog ← c.findDialog source
  c.interfaceOf source dialog

/-- The manifest of the assets that a script lists. -/
def manifestOf (c : Converter) (source : Text) : Except Failure Text :=
  let settings := c.config.assets
  let manifest := do
    let assets ← Asset.scan source settings.marker
    Manifest.ofAssets settings.sourceFolder settings.resourceFolder assets
  manifest.mapError fun ds => .script ds source

end Converter

end DialogGrid
