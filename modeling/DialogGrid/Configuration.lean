import DialogGrid.Asset
import DialogGrid.Grid
import DialogGrid.Setting

/-!
# Configuration

What a conversion can be told: the ratios of the grid, how identifiers are resolved, which
dialog is converted, and where assets lie. Every part has a default.
-/

namespace DialogGrid

/-- How identifiers are resolved: what stands before the value of each, and the command that
prints a define dump of a header. -/
structure SymbolSettings where
  idLead : Text := lit "ID_"
  preprocessor : List Text := [lit "gcc", lit "-E", lit "-dD"]
  deriving DecidableEq, Repr

/-- Which dialog is converted: its identifier, text inside its header, and the identifier that
its window gets. -/
structure DialogSettings where
  id? : Option Text := none
  anchor? : Option Text := none
  windowId : Text := lit "window"
  deriving DecidableEq, Repr

/-- Where assets are listed, the folder they lie in, and the folder the manifest puts them in. -/
structure AssetSettings where
  marker : Text := Asset.defaultMarker
  sourceFolder : Text := lit "../res/"
  resourceFolder : Text := lit "/res/"
  deriving DecidableEq, Repr

structure Configuration where
  ratios : Ratios := {}
  symbols : SymbolSettings := {}
  dialog : DialogSettings := {}
  assets : AssetSettings := {}

/-! ## Reading settings -/

def Ratios.ofSetting? (surplus : Bool) (s : Setting) : Option Ratios := do
  let default : Ratios := {}
  let columnName := lit "column_ratio"
  let rowName := lit "row_ratio"
  let compressionName := lit "row_compression"
  let fields ← s.section? surplus [columnName, rowName, compressionName]
  let column ← Setting.field fields columnName Setting.number? default.column
  let row ← Setting.field fields rowName Setting.number? default.row
  let compression ← Setting.field fields compressionName Setting.number? default.compression
  return ⟨column, row, compression⟩

def SymbolSettings.ofSetting? (surplus : Bool) (s : Setting) : Option SymbolSettings := do
  let default : SymbolSettings := {}
  let leadName := lit "prefix"
  let preprocessorName := lit "preprocessor"
  let fields ← s.section? surplus [leadName, preprocessorName]
  let lead ← Setting.field fields leadName Setting.text? default.idLead
  let preprocessor ← Setting.field fields preprocessorName Setting.texts? default.preprocessor
  return ⟨lead, preprocessor⟩

def DialogSettings.ofSetting? (surplus : Bool) (s : Setting) : Option DialogSettings := do
  let default : DialogSettings := {}
  let idName := lit "id"
  let anchorName := lit "anchor"
  let windowName := lit "window_id"
  let fields ← s.section? surplus [idName, anchorName, windowName]
  let id? ← Setting.field fields idName Setting.optionalText? default.id?
  let anchor? ← Setting.field fields anchorName Setting.optionalText? default.anchor?
  let windowId ← Setting.field fields windowName Setting.text? default.windowId
  return ⟨id?, anchor?, windowId⟩

def AssetSettings.ofSetting? (surplus : Bool) (s : Setting) : Option AssetSettings := do
  let default : AssetSettings := {}
  let markerName := lit "section_marker"
  let sourceName := lit "source_prefix"
  let resourceName := lit "resource_prefix"
  let fields ← s.section? surplus [markerName, sourceName, resourceName]
  let marker ← Setting.field fields markerName Setting.text? default.marker
  let source ← Setting.field fields sourceName Setting.text? default.sourceFolder
  let resource ← Setting.field fields resourceName Setting.text? default.resourceFolder
  return ⟨marker, source, resource⟩

/-- The configuration that settings give. Unknown sections and fields are left alone, and with
`surplus` so are the values of a list after those of its section. -/
def Configuration.ofSetting? (surplus : Bool) (s : Setting) : Option Configuration := do
  let gridName := lit "grid"
  let symbolsName := lit "symbols"
  let dialogName := lit "dialog"
  let assetsName := lit "assets"
  let fields ← s.section? surplus [gridName, symbolsName, dialogName, assetsName]
  let ratios ← Setting.field fields gridName (Ratios.ofSetting? surplus) {}
  let symbols ← Setting.field fields symbolsName (SymbolSettings.ofSetting? surplus) {}
  let dialog ← Setting.field fields dialogName (DialogSettings.ofSetting? surplus) {}
  let assets ← Setting.field fields assetsName (AssetSettings.ofSetting? surplus) {}
  return ⟨ratios, symbols, dialog, assets⟩

end DialogGrid
