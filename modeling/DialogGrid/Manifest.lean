import DialogGrid.Asset
import DialogGrid.Document

/-!
# Resource manifests

A manifest lists the assets of a script under a folder of the application. Assets lie below a
source folder, whose path is left out.
-/

namespace DialogGrid.Manifest

/-- The line for an asset, or the report that it lies outside the source folder. -/
def entry (sourceFolder : Text) (a : Asset) : Except Diagnostic Text :=
  match a.location.dropLead? sourceFolder with
  | some path => .ok (markupLine 4 (lit "<file alias=\"" ++ a.name ++ lit "\">" ++ path ++ lit "</file>"))
  | none => .error {
      severity := .error
      code := some .assetOutside
      message := lit "resource `" ++ a.name ++ lit "` is outside `" ++ sourceFolder ++ lit "`"
      labels := [⟨a.span, lit "unexpected location", true⟩]
      help := some
        (lit "move the file below `" ++ sourceFolder ++ lit "` or change `assets.source_prefix`") }

/-- The manifest that holds these lines. -/
def markup (resourceFolder : Text) (entries : List Text) : Text :=
  documentHead
    ++ lit "<!-- GResources XML file autogenerated by rcgtk - DO NOT EDIT! -->\n"
    ++ lit "<gresources>\n"
    ++ markupLine 2 (lit "<gresource prefix=\"" ++ resourceFolder ++ lit "\">")
    ++ entries.flatten
    ++ markupLine 2 (lit "</gresource>")
    ++ lit "</gresources>\n"

/-- The manifest of assets, or every asset that lies outside the source folder. -/
def ofAssets (sourceFolder resourceFolder : Text) (assets : List Asset) : Except (List Diagnostic) Text :=
  (Diagnostics.gather (assets.map (entry sourceFolder))).map (markup resourceFolder)

end DialogGrid.Manifest
