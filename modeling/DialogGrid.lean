import DialogGrid.Main
import DialogGrid.Proofs.Block
import DialogGrid.Proofs.LineEndings
import DialogGrid.Proofs.Style
import DialogGrid.Proofs.Elements
import DialogGrid.Proofs.Locality
import DialogGrid.Proofs.Markup
import DialogGrid.Proofs.Nesting
import DialogGrid.Proofs.Assets
import DialogGrid.Proofs.Labels
import DialogGrid.Proofs.Symbols
import DialogGrid.Proofs.Outputs
import DialogGrid.Proofs.Coverage
import DialogGrid.Proofs.Separation
import DialogGrid.Proofs.Shape
import DialogGrid.Proofs.LineBreaks
import DialogGrid.Proofs.Declarations
import DialogGrid.Proofs.Properties
import DialogGrid.Proofs.Segments
import DialogGrid.Proofs.Diagnostics
import DialogGrid.Proofs.Schemas
import DialogGrid.Proofs.Translation
import DialogGrid.Proofs.Respelling
import DialogGrid.Proofs.AssetReports
import DialogGrid.Proofs.Decoding
import DialogGrid.Proofs.StandardRules
import DialogGrid.Proofs.RowSpans
import DialogGrid.Proofs.Placeholders
import DialogGrid.Proofs.Dumps
import DialogGrid.Proofs.NormalFlags
import DialogGrid.Proofs.Cells
