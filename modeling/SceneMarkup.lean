import SceneMarkup.Command.Arguments
import SceneMarkup.Command.Files
import SceneMarkup.Command.Log
import SceneMarkup.Command.Run
import SceneMarkup.Data.Drawing
import SceneMarkup.Data.Field
import SceneMarkup.Data.Tree
import SceneMarkup.Export.Plan
import SceneMarkup.Index.Document
import SceneMarkup.Index.Scene
import SceneMarkup.Index.Subtrees
import SceneMarkup.Json.Printer
import SceneMarkup.Json.Reader
import SceneMarkup.Json.Token
import SceneMarkup.Json.Value
import SceneMarkup.Main
import SceneMarkup.Markup.Declaration
import SceneMarkup.Markup.Escape
import SceneMarkup.Markup.Writer
import SceneMarkup.Markup.Page
import SceneMarkup.Markup.Preview
import SceneMarkup.Markup.Stylesheet
import SceneMarkup.Naming.Identifier
import SceneMarkup.Naming.Names
import SceneMarkup.Number.Binary64
import SceneMarkup.Number.Notation
import SceneMarkup.Number.Shortest
import SceneMarkup.Options
import SceneMarkup.OrderedMap
import SceneMarkup.Path
import SceneMarkup.Project
import SceneMarkup.Report
import SceneMarkup.Scene.Drawing
import SceneMarkup.Scene.Node
import SceneMarkup.Style.Layer
import SceneMarkup.Style.Nested
import SceneMarkup.Style.Override
import SceneMarkup.Text.CaseTable
import SceneMarkup.Text.Words
import SceneMarkup.Text.ClusterTable
import SceneMarkup.Proofs.OrderedMap
import SceneMarkup.Proofs.Report
import SceneMarkup.Proofs.FirstFault
import SceneMarkup.Proofs.Style.Difference
import SceneMarkup.Proofs.Style.OverrideChain
import SceneMarkup.Proofs.Style.Cascade
import SceneMarkup.Proofs.Index.Subtrees
import SceneMarkup.Proofs.Index.Walks
import SceneMarkup.Proofs.Naming.Allocation
import SceneMarkup.Proofs.Naming.Names
import SceneMarkup.Proofs.Markup.Blocks
import SceneMarkup.Proofs.Markup.Fragments
import SceneMarkup.Proofs.Markup.PreviewParts
import SceneMarkup.Proofs.Markup.Lines
import SceneMarkup.Proofs.Markup.Unbroken
import SceneMarkup.Proofs.Markup.PreviewLines
import SceneMarkup.Proofs.Markup.PageText
import SceneMarkup.Proofs.Markup.PreviewFaults
import SceneMarkup.Proofs.Markup.Declarations
import SceneMarkup.Proofs.Markup.PreviewTags
import SceneMarkup.Proofs.Markup.DeclaredLayers
import SceneMarkup.Proofs.Style.Levels
import SceneMarkup.Proofs.Style.Nested
import SceneMarkup.Proofs.Style.Mirroring
import SceneMarkup.Proofs.Markup.Selectors
import SceneMarkup.Proofs.Agreement
import SceneMarkup.Proofs.Style.Placement
import SceneMarkup.Proofs.Markup.Placement
import SceneMarkup.Proofs.Index.Paths
import SceneMarkup.Proofs.Markup.Slots
import SceneMarkup.Proofs.Markup.Specificity
import SceneMarkup.Proofs.Markup.References
import SceneMarkup.Proofs.Export.Plan
import SceneMarkup.Proofs.Export.Assets
import SceneMarkup.Proofs.Index.Depth
import SceneMarkup.Proofs.Confinement
import SceneMarkup.Proofs.Markup.Faults
import SceneMarkup.Proofs.Naming.Documents
import SceneMarkup.Proofs.Markup.Imports
import SceneMarkup.Proofs.Json.Sorted
import SceneMarkup.Proofs.Data.Reading
import SceneMarkup.Proofs.Data.Drawing
import SceneMarkup.Proofs.Data.Tree
import SceneMarkup.Proofs.Data.ReadBack
import SceneMarkup.Proofs.Index.Resolution
import SceneMarkup.Proofs.Index.PlacedComponents
import SceneMarkup.Proofs.Naming.EncodedIds
import SceneMarkup.Proofs.Naming.AcrossFiles
import SceneMarkup.Proofs.Markup.PreviewLinks
import SceneMarkup.Proofs.Style.ChainSearch
import SceneMarkup.Proofs.FirstPlaces
import SceneMarkup.Proofs.Index.DocumentOrder
import SceneMarkup.Proofs.Markup.RuleCoverage
import SceneMarkup.Proofs.Markup.PreviewStack
import SceneMarkup.Proofs.Style.FillLayers
import SceneMarkup.Proofs.Export.Batches
import SceneMarkup.Proofs.Index.Flattening
import SceneMarkup.Proofs.Index.DepthLimit
import SceneMarkup.Naming.Register
import SceneMarkup.Proofs.Naming.History
import SceneMarkup.Proofs.Naming.Ordinals
import SceneMarkup.Proofs.Markup.MissingComponents
import SceneMarkup.Proofs.Path.Steps
import SceneMarkup.Proofs.Path.Resolved
import SceneMarkup.Proofs.Path.RelativeImport
import SceneMarkup.Proofs.Path.Destination
import SceneMarkup.Proofs.Markup.Escape
