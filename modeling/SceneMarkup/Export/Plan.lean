import SceneMarkup.Data.Drawing
import SceneMarkup.Project

namespace SceneMarkup

/-!
# Export plans

Markup refers to exported images by file name only; the images are fetched in
batches, one for each format and size.  Only layers inside components count,
each of them once, because nothing else is declared.
-/

/-- An image that is to be fetched. -/
structure ExportedNode where
  nodeId : String
  fileName : String
  deriving Repr, BEq, DecidableEq

/-- Images that are fetched with the same format and size. -/
structure ExportBatch where
  format : ExportFormat
  constraint : ExportConstraint
  nodes : List ExportedNode
  deriving Repr, BEq

/-- Everything that is to be fetched for a document. -/
structure ExportPlan where
  batches : List ExportBatch
  warnings : List Warning

namespace ExportPlan

/-- The number of images. -/
def fileCount (plan : ExportPlan) : Nat :=
  (plan.batches.flatMap (·.nodes)).length

end ExportPlan

/-- Whether an export belongs into a batch. -/
def ExportBatch.takes (batch : ExportBatch) (setting : ExportSetting) : Bool :=
  batch.format == setting.format && batch.constraint == setting.constraint

/-- Put an image into the first batch that takes it, or into a new one at the
end. -/
def ExportBatch.add (setting : ExportSetting) (exported : ExportedNode) :
    List ExportBatch -> List ExportBatch
  | [] => [⟨setting.format, setting.constraint, [exported]⟩]
  | batch :: rest =>
      if batch.takes setting then
        { batch with nodes := batch.nodes ++ [exported] } :: rest
      else batch :: ExportBatch.add setting exported rest

namespace Project

/-- Every address once, at its first place. -/
def distinctKeys : List NodeKey -> List NodeKey
  | [] => []
  | key :: rest => key :: (distinctKeys rest).filter (· ≠ key)

/-- The addresses of all nodes inside components, each once. -/
def componentNodes (project : Project) : List NodeKey :=
  distinctKeys (project.components.flatMap project.scene.subtree)

/-- The exports that can be made, with their nodes, in order. -/
def plannedExports (project : Project) : List (NodeKey × ExportSetting) :=
  project.componentNodes.flatMap fun key =>
    ((project.node key).exportSettings.filter (·.isSupported)).map fun setting => (key, setting)

def exportBatches (project : Project) : List ExportBatch :=
  project.plannedExports.foldl
    (fun batches planned =>
      ExportBatch.add planned.2
        ⟨(project.node planned.1).id, project.scene.exportFileName planned.1 planned.2⟩ batches)
    []

/-- The warnings about exports that cannot be made. -/
def exportPlanWarnings (project : Project) : List Warning :=
  project.componentNodes.flatMap fun key =>
    (project.exportWarnings key).map (Warning.about (project.node key))

end Project

/-- Plan the exports of a document, on its own and with the standard options. -/
def planExports (root : Node) : Reported ExportPlan := do
  let project ← Reported.ofExcept (Project.build root OrderedMap.empty Options.standard "")
  Reported.raise project.exportPlanWarnings
  let batches := project.exportBatches
  Reported.announce (.exportsPlanned batches.length)
  return ⟨batches, Warning.distinct project.exportPlanWarnings⟩

namespace ExportPlan

/-- An image as data. -/
def encodeNode (exported : ExportedNode) : Json :=
  .object [("nodeId", .string exported.nodeId), ("fileName", .string exported.fileName)]

def encodeBatch (batch : ExportBatch) : Json :=
  .object
    [ ("format", .string batch.format.name), ("constraint", batch.constraint.encode),
      ("nodes", .ofList encodeNode batch.nodes) ]

def encode (plan : ExportPlan) : Json :=
  .object
    [ ("batches", .ofList encodeBatch plan.batches),
      ("warnings", .ofList Warning.encode plan.warnings) ]

end ExportPlan
end SceneMarkup
