import SceneMarkup.Markup.Declaration
import SceneMarkup.Markup.Preview
import SceneMarkup.Markup.Stylesheet

namespace SceneMarkup

/-!
# The markup of a file

The markup of a file has imports, the stylesheet, the declarations of layers and,
where they are wanted, previews.  Instances are resolved before anything else, so
an instance without a component ends the work before any other fault can.
-/

/-- An import of another file's markup under a name. -/
structure ImportLine where
  name : String
  source : String
  deriving Repr, BEq, DecidableEq

/-- An import in full. -/
def ImportLine.pieces (line : ImportLine) : List Piece :=
  Piece.texts ["<import as=\"", line.name, "\" src=\"", line.source, "\" />\n"]

/-- What is written in front of the previews. -/
def frontPieces (options : Options) (imports : List ImportLine) (stylesheet : Stylesheet)
    (declarations : List Declaration) : List Piece :=
  [.text "\n<!--\n"] ++ Piece.block [.text "!! AUTO GENERATED, EDIT WITH CAUTION !!\n"]
    ++ [.text "-->\n\n"]
    ++ imports.flatMap ImportLine.pieces ++ [.text "\n"]
    ++ [.text "<!-- STYLES -->\n\n"] ++ stylesheet.pieces
    ++ [.text "<!-- ALL LAYERS & COMPONENTS -->\n\n"]
    ++ declarations.flatMap (Declaration.pieces options)

namespace Project

/-- The imports of a project, one for each imported file in order. -/
def importLines (project : Project) : List ImportLine :=
  project.scene.importPaths.zipIdx.map fun entry =>
    ⟨Scene.moduleAlias entry.2, Path.relativeImport project.outputPath entry.1⟩

/-- Write the previews of a project, where they are wanted. -/
def writeWantedPreviews (project : Project) (writer : Writer) : Reported Writer :=
  if project.options.previews then do
    let titled ← Reported.ofExcept (writer.putAll? [.text "<!-- PREVIEWS -->\n\n"])
    let written ← Reported.ofExcept (project.writePreviews titled)
    Reported.announce (.previewsWritten project.components.length)
    return written
  else return writer

def translate (project : Project) : Reported String := do
  let instances ← Reported.ofExcept project.resolveInstances
  Reported.announce (.instancesResolved instances)
  let imports := project.importLines
  Reported.announce (.importsWritten imports.length)
  let stylesheet ← project.stylesheet
  Reported.announce (.rulesWritten stylesheet.rules.length)
  let declarations := project.declarations
  Reported.raise project.declarationWarnings
  Reported.announce (.declarationsWritten declarations.length)
  let front ← Reported.ofExcept (Writer.empty.putAll?
    (frontPieces project.options imports stylesheet declarations))
  let writer ← project.writeWantedPreviews front
  Reported.announce (.finished writer.buffer.utf8ByteSize)
  Reported.ofExcept writer.finish?

end Project
end SceneMarkup
