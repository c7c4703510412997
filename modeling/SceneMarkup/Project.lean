import SceneMarkup.Naming.Names
import SceneMarkup.Options
import SceneMarkup.Report

namespace SceneMarkup

/-!
# Projects

A project is everything that the markup of one file depends on: the scene, the
options, and the path the markup is written to, which imports are relative to.
-/

/-- One file to be written as markup. -/
structure Project where
  scene : Scene
  options : Options
  outputPath : String

namespace Project

/-- Index the documents of a project. -/
def build (root : Node) (imports : Imports) (options : Options) (outputPath : String) :
    Except Fault Project :=
  match Scene.build root imports with
  | .error fault => .error fault
  | .ok scene => .ok ⟨scene, options, outputPath⟩

def node (project : Project) (key : NodeKey) : Node :=
  project.scene.node key

/-- The addresses of the components of the main document, in order. -/
def components (project : Project) : List NodeKey :=
  (project.scene.document .main).components.map fun index => ⟨.main, index⟩

/-- The warnings about the exports of a node that cannot be made. -/
def exportWarnings (project : Project) (key : NodeKey) : List WarningKind :=
  ((project.node key).exportSettings.filterMap (·.obstacle?)).map WarningKind.ofObstacle

/-- The first export of a node that can be made. -/
def supportedExport? (project : Project) (key : NodeKey) : Option ExportSetting :=
  (project.node key).exportSettings.find? (·.isSupported)

/-- The component that an instance places.  An instance of an imported file looks
in that file first; after that, and from the main document at once, the id is
looked up across files. -/
def resolveComponent (project : Project) (key : NodeKey) : Except Fault NodeKey :=
  let node := project.node key
  match node.componentId? with
  | none => .error (.componentNotFound node.id node.name "")
  | some componentId =>
      let own :=
        if key.file = .main then none else project.scene.find? key.file componentId
      match own with
      | some component => .ok component
      | none =>
          match project.scene.resolveNode? componentId with
          | some component => .ok component
          | none => .error (.componentNotFound node.id node.name componentId)

/-- The addresses of the instances in the main document, in order. -/
def instances (project : Project) : List NodeKey :=
  ((List.range (project.scene.document .main).size).map fun index => ⟨.main, index⟩).filter
    fun key => (project.node key).isInstance

/-- Resolve every instance of the main document; the first that leads nowhere
ends it.  The result is their number. -/
def resolveInstances (project : Project) : Except Fault Nat :=
  (project.instances.mapM project.resolveComponent).map List.length

end Project
end SceneMarkup
