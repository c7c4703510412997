import SceneMarkup.Index.Scene

namespace SceneMarkup

/-!
# Names in a scene

Every name that appears in markup is a function of a node and the whole document
that holds it, so translating an unchanged document gives the same names again,
in whatever order they are asked for.
-/

/-- What a name is needed for. -/
inductive NameUse where
  | plain
  | tag
  | styleClass
  | exportFile (setting : ExportSetting)
  | previewTag
  | previewClass
  deriving Repr, BEq

namespace Scene

/-- The name of a node before its owners are put in front. -/
def ownName (scene : Scene) (key : NodeKey) : String :=
  match (scene.named key.file).names[key.index]? with
  | some name => name
  | none => ""

/-- The components around a node, outermost first. -/
def ownerChain (scene : Scene) (key : NodeKey) : List NodeKey :=
  ((scene.ancestors key).filter fun ancestor => (scene.node ancestor).isComponent).reverse

/-- The name of a node: the own names of the components around it and its own,
joined by underscores. -/
def uniqueName (scene : Scene) (key : NodeKey) : String :=
  "_".intercalate ((scene.ownerChain key ++ [key]).map scene.ownName)

/-- The alias under which an imported file is known. -/
def moduleAlias (place : Nat) : String :=
  "module" ++ Number.digitString place

/-- Write the first letter of each part of a name as a capital. -/
def capitalize (name : String) : String :=
  String.ofList (Identifier.capitalizeParts true name.toList)

/-- A tag that a file declares, qualified with the alias of that file if it is an
imported one. -/
def qualified : FileRef -> String -> String
  | .main, tag => tag
  | .imported place, tag => moduleAlias place ++ ":" ++ tag

/-- How the name of a node is spelled for a use: as a tag with capitals, as a class
behind the encoded id, as a file behind a prefix and before the size. -/
def spell (scene : Scene) (key : NodeKey) (name : String) : NameUse -> String
  | .plain => name
  | .tag => capitalize name
  | .styleClass => "_" ++ Identifier.encodeId (scene.node key).id ++ "_" ++ name
  | .exportFile setting =>
      "node-" ++ name ++ "@" ++ Number.plain setting.constraint.value ++ "."
        ++ setting.format.extension
  | .previewTag => qualified key.file ("_Preview_" ++ capitalize name)
  | .previewClass => "_Preview_" ++ name

/-- The name of a node for a use. -/
def nameFor (scene : Scene) (key : NodeKey) (use : NameUse) : String :=
  scene.spell key (scene.uniqueName key) use

/-- The name under which a node is declared. -/
def tagName (scene : Scene) (key : NodeKey) : String :=
  scene.nameFor key .tag

/-- The class of a node: its encoded id and its name. -/
def className (scene : Scene) (key : NodeKey) : String :=
  scene.nameFor key .styleClass

def exportFileName (scene : Scene) (key : NodeKey) (setting : ExportSetting) : String :=
  scene.nameFor key (.exportFile setting)

/-- The name under which the preview of a component is declared in its own
file. -/
def ownPreviewTagName (scene : Scene) (key : NodeKey) : String :=
  "_Preview_" ++ scene.tagName key

/-- The tag that refers to the preview of a component. -/
def previewTagName (scene : Scene) (key : NodeKey) : String :=
  scene.nameFor key .previewTag

/-- The class that places the preview of a component. -/
def previewClassName (scene : Scene) (key : NodeKey) : String :=
  scene.nameFor key .previewClass

theorem tagName_eq (scene : Scene) (key : NodeKey) :
    scene.tagName key =
      String.ofList (Identifier.capitalizeParts true (scene.uniqueName key).toList) := rfl

theorem className_eq (scene : Scene) (key : NodeKey) :
    scene.className key =
      "_" ++ Identifier.encodeId (scene.node key).id ++ "_" ++ scene.uniqueName key := rfl

theorem exportFileName_eq (scene : Scene) (key : NodeKey) (setting : ExportSetting) :
    scene.exportFileName key setting =
      "node-" ++ scene.uniqueName key ++ "@" ++ Number.plain setting.constraint.value ++ "."
        ++ setting.format.extension := rfl

theorem previewTagName_eq (scene : Scene) (key : NodeKey) :
    scene.previewTagName key = qualified key.file (scene.ownPreviewTagName key) := rfl

theorem previewClassName_eq (scene : Scene) (key : NodeKey) :
    scene.previewClassName key = "_Preview_" ++ scene.uniqueName key := rfl

end Scene
end SceneMarkup
