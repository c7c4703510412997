import SceneMarkup.Naming.Names

namespace SceneMarkup

/-!
# Names belong to a document

A node is called after itself and the components around it, and all of these lie
in its own document.  Wherever a document turns up, as the main document of one
scene or among the imports of another, its nodes are therefore called the same.
Only the tag that refers to a preview says where the document stands.
-/

/-- The positions of the components around a position, outermost first. -/
def Document.ownerChain (document : Document) (index : Nat) : List Nat :=
  ((document.ancestors index).filter fun ancestor => (document.node ancestor).isComponent).reverse

namespace Scene

theorem ownerChain_eq (scene : Scene) (file : FileRef) (index : Nat) :
    scene.ownerChain ⟨file, index⟩ =
      ((scene.document file).ownerChain index).map fun ancestor => ⟨file, ancestor⟩ := by
  rw [ownerChain, ancestors, List.filter_map, ← List.map_reverse]
  rfl

/-- The name of a node from the document alone: its positions are looked up in the
same file. -/
theorem uniqueName_eq (scene : Scene) (file : FileRef) (index : Nat) :
    scene.uniqueName ⟨file, index⟩ =
      "_".intercalate (((scene.document file).ownerChain index ++ [index]).map
        fun position => scene.ownName ⟨file, position⟩) := by
  rw [uniqueName, ownerChain_eq, List.map_append, List.map_append, List.map_map]
  rfl

/-- A node of one scene and a node of another are called the same.  The tags that
refer to their previews may differ in an alias. -/
structure SameNames (scene : Scene) (key : NodeKey) (other : Scene) (otherKey : NodeKey) :
    Prop where
  node : scene.node key = other.node otherKey
  uniqueName : scene.uniqueName key = other.uniqueName otherKey
  tagName : scene.tagName key = other.tagName otherKey
  className : scene.className key = other.className otherKey
  ownPreviewTagName : scene.ownPreviewTagName key = other.ownPreviewTagName otherKey
  previewClassName : scene.previewClassName key = other.previewClassName otherKey

/-- One document in two scenes gives the same names at the same position. -/
theorem sameNames_of_named_eq {scene other : Scene} {file otherFile : FileRef}
    (same : scene.named file = other.named otherFile) (index : Nat) :
    SameNames scene ⟨file, index⟩ other ⟨otherFile, index⟩ := by
  have document : scene.document file = other.document otherFile := congrArg _ same
  have node : scene.node ⟨file, index⟩ = other.node ⟨otherFile, index⟩ :=
    congrArg (Document.node · index) document
  have ownName : forall position,
      scene.ownName ⟨file, position⟩ = other.ownName ⟨otherFile, position⟩ := by
    intro position
    rw [Scene.ownName, Scene.ownName, same]
  have uniqueName : scene.uniqueName ⟨file, index⟩ = other.uniqueName ⟨otherFile, index⟩ := by
    simp only [uniqueName_eq, document, ownName]
  have tagName : scene.tagName ⟨file, index⟩ = other.tagName ⟨otherFile, index⟩ := by
    rw [Scene.tagName_eq, Scene.tagName_eq, uniqueName]
  constructor
  · exact node
  · exact uniqueName
  · exact tagName
  · rw [className_eq, className_eq, uniqueName, node]
  · rw [ownPreviewTagName, ownPreviewTagName, tagName]
  · rw [previewClassName_eq, previewClassName_eq, uniqueName]

end Scene
end SceneMarkup
