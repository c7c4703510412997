import Mathlib.Data.List.Nodup
import SceneMarkup.Project
import SceneMarkup.Proofs.Index.Scene
import SceneMarkup.Proofs.Report

namespace SceneMarkup

/-!
# Lookups lead to nodes

An address is only two numbers, and nothing in its type says that a node is
there.  Every address that a lookup returns does lead to a node: an id is only
found at a position of the document, and a path only leads from a node to one of
its children.  Names and classes may be read at such an address.

Where no file is imported, lookups also stay in the main document.
-/

namespace Document

variable {document : Document}

theorem find?_valid {id : String} {index : Nat} (found : document.find? id = some index) :
    index < document.size := by
  rw [find?, Array.findIdx?_eq_some_iff_getElem] at found
  rcases found with ⟨inside, _⟩
  exact inside

theorem child?_valid {index branch child : Nat} (valid : index < document.size)
    (found : document.child? index branch = some child) : child < document.size := by
  rw [child?_eq] at found
  rcases (document.holds valid).below.sibling found with ⟨node, _, stands, _⟩
  exact Nat.lt_of_lt_of_le (Nat.lt_add_of_pos_right node.size_pos) stands.end_le

theorem follow?_valid {path : List Nat} :
    forall {index found : Nat}, index < document.size ->
      document.follow? path index = some found -> found < document.size := by
  induction path with
  | nil =>
      intro index found valid same
      rw [follow?] at same
      rw [← Option.some.inj same]
      exact valid
  | cons branch rest ih =>
      intro index found valid followed
      rw [follow?] at followed
      cases child : document.child? index branch with
      | none =>
          rw [child] at followed
          cases followed
      | some next =>
          rw [child] at followed
          exact ih (child?_valid valid child) followed

end Document

namespace Scene

variable {scene : Scene}

theorem find?_isNode {file : FileRef} {id : String} {key : NodeKey}
    (found : scene.find? file id = some key) : key.file = file ∧ scene.IsNode key := by
  rw [find?, Option.map_eq_some_iff] at found
  rcases found with ⟨index, place, same⟩
  rw [← same]
  exact ⟨rfl, Document.find?_valid place⟩

theorem follow?_isNode {path : List Nat} {root key : NodeKey} (valid : scene.IsNode root)
    (found : scene.follow? path root = some key) : key.file = root.file ∧ scene.IsNode key := by
  rw [follow?, Option.map_eq_some_iff] at found
  rcases found with ⟨index, place, same⟩
  rw [← same]
  exact ⟨rfl, Document.follow?_valid valid place⟩

theorem resolve_file_of_no_imports (alone : scene.imports = []) (id : String) :
    (scene.resolve id).file = .main := by
  rw [resolve, alone]
  split <;> rfl

theorem ownerComponent?_contains {key owner : NodeKey}
    (found : scene.ownerComponent? key = some owner) : owner ∈ scene.ancestors key := by
  rw [ownerComponent?, Option.map_eq_some_iff] at found
  rcases found with ⟨index, nearest, same⟩
  rw [Document.ownerComponent?, Document.nearestAncestor?] at nearest
  rw [ancestors, List.mem_map]
  exact ⟨index, List.mem_of_find?_eq_some nearest, same⟩

/-- The owner of a node is a node of the same document. -/
theorem ownerComponent?_isNode {key owner : NodeKey}
    (found : scene.ownerComponent? key = some owner) :
    owner.file = key.file ∧ scene.IsNode owner := by
  have member := ownerComponent?_contains found
  have valid := isNode_of_mem_ancestors member
  rcases (mem_ancestors_iff valid owner).mp member with ⟨sameFile, _, covers⟩
  refine ⟨sameFile, ?_⟩
  rw [IsNode, sameFile]
  exact covers.valid

end Scene

namespace Project

variable {project : Project}

theorem node_of_main {key : NodeKey} (main : key.file = .main) :
    (project.scene.document .main).node key.index = project.node key := by
  rw [node, Scene.node, main]

theorem mem_components_iff (key : NodeKey) :
    key ∈ project.components ↔ key.file = .main ∧ project.scene.IsNode key ∧
      (project.node key).isComponent = true := by
  rw [components, List.mem_map]
  constructor
  · rintro ⟨index, member, same⟩
    subst same
    exact ⟨rfl, (Document.mem_components_iff _ index).mp member⟩
  · rintro ⟨main, valid, component⟩
    cases key with
    | mk file index =>
        cases main
        exact ⟨index, (Document.mem_components_iff _ index).mpr ⟨valid, component⟩, rfl⟩

theorem nodup_components (project : Project) : project.components.Nodup := by
  rw [components, Document.components]
  refine List.Nodup.map ?_ (List.nodup_range.filter _)
  intro first second same
  exact (NodeKey.mk.inj same).2

/-- An instance resolves to a node, and to one of the main document where nothing
is imported. -/
theorem resolveComponent_isNode {key component : NodeKey}
    (resolved : project.resolveComponent key = .ok component) :
    project.scene.IsNode component ∧
      (project.scene.imports = [] -> key.file = .main -> component.file = .main) := by
  rw [resolveComponent] at resolved
  cases named : (project.node key).componentId? with
  | none =>
      rw [named] at resolved
      cases resolved
  | some componentId =>
      rw [named] at resolved
      dsimp only at resolved
      split at resolved
      · rename_i own found
        rw [← Except.ok.inj resolved]
        split at found
        · cases found
        · rename_i imported
          exact ⟨(Scene.find?_isNode found).2, fun _ main => absurd main imported⟩
      · split at resolved
        · rename_i other across
          rw [← Except.ok.inj resolved]
          rw [Scene.resolveNode?] at across
          rcases Scene.find?_isNode across with ⟨file, valid⟩
          refine ⟨valid, fun alone _ => ?_⟩
          rw [file]
          exact Scene.resolve_file_of_no_imports alone componentId
        · cases resolved

end Project
end SceneMarkup
