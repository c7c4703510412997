import SceneMarkup.Proofs.Index.Lookup
import SceneMarkup.Proofs.Index.Walks
import SceneMarkup.Proofs.Markup.PageText
import SceneMarkup.Proofs.Naming.Names

namespace SceneMarkup
namespace Project

/-!
# What is declared, and under which names

The declarations of a component are found by a walk that leaves out what has
its own turn or is part of an image.  Which layers that are can be said without
the walk: the component is reached from above, and nothing on the way down is
skipped or keeps its children to itself.

No layer is declared twice.  If two components reached the same layer, one of
them would lie inside the other, and the walk from the outer one stops there.
Since the names of different layers differ, the names of all declarations do.
-/

variable {project : Project}

/-! ## The walk of the declarations -/

/-- Whether the walk from a component finds a node worth declaring. -/
def declares (owner index : Nat) (node : Node) : Bool :=
  ! isSkipped owner index node

theorem declares_eq_true_iff (owner index : Nat) (node : Node) :
    declares owner index node = true ↔
      node.type ≠ .document ∧ node.type ≠ .canvas ∧ node.isInstance = false ∧
        (node.isComponent = true -> index = owner) := by
  rw [declares, isSkipped, Bool.not_eq_true']
  simp only [Bool.or_eq_false_iff, beq_eq_false_iff_ne, ne_eq, Bool.and_eq_false_imp,
    bne_eq_false_iff_eq, and_assoc]

theorem declaresChildren_eq_true_iff (key : NodeKey) :
    project.declaresChildren key = true ↔
      project.supportedExport? key = none ∧ (project.node key).isShape = false := by
  rw [declaresChildren, Bool.and_eq_true, Option.isNone_iff_eq_none, Bool.not_eq_true']

mutual

/-- A node on top of the stack is dealt with along a pruned walk, before the rest of
the stack. -/
theorem declaredFrom_at {index : Nat} {trail : List Step} (owner : NodeKey)
    (stack : List NodeKey) : {node : Node} ->
    (project.scene.document .main).Holds index trail node ->
      project.declaredFrom owner (⟨.main, index⟩ :: stack) =
        (Document.walkAt (declares owner.index)
            (fun place => project.declaresChildren ⟨.main, place⟩) index node).map
          (NodeKey.mk .main) ++ project.declaredFrom owner stack
  | .leaf id name kind, held => by
      have here : project.node ⟨.main, index⟩ = .leaf id name kind := held.node_eq
      have alone : project.scene.children ⟨.main, index⟩ = [] := by
        rw [Scene.children, held.children_eq]
        rfl
      rw [declaredFrom, Document.walkAt, declares, here, alone, List.nil_append, ite_self]
      cases isSkipped owner.index index (.leaf id name kind) <;> rfl
  | .container id name kind children, held => by
      have here : project.node ⟨.main, index⟩ = .container id name kind children := held.node_eq
      have inside : project.scene.children ⟨.main, index⟩ =
          ((project.scene.document .main).siblings (index + 1) children).map
            (NodeKey.mk .main) := by
        rw [Scene.children, held.children_eq]
        rfl
      have below := declaredFrom_below owner stack held.below
      rw [Node.children] at below
      rw [declaredFrom, Document.walkAt, declares, here, inside]
      cases isSkipped owner.index index (.container id name kind children) with
      | true => rfl
      | false =>
          cases project.declaresChildren ⟨.main, index⟩ with
          | true => exact congrArg (List.cons _) below
          | false => rfl

/-- The same of siblings on top of the stack. -/
theorem declaredFrom_below {next parent branch : Nat} {trail : List Step} (owner : NodeKey)
    (stack : List NodeKey) : {nodes : List Node} ->
    (project.scene.document .main).HoldsBelow next parent branch trail nodes ->
      project.declaredFrom owner
          (((project.scene.document .main).siblings next nodes).map (NodeKey.mk .main) ++ stack) =
        (Document.walkFrom (declares owner.index)
            (fun place => project.declaresChildren ⟨.main, place⟩) next nodes).map
          (NodeKey.mk .main) ++ project.declaredFrom owner stack
  | [], held => rfl
  | node :: rest, held => by
      rw [Document.siblings, held.head.stop_eq, List.map_cons, List.cons_append,
        declaredFrom_at owner _ held.head, declaredFrom_below owner stack held.tail, Document.walkFrom,
        List.map_append, List.append_assoc]

end

/-- Layers are declared along a pruned walk. -/
theorem declaredFrom_eq_walkAt {owner : NodeKey} (main : owner.file = .main)
    (valid : project.scene.IsNode owner) :
    project.declaredFrom owner [owner] =
      (Document.walkAt (declares owner.index)
          (fun place => project.declaresChildren ⟨.main, place⟩) owner.index
          (project.node owner)).map (NodeKey.mk .main) := by
  rcases owner with ⟨file, index⟩
  subst main
  have walked := declaredFrom_at ⟨.main, index⟩ []
    ((project.scene.document .main).holds valid)
  rw [walked, declaredFrom, List.append_nil]
  rfl

theorem declaredKeys_eq (project : Project) :
    project.declaredKeys = project.components.flatMap fun component =>
      (Document.walkAt (declares component.index)
          (fun place => project.declaresChildren ⟨.main, place⟩) component.index
          (project.node component)).map (NodeKey.mk .main) := by
  apply List.flatMap_congr
  intro component member
  rcases (mem_components_iff component).mp member with ⟨main, valid, _⟩
  exact declaredFrom_eq_walkAt main valid

/-- A component declares a layer below it, if nothing in between is skipped or
keeps its children to itself. -/
def Declares (project : Project) (owner key : NodeKey) : Prop :=
  (project.scene.document .main).Covers owner.index key.index ∧
    (project.scene.document .main).Open (declares owner.index)
      (fun place => project.declaresChildren ⟨.main, place⟩) owner.index key.index

theorem mem_declaredFrom_iff {owner : NodeKey} (member : owner ∈ project.components)
    (key : NodeKey) :
    key ∈ project.declaredFrom owner [owner] ↔
      key.file = .main ∧ project.Declares owner key := by
  rcases (mem_components_iff owner).mp member with ⟨main, valid, _⟩
  rw [declaredFrom_eq_walkAt main valid, ← node_of_main main, List.mem_map]
  rw [Scene.IsNode, main] at valid
  constructor
  · rintro ⟨index, found, same⟩
    subst same
    exact ⟨rfl, (Document.mem_walkAt_iff valid index).mp found⟩
  · rintro ⟨keyMain, declared⟩
    refine ⟨key.index, (Document.mem_walkAt_iff valid key.index).mpr declared, ?_⟩
    rw [← keyMain]

/-- The declared layers are those that some component declares. -/
theorem mem_declaredKeys_iff (key : NodeKey) :
    key ∈ project.declaredKeys ↔ key.file = .main ∧
      Exists fun owner => owner ∈ project.components ∧ project.Declares owner key := by
  rw [declaredKeys, List.mem_flatMap]
  constructor
  · rintro ⟨owner, member, found⟩
    rcases (mem_declaredFrom_iff member key).mp found with ⟨main, declared⟩
    exact ⟨main, owner, member, declared⟩
  · rintro ⟨main, owner, member, declared⟩
    exact ⟨owner, member, (mem_declaredFrom_iff member key).mpr ⟨main, declared⟩⟩

theorem isNode_of_mem_declaredKeys {key : NodeKey} (member : key ∈ project.declaredKeys) :
    project.scene.IsNode key := by
  rcases (mem_declaredKeys_iff key).mp member with ⟨main, owner, _, declared⟩
  rw [Scene.IsNode, main]
  exact declared.1.lower_valid

/-! ## Nothing is declared twice -/

/-- A component that another one reaches stops its walk, so they never declare
the same layer. -/
theorem owner_eq_of_le {first second key : NodeKey} (secondMember : second ∈ project.components)
    (firstDeclares : project.Declares first key)
    (secondCovers : (project.scene.document .main).Covers second.index key.index)
    (order : first.index <= second.index) : first.index = second.index := by
  rcases (mem_components_iff second).mp secondMember with ⟨main, _, component⟩
  have visited := (firstDeclares.2 second.index order secondCovers).1
  rw [node_of_main main, declares_eq_true_iff] at visited
  exact (visited.2.2.2 component).symm

theorem owner_unique {first second key : NodeKey} (firstMember : first ∈ project.components)
    (secondMember : second ∈ project.components) (firstDeclares : project.Declares first key)
    (secondDeclares : project.Declares second key) : first = second := by
  have index : first.index = second.index := by
    rcases Nat.le_total first.index second.index with order | order
    · exact owner_eq_of_le secondMember firstDeclares secondDeclares.1 order
    · exact (owner_eq_of_le firstMember secondDeclares firstDeclares.1 order).symm
  have firstMain := ((mem_components_iff first).mp firstMember).1
  have secondMain := ((mem_components_iff second).mp secondMember).1
  exact NodeKey.eq_of_same_place (firstMain.trans secondMain.symm) index

theorem nodup_declaredKeys (project : Project) : project.declaredKeys.Nodup := by
  rw [declaredKeys, List.nodup_flatMap]
  constructor
  · intro owner member
    rcases (mem_components_iff owner).mp member with ⟨main, valid, _⟩
    rw [declaredFrom_eq_walkAt main valid]
    apply List.Nodup.map _ (Document.walkAt_nodup _ _ _ _)
    intro first second same
    exact (NodeKey.mk.inj same).2
  · apply (nodup_components project).imp_of_mem
    intro first second firstMember secondMember different key firstFinds secondFinds
    apply different
    exact owner_unique firstMember secondMember
      ((mem_declaredFrom_iff firstMember key).mp firstFinds).2
      ((mem_declaredFrom_iff secondMember key).mp secondFinds).2

/-! ## Declared names -/

/-- A derived name that tells declared layers apart is given to each of them
once. -/
theorem nodup_map_declaredKeys (derived : NodeKey -> String)
    (injective : forall first second, project.scene.IsNode first -> project.scene.IsNode second ->
      first.file = second.file -> derived first = derived second -> first = second) :
    (project.declaredKeys.map derived).Nodup := by
  apply List.Nodup.map_on _ (nodup_declaredKeys project)
  intro first firstMember second secondMember same
  have firstMain := ((mem_declaredKeys_iff first).mp firstMember).1
  have secondMain := ((mem_declaredKeys_iff second).mp secondMember).1
  exact injective first second (isNode_of_mem_declaredKeys firstMember)
    (isNode_of_mem_declaredKeys secondMember) (firstMain.trans secondMain.symm) same

theorem map_previewTagName_components (project : Project) :
    project.components.map project.scene.previewTagName =
      project.components.map project.scene.ownPreviewTagName := by
  apply List.map_congr_left
  intro key member
  rw [Scene.previewTagName_eq, ((mem_components_iff key).mp member).1, Scene.qualified]

theorem nodup_previewTagNames (project : Project) :
    (project.components.map project.scene.previewTagName).Nodup := by
  rw [map_previewTagName_components]
  apply List.Nodup.map_on _ (nodup_components project)
  intro first firstMember second secondMember same
  rcases (mem_components_iff first).mp firstMember with ⟨firstMain, firstValid, _⟩
  rcases (mem_components_iff second).mp secondMember with ⟨secondMain, secondValid, _⟩
  exact Scene.ownPreviewTagName_injective firstValid secondValid
    (firstMain.trans secondMain.symm) same

theorem nodup_declared_and_preview_tags (project : Project) :
    (project.declaredKeys.map project.scene.tagName ++
      project.components.map project.scene.previewTagName).Nodup := by
  rw [List.nodup_append]
  refine ⟨?_, nodup_previewTagNames project, ?_⟩
  · apply nodup_map_declaredKeys
    intro first second firstValid secondValid sameFile same
    exact Scene.tagName_injective firstValid secondValid sameFile same
  · rw [map_previewTagName_components]
    intro tag layerTag previewTag previewed same
    rcases List.mem_map.mp layerTag with ⟨layer, member, layerSpelled⟩
    rcases List.mem_map.mp previewed with ⟨component, _, previewSpelled⟩
    have valid := isNode_of_mem_declaredKeys member
    apply Scene.tagName_ne_ownPreviewTagName valid component
    rw [layerSpelled, previewSpelled, same]

theorem map_page_declarations {page : Page} (written : project.page.outcome = .ok page)
    (name : Declaration -> String) :
    page.declarations.map name =
      project.declaredKeys.map fun key => name (project.declaration key) := by
  rw [((page_eq_ok_iff page).mp written).2.2.2.2, declarations, List.map_map]
  rfl

/-- What the declarations of a page say is what they were made from. -/
theorem declarations_say {page : Page} (written : project.page.outcome = .ok page)
    {declaration : Declaration} (listed : declaration ∈ page.declarations) :
    DeclaresAs (declaration.text project.options) declaration.tag ∧
      GivesClass (declaration.text project.options) declaration.className := by
  rw [((page_eq_ok_iff page).mp written).2.2.2.2] at listed
  rcases List.mem_map.mp listed with ⟨key, _, rfl⟩
  exact ⟨declaresAs_declaration project _ key, givesClass_declaration project _ key⟩

/-- Whenever a project has markup, everything that its page declares, layers and
previews together, has a name of its own, and every layer has a class of its own.  The
names and classes are those that stand in the texts of which the markup consists. -/
theorem page_names_nodup {markup : String} (translated : project.translate.outcome = .ok markup) :
    Exists fun page => project.page.outcome = .ok page ∧
      page.markup? project.options = .ok markup ∧ markup = page.text project.options ∧
      (page.declarations.map (·.tag) ++ page.allPreviews.map (·.previewTag)).Nodup ∧
      (page.declarations.map (·.className)).Nodup ∧
      (forall declaration, declaration ∈ page.declarations ->
        DeclaresAs (declaration.text project.options) declaration.tag ∧
          GivesClass (declaration.text project.options) declaration.className) ∧
      forall preview, preview ∈ page.allPreviews ->
        DeclaresAs (preview.text project.options) preview.previewTag := by
  rcases exists_page_of_translate translated with ⟨page, written, text, same⟩
  have all := nodup_declared_and_preview_tags project
  refine ⟨page, written, text, same, ?_, ?_, fun _ listed => declarations_say written listed, ?_⟩
  · rw [map_page_declarations written, previewTags_of_page written]
    split
    · exact all
    · rw [List.append_nil]
      exact (List.nodup_append.mp all).1
  · rw [map_page_declarations written]
    apply nodup_map_declaredKeys
    intro first second firstValid secondValid sameFile same
    exact Scene.className_injective firstValid secondValid sameFile same
  · intro preview listed
    rcases exists_component_of_mem written listed with ⟨_, component, member, made⟩
    exact declaresAs_preview member made _

/-- A document that consists of one component, with previews and without
positions. -/
def singleComponent (children : List Node) : Project where
  scene :=
    { main := .ofDocument (.ofRoot (.container "0:0" "Document" .document
        [.container "1:1" "Card" (.component false .blank) children]))
      imports := [] }
  options := ⟨false, true⟩
  outputPath := ""

/-- Layers that share an id and differ in nothing but the case of their names are
told apart, also from a component inside the component. -/
theorem repeated_label_names_nodup :
    Exists fun page =>
      (singleComponent
        [ .leaf "1:2" "Label" (.text "x" .blank .blank),
          .leaf "1:2" "label" (.text "y" .blank .blank),
          .container "1:1" "card" (.component false .blank) [] ]).page.outcome = .ok page ∧
      (page.declarations.map (·.tag) ++ page.allPreviews.map (·.previewTag)).Nodup ∧
      (page.declarations.map (·.className)).Nodup ∧
      forall declaration, declaration ∈ page.declarations ->
        DeclaresAs (declaration.text ⟨false, true⟩) declaration.tag ∧
          GivesClass (declaration.text ⟨false, true⟩) declaration.className := by
  let project := singleComponent
    [ .leaf "1:2" "Label" (.text "x" .blank .blank),
      .leaf "1:2" "label" (.text "y" .blank .blank),
      .container "1:1" "card" (.component false .blank) [] ]
  have ended : project.page.outcome.isOk = true := by decide +kernel
  rcases exists_translate_iff.mpr ended with ⟨markup, translated⟩
  rcases page_names_nodup translated with ⟨page, made, _, _, names, classes, said, _⟩
  exact ⟨page, made, names, classes, said⟩

end Project
end SceneMarkup
