import SceneMarkup.Export.Plan
import SceneMarkup.Proofs.FirstPlaces
import SceneMarkup.Proofs.Index.Lookup
import SceneMarkup.Proofs.Naming.Documents

namespace SceneMarkup

/-!
# What an export plan lists

Images are planned for a document on its own, without the files it imports and
without the options of its markup.  Neither matters: which layers lie inside
components, which exports they want and what the files are called depends on
the document alone.  And how images are sorted into batches decides where a file
is listed, not whether it is.  So the files of a plan can be named without it:
they are those of the exports that can be made, for all layers inside components.
-/

/-- The names of all files that are to be fetched. -/
def ExportPlan.fileNames (plan : ExportPlan) : List String :=
  (plan.batches.flatMap (·.nodes)).map (·.fileName)

/-! ## Batches -/

theorem ExportBatch.mem_nodes_add (setting : ExportSetting) (added : ExportedNode)
    (batches : List ExportBatch) (exported : ExportedNode) :
    exported ∈ (ExportBatch.add setting added batches).flatMap (·.nodes) ↔
      exported ∈ batches.flatMap (·.nodes) ∨ exported = added := by
  induction batches with
  | nil => simp [ExportBatch.add]
  | cons batch rest ih =>
      rw [ExportBatch.add]
      split
      · simp only [List.flatMap_cons, List.mem_append, List.mem_singleton, or_assoc, or_comm]
      · rw [List.flatMap_cons, List.flatMap_cons, List.mem_append, List.mem_append, ih, or_assoc]

namespace Project

variable {project : Project}

/-- The image that is made by an export. -/
def exportedNode (project : Project) (planned : NodeKey × ExportSetting) : ExportedNode :=
  ⟨(project.node planned.1).id, project.scene.exportFileName planned.1 planned.2⟩

theorem mem_nodes_foldl_add (exported : ExportedNode)
    (planned : List (NodeKey × ExportSetting)) (batches : List ExportBatch) :
    exported ∈ (planned.foldl (fun batches entry =>
        ExportBatch.add entry.2 (project.exportedNode entry) batches) batches).flatMap (·.nodes) ↔
      exported ∈ batches.flatMap (·.nodes) ∨
        Exists fun entry => entry ∈ planned ∧ exported = project.exportedNode entry := by
  induction planned generalizing batches with
  | nil => simp only [List.foldl_nil, List.not_mem_nil, false_and, exists_false, or_false]
  | cons first rest ih =>
      rw [List.foldl_cons, ih, ExportBatch.mem_nodes_add, or_assoc]
      simp only [List.mem_cons, exists_eq_or_imp]

/-- Whatever batch it comes in, every planned export is listed. -/
theorem mem_nodes_exportBatches_iff (exported : ExportedNode) :
    exported ∈ project.exportBatches.flatMap (·.nodes) ↔
      Exists fun planned => planned ∈ project.plannedExports ∧
        exported = project.exportedNode planned := by
  refine (mem_nodes_foldl_add exported project.plannedExports []).trans ?_
  simp only [List.flatMap_nil, List.not_mem_nil, false_or]

theorem distinctKeys_eq_eraseDups (keys : List NodeKey) : distinctKeys keys = keys.eraseDups := by
  induction keys with
  | nil => rfl
  | cons key rest ih => rw [distinctKeys, ih, eraseDups_cons_eq]

theorem mem_componentNodes_iff (key : NodeKey) :
    key ∈ project.componentNodes ↔
      Exists fun component => component ∈ project.components ∧
        project.scene.Contains component key := by
  rw [componentNodes, distinctKeys_eq_eraseDups, List.mem_eraseDups, List.mem_flatMap]
  apply exists_congr
  intro component
  apply and_congr_right
  intro member
  exact Scene.mem_subtree_iff ((mem_components_iff component).mp member).2.1 key

/-- An export of a layer inside a component that can be made. -/
def IsPlanned (project : Project) (key : NodeKey) (setting : ExportSetting) : Prop :=
  (Exists fun component => component ∈ project.components ∧
      project.scene.Contains component key) ∧
    setting ∈ (project.node key).exportSettings ∧ setting.isSupported = true

theorem mem_plannedExports_iff (key : NodeKey) (setting : ExportSetting) :
    (key, setting) ∈ project.plannedExports ↔ project.IsPlanned key setting := by
  rw [plannedExports, List.mem_flatMap, IsPlanned, ← mem_componentNodes_iff]
  simp only [List.mem_map, List.mem_filter, Prod.mk.injEq]
  constructor
  · rintro ⟨other, member, wanted, ⟨listed, supported⟩, sameKey, same⟩
    rw [← sameKey, ← same]
    exact ⟨member, listed, supported⟩
  · rintro ⟨member, listed, supported⟩
    exact ⟨key, member, setting, ⟨listed, supported⟩, rfl, rfl⟩

/-! ## A document on its own -/

/-- The document of a project on its own, with the standard options. -/
def alone (project : Project) : Project :=
  ⟨⟨project.scene.main, []⟩, Options.standard, ""⟩

theorem build_alone {root : Node} {imports : Imports} {options : Options} {outputPath : String}
    (built : build root imports options outputPath = .ok project) :
    build root OrderedMap.empty Options.standard "" = .ok project.alone := by
  unfold build Scene.build at built ⊢
  split at built
  · cases built
  · rename_i scene made
    split at made
    · cases made
    · rename_i isDocument
      rw [if_neg isDocument]
      cases indexed : Document.ofNode? root with
      | error fault =>
          rw [indexed] at made
          cases made
      | ok document =>
          rw [indexed] at made
          dsimp only at made
          split at made
          · cases made
          · rw [← Except.ok.inj built, ← Except.ok.inj made]
            rfl

theorem components_alone : project.alone.components = project.components := rfl

theorem node_alone {key : NodeKey} (main : key.file = .main) :
    project.alone.node key = project.node key := by
  cases key
  cases main
  rfl

theorem contains_alone_iff {key : NodeKey} (main : key.file = .main) (above : NodeKey) :
    project.alone.scene.Contains above key ↔ project.scene.Contains above key := by
  cases key
  cases main
  rfl

/-- A node of the document is called the same with imports and without. -/
theorem uniqueName_alone {key : NodeKey} (main : key.file = .main) :
    project.alone.scene.uniqueName key = project.scene.uniqueName key := by
  cases key with
  | mk file index =>
      cases main
      have same : project.alone.scene.named .main = project.scene.named .main := rfl
      exact (Scene.sameNames_of_named_eq same index).uniqueName

/-! ## What a plan lists -/

/-- The export file of a node of the document is called the same with imports and
without. -/
theorem exportFileName_alone {key : NodeKey} (main : key.file = .main) (setting : ExportSetting) :
    project.alone.scene.exportFileName key setting = project.scene.exportFileName key setting := by
  rw [Scene.exportFileName_eq, Scene.exportFileName_eq, uniqueName_alone main]

theorem main_of_contains (project : Project) {component key : NodeKey}
    (member : component ∈ project.components) (contains : project.scene.Contains component key) :
    key.file = .main := by
  rcases (mem_components_iff component).mp member with ⟨main, valid, _⟩
  exact ((Scene.contains_iff (contains.isNode valid) component).mp contains).1.symm.trans main

theorem isPlanned_alone_iff (key : NodeKey) (setting : ExportSetting) :
    project.alone.IsPlanned key setting ↔ project.IsPlanned key setting := by
  unfold IsPlanned
  rw [components_alone]
  constructor
  · rintro ⟨⟨component, member, contains⟩, wanted⟩
    have main := main_of_contains project.alone member contains
    rw [node_alone main] at wanted
    exact ⟨⟨component, member, (contains_alone_iff main component).mp contains⟩, wanted⟩
  · rintro ⟨⟨component, member, contains⟩, wanted⟩
    have main := main_of_contains project member contains
    rw [node_alone main]
    exact ⟨⟨component, member, (contains_alone_iff main component).mpr contains⟩, wanted⟩

/-- The exports of a document can be planned as soon as its markup can be worked
on, and the plan lists the files of the exports of layers inside components that
can be made. -/
theorem exists_plan {root : Node} {imports : Imports} {options : Options} {outputPath : String}
    (built : build root imports options outputPath = .ok project) :
    Exists fun plan => (planExports root).outcome = .ok plan ∧
      forall fileName, fileName ∈ plan.fileNames ↔
        Exists fun key => Exists fun setting => project.IsPlanned key setting ∧
          fileName = project.scene.exportFileName key setting := by
  refine ⟨⟨project.alone.exportBatches, Warning.distinct project.alone.exportPlanWarnings⟩, ?_, ?_⟩
  · unfold planExports
    rw [build_alone built]
    rfl
  · intro fileName
    rw [ExportPlan.fileNames, List.mem_map]
    simp only [mem_nodes_exportBatches_iff]
    constructor
    · rintro ⟨exported, ⟨⟨key, setting⟩, listed, same⟩, named⟩
      have planned := (isPlanned_alone_iff key setting).mp ((mem_plannedExports_iff _ _).mp listed)
      rcases planned.1 with ⟨component, member, contains⟩
      refine ⟨key, setting, planned, ?_⟩
      rw [← named, same]
      exact exportFileName_alone (main_of_contains project member contains) setting
    · rintro ⟨key, setting, planned, named⟩
      rcases planned.1 with ⟨component, member, contains⟩
      have main := main_of_contains project member contains
      have listed :=
        (mem_plannedExports_iff _ _).mpr ((isPlanned_alone_iff key setting).mpr planned)
      refine ⟨_, ⟨(key, setting), listed, rfl⟩, ?_⟩
      exact (exportFileName_alone main setting).trans named.symm

end Project
end SceneMarkup
