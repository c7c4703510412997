import SceneMarkup.Proofs.FirstFault
import SceneMarkup.Proofs.Index.Flattening
import SceneMarkup.Proofs.Index.PlacedComponents
import SceneMarkup.Proofs.Markup.Faults

namespace SceneMarkup

/-!
# Instances without a component

An instance whose component is nowhere to be found ends a translation.  Components
are looked up at several places: all instances of the main document are resolved
first, and then again when overrides are followed and references are made, where
instances of imported files come up as well.

Where an id leads is said here in terms of the trees alone.  An instance is stranded
if its component id leads nowhere.  Resolving the instances of the main document is
work on the nodes of its tree in pre-order that passes over everything but instances,
so it ends at the first stranded one.  Once it has succeeded, no instance of the main
document can be blamed any more: whatever resolves it again does so with the same
result.
-/

namespace Node

/-- A tree has a node with an id. -/
def HasId (root : Node) (id : String) : Prop :=
  Exists fun node => node ∈ root.preorder ∧ node.id = id

instance (root : Node) (id : String) : Decidable (root.HasId id) :=
  inferInstanceAs (Decidable (Exists fun node => node ∈ root.preorder ∧ node.id = id))

/-- Instances are the nodes with a component id. -/
theorem isInstance_eq (node : Node) : node.isInstance = node.componentId?.isSome := by
  cases node with
  | container id name kind children => cases kind <;> rfl
  | leaf id name kind =>
      cases kind with
      | shape outline layer => cases outline <;> rfl
      | rectangle | text => rfl

end Node

/-- An imported file knows an id: without its qualifier by an alias for a node that the
file holds, or by itself. -/
def ImportedFile.KnowsId (file : ImportedFile) (id : String) : Prop :=
  (Exists fun meant => meant ∈ file.aliases.get? (InstanceId.unqualified id) ∧
    file.document.HasId meant) ∨ file.document.HasId id

instance (file : ImportedFile) (id : String) : Decidable (file.KnowsId id) :=
  inferInstanceAs (Decidable (_ ∨ _))

/-- An id leads to a node of the main tree, or to one of an imported file. -/
def LeadsToNode (root : Node) (imports : Imports) (id : String) : Prop :=
  root.HasId id ∨ Exists fun entry => entry ∈ imports.entries ∧ entry.2.KnowsId id

instance (root : Node) (imports : Imports) (id : String) :
    Decidable (LeadsToNode root imports id) :=
  inferInstanceAs (Decidable (_ ∨ _))

/-- The component id of an instance leads to no node. -/
def IsStrandedFor (root : Node) (imports : Imports) (node : Node) (componentId : String) : Prop :=
  componentId ∈ node.componentId? ∧ ¬ LeadsToNode root imports componentId

/-- A node is an instance without a component. -/
def IsStranded (root : Node) (imports : Imports) (node : Node) : Prop :=
  Exists fun componentId => IsStrandedFor root imports node componentId

instance (root : Node) (imports : Imports) (node : Node) :
    Decidable (IsStranded root imports node) :=
  inferInstanceAs (Decidable (Exists fun componentId => componentId ∈ node.componentId? ∧
    ¬ LeadsToNode root imports componentId))

/-! ## Where ids lead -/

theorem Document.find?_ofRoot_eq_none_iff (root : Node) (id : String) :
    (Document.ofRoot root).find? id = none ↔ ¬ root.HasId id := by
  rw [Document.find?_eq_none_iff, Node.HasId]
  simp only [not_exists, not_and]
  rfl

/-- An instance that a position leads to is a node of the tree. -/
theorem Document.node_mem_preorder {document : Document} {index : Nat}
    (isInstance : (document.node index).isInstance = true) :
    document.node index ∈ document.root.preorder := by
  by_cases valid : index < document.size
  · rw [← document.holds_root.map_node, ← Document.size_eq]
    exact List.mem_map_of_mem (List.mem_range'_1.mpr ⟨Nat.zero_le _, by omega⟩)
  · rw [Document.node_eq_blank valid] at isInstance
    cases isInstance

namespace Scene

theorem holds_indexedFile_iff (entry : String × ImportedFile) (id : String) :
    (indexedFile entry).Holds id ↔ entry.2.document.HasId id := by
  rw [IndexedImport.Holds, Option.isSome_iff_ne_none, ← not_iff_not, not_not]
  exact Document.find?_ofRoot_eq_none_iff entry.2.document id

theorem knows_indexedFile_iff (entry : String × ImportedFile) (id : String) :
    (indexedFile entry).Knows id ↔ entry.2.KnowsId id := by
  simp only [IndexedImport.knows_iff, IndexedImport.HasAlias, IndexedImport.Means,
    holds_indexedFile_iff]
  rfl

/-- An id is unknown to a scene exactly if it leads to no node of its trees. -/
theorem isUnknown_ofTrees_iff (root : Node) (imports : Imports) (id : String) :
    (ofTrees root imports).IsUnknown id ↔ ¬ LeadsToNode root imports id := by
  have main : (ofTrees root imports).find? .main id = none ↔ ¬ root.HasId id :=
    find?_main_eq_none_iff.trans (Document.find?_ofRoot_eq_none_iff root id)
  rw [IsUnknown, main, LeadsToNode, not_or, ofTrees, List.forall_mem_map]
  simp only [knows_indexedFile_iff, not_exists, not_and]

/-- What a node of the main document places: nothing, if it is no instance. -/
def placedBy (scene : Scene) (node : Node) : Except Fault (Option NodeKey) :=
  match node.componentId? with
  | none => .ok none
  | some componentId =>
      match scene.resolveNode? componentId with
      | some component => .ok (some component)
      | none => .error (.componentNotFound node.id node.name componentId)

theorem placedBy_eq_error_iff (root : Node) (imports : Imports) (node : Node) (fault : Fault) :
    (ofTrees root imports).placedBy node = .error fault ↔
      Exists fun componentId => IsStrandedFor root imports node componentId ∧
        fault = .componentNotFound node.id node.name componentId := by
  have leads (componentId : String) : (ofTrees root imports).resolveNode? componentId = none ↔
      ¬ LeadsToNode root imports componentId :=
    resolveNode?_eq_none_iff.trans (isUnknown_ofTrees_iff root imports componentId)
  constructor
  · intro failed
    rw [placedBy] at failed
    cases placed : node.componentId? with
    | none => simp only [placed, reduceCtorEq] at failed
    | some componentId =>
        cases found : (ofTrees root imports).resolveNode? componentId with
        | some component => simp only [placed, found, reduceCtorEq] at failed
        | none =>
            simp only [placed, found, Except.error.injEq] at failed
            exact ⟨componentId, ⟨placed, (leads componentId).mp found⟩, failed.symm⟩
  · rintro ⟨componentId, ⟨placed, nowhere⟩, rfl⟩
    simp only [placedBy, Option.mem_def.mp placed, (leads componentId).mpr nowhere]

/-- A node that is not stranded keeps nothing from being resolved. -/
theorem exists_placedBy_iff (root : Node) (imports : Imports) (node : Node) :
    (Exists fun placed => (ofTrees root imports).placedBy node = .ok placed) ↔
      ¬ IsStranded root imports node := by
  have fails := placedBy_eq_error_iff root imports node
  cases result : (ofTrees root imports).placedBy node with
  | ok placed =>
      refine iff_of_true ⟨placed, rfl⟩ ?_
      rintro ⟨componentId, stranded⟩
      cases result.symm.trans ((fails _).mpr ⟨componentId, stranded, rfl⟩)
  | error fault =>
      refine iff_of_false nofun (not_not_intro ?_)
      rcases (fails fault).mp result with ⟨componentId, stranded, _⟩
      exact ⟨componentId, stranded⟩

end Scene

namespace Project

variable {project : Project}

/-- Resolving an instance of the main document takes nothing but its node. -/
theorem placedBy_of_main (index : Nat) :
    (if (project.node ⟨.main, index⟩).isInstance then
        (project.resolveComponent ⟨.main, index⟩).map some else .ok none) =
      project.scene.placedBy ((project.scene.document .main).node index) := by
  have here : (project.scene.document .main).node index = project.node ⟨.main, index⟩ := rfl
  rw [here, Node.isInstance_eq, Scene.placedBy]
  cases placed : (project.node ⟨.main, index⟩).componentId? with
  | none => rfl
  | some componentId =>
      rw [resolveComponent_of_looksAcross placed (Or.inl rfl), Option.isSome_some, if_pos rfl]
      cases found : project.scene.resolveNode? componentId <;> simp only [found, Except.map]

/-- Resolving the instances of the main document goes through the nodes of its tree. -/
theorem resolveInstances_goesThrough_nodes (project : Project) :
    Fault.GoesThrough project.resolveInstances project.scene.placedBy
      (project.scene.document .main).root.preorder := by
  intro fault
  rw [resolveInstances_goesThrough project fault, instances, Fault.failsFirst_filter_iff,
    Fault.failsFirst_map_iff]
  simp only [placedBy_of_main]
  rw [← Fault.failsFirst_map_iff, List.range_eq_range', Document.size_eq,
    (project.scene.document .main).holds_root.map_node]

/-! ## Missing components of other files -/

/-- A fault does not blame an instance of the main document: if it is about a missing
component, then about that of a stranded instance of an imported file. -/
def BlamesImported (root : Node) (imports : Imports) (fault : Fault) : Prop :=
  forall instanceId instanceName componentId,
    fault = .componentNotFound instanceId instanceName componentId ->
      Exists fun entry => entry ∈ imports.entries ∧ Exists fun node =>
        node ∈ entry.2.document.preorder ∧ IsStrandedFor root imports node componentId ∧
          node.id = instanceId ∧ node.name = instanceName

/-- What cannot be resolved is an instance with an unknown id, and it is blamed. -/
theorem isUnknown_of_resolveComponent {key : NodeKey} {componentId : String} {fault : Fault}
    (placed : (project.node key).componentId? = some componentId)
    (failed : project.resolveComponent key = .error fault) :
    project.scene.IsUnknown componentId ∧
      fault = .componentNotFound (project.node key).id (project.node key).name componentId := by
  have blamed : fault =
      .componentNotFound (project.node key).id (project.node key).name componentId := by
    rw [resolveComponent, placed] at failed
    dsimp only at failed
    split at failed
    · cases failed
    · split at failed
      · cases failed
      · exact (Except.error.inj failed).symm
  rw [blamed] at failed
  exact ⟨((resolveComponent_eq_error_iff placed).mp failed).2, blamed⟩

variable {root : Node} {imports : Imports} {options : Options} {outputPath : String}

/-- An address that leads to an instance leads into the main tree or into an imported
one. -/
theorem exists_tree_of_isInstance {key : NodeKey}
    (isInstance : ((Scene.ofTrees root imports).node key).isInstance = true) :
    (Scene.ofTrees root imports).node key ∈ root.preorder ∨
      Exists fun entry => entry ∈ imports.entries ∧
        (Scene.ofTrees root imports).node key ∈ entry.2.document.preorder := by
  have listed := Document.node_mem_preorder isInstance
  rcases key with ⟨_ | place, index⟩
  · exact Or.inl listed
  · cases imported : imports.entries[place]? with
    | none =>
        -- A file that does not exist is read as a tree without instances.
        have blank : (Scene.ofTrees root imports).document (.imported place) =
            .ofRoot Node.blank := by
          rw [Scene.document, Scene.named, Scene.ofTrees, List.getElem?_map, imported]
          rfl
        rw [blank] at listed
        rw [Scene.node, blank, List.mem_singleton.mp listed] at isInstance
        cases isInstance
    | some entry =>
        right
        refine ⟨entry, List.mem_of_getElem? imported, ?_⟩
        rw [Scene.document, Scene.named_imported imported] at listed
        rw [Scene.node, Scene.document, Scene.named_imported imported]
        exact listed

/-- If no instance of the main tree is stranded, instances that are resolved blame
imported files only. -/
theorem resolvesWithin_blamesImported
    (free : forall node, node ∈ root.preorder -> ¬ IsStranded root imports node) :
    ResolvesWithin ⟨Scene.ofTrees root imports, options, outputPath⟩
      (BlamesImported root imports) where
  mismatches nodeId nodeName instanceId := by
    intro _ _ _ impossible
    cases impossible
  resolves key isInstance := by
    rintro fault failed instanceId instanceName componentId rfl
    rcases Option.isSome_iff_exists.mp ((Node.isInstance_eq _).symm.trans isInstance) with
      ⟨named, placed⟩
    rcases isUnknown_of_resolveComponent placed failed with ⟨unknown, blamed⟩
    rcases Fault.componentNotFound.inj blamed with ⟨sameId, sameName, rfl⟩
    have stranded : IsStrandedFor root imports _ componentId :=
      ⟨placed, (Scene.isUnknown_ofTrees_iff root imports componentId).mp unknown⟩
    rcases exists_tree_of_isInstance isInstance with inMain | ⟨entry, imported, inImport⟩
    · exact absurd ⟨componentId, stranded⟩ (free _ inMain)
    · exact ⟨entry, imported, _, inImport, stranded, sameId.symm, sameName.symm⟩

/-- Instances that lead nowhere are found first and everywhere.  If one of the main
document is stranded, inside a component or not, then a translation ends with the first
of them in pre-order, before anything else is reported.  Otherwise a missing component
is always that of an instance of an imported file. -/
theorem stranded_instances_reported_first (root : Node) (imports : Imports) (options : Options)
    (outputPath : String) (indexable : Scene.Indexable root imports) :
    let translated := (Reported.ofExcept (build root imports options outputPath)).bind translate
    ((Exists fun node => node ∈ root.preorder ∧ IsStranded root imports node) ->
      Exists fun before => Exists fun node => Exists fun after => Exists fun componentId =>
        root.preorder = before ++ node :: after ∧
          (forall earlier, earlier ∈ before -> ¬ IsStranded root imports earlier) ∧
          IsStrandedFor root imports node componentId ∧
          translated = .fail (.componentNotFound node.id node.name componentId)) ∧
    ((forall node, node ∈ root.preorder -> ¬ IsStranded root imports node) ->
      forall fault, translated.outcome = .error fault -> BlamesImported root imports fault) := by
  intro translated
  let project : Project := ⟨Scene.ofTrees root imports, options, outputPath⟩
  have built : build root imports options outputPath = .ok project :=
    (build_eq_ok_iff root imports options outputPath project).mpr ⟨indexable, rfl⟩
  have same : translated = project.translate := by
    change (Reported.ofExcept (build root imports options outputPath)).bind translate = _
    rw [built]
    exact pure_bind project translate
  constructor
  · rintro ⟨stranded, member, nowhere⟩
    have blocked : ¬ forall node, node ∈ root.preorder ->
        Exists fun placed => project.scene.placedBy node = .ok placed := by
      intro free
      exact (Scene.exists_placedBy_iff root imports stranded).mp (free stranded member) nowhere
    rcases (Fault.exists_failsFirst_iff _ _).mpr blocked with ⟨fault, failing⟩
    have failed := (project.resolveInstances_goesThrough_nodes fault).mpr failing
    rcases failing with ⟨before, node, after, split, done, first⟩
    rcases (Scene.placedBy_eq_error_iff root imports node fault).mp first with
      ⟨componentId, strandedFor, rfl⟩
    refine ⟨before, node, after, componentId, split, ?_, strandedFor, ?_⟩
    · intro earlier listed
      exact (Scene.exists_placedBy_iff root imports earlier).mp (done earlier listed)
    · rw [same, translate, failed]
      rfl
  · intro free fault failed
    rw [same] at failed
    exact (resolvesWithin_blamesImported free).keepsWithin.translate fault failed

/-- A library with a badge, in which an icon is placed that nobody has. -/
def badgeLibrary : Imports :=
  OrderedMap.ofList [("lib/badges.pc", ⟨OrderedMap.ofList [("4:1", "9:1")],
    .container "0:0" "Document" .document
      [.container "9:1" "Badge" (.component false .blank)
        [.container "9:2" "Icon" (.placement "3:3" false .blank)
          [.leaf "I9:2;3:4" "Label" (.text "x" .blank .blank)]]]⟩)]

/-- A card that places the badge and overrides the label in it, with instances beside
the card. -/
def badgedCard (beside : List Node) : Node :=
  .container "0:0" "Document" .document
    (.container "1:1" "Card" (.component false .blank)
      [.container "1:2" "Badge" (.placement "I7:7;4:1" false .blank)
        [.container "1:3" "Icon" .group
          [.leaf "I1:2;9:2" "Label" (.text "x" .blank .blank)]]] :: beside)

/-- An instance that nothing is known of but what it places. -/
def strayInstance (id componentId : String) : Node :=
  .container id "Stray" (.placement componentId false .blank) []

/-- Of two strays the first is blamed, although the label in the card cannot be
followed either.  Without them the icon of the library is to blame. -/
theorem strays_blamed_before_icon :
    let strays := badgedCard [strayInstance "2:1" "5:5", strayInstance "2:2" "5:6"]
    let translation (root : Node) :=
      (Reported.ofExcept (build root badgeLibrary .standard "card.pc")).bind translate
    translation strays = .fail (.componentNotFound "2:1" "Stray" "5:5") ∧
      (translation (badgedCard [])).outcome = .error (.componentNotFound "9:2" "Icon" "3:3") ∧
      BlamesImported (badgedCard []) badgeLibrary (.componentNotFound "9:2" "Icon" "3:3") := by
  intro strays translation
  have indexable (beside : List Node) (fits : (badgedCard beside).height <= Node.depthLimit) :
      Scene.Indexable (badgedCard beside) badgeLibrary :=
    ⟨rfl, List.forall_mem_cons.mpr ⟨fits, by decide⟩⟩
  refine ⟨?_, ?_⟩
  · have stranded : Exists fun node => node ∈ strays.preorder ∧
        IsStranded strays badgeLibrary node := by
      decide +kernel
    rcases (stranded_instances_reported_first strays badgeLibrary .standard "card.pc"
      (indexable _ (by decide))).1 stranded with
      ⟨before, node, after, componentId, split, earlier, strandedFor, failed⟩
    have searched : (strays.preorder.find? fun node => IsStranded strays badgeLibrary node).map
        (fun node => (node.id, node.name, node.componentId?)) =
          some ("2:1", "Stray", some "5:5") := by
      decide +kernel
    have first : (strays.preorder.find? fun node => IsStranded strays badgeLibrary node) =
        some node := by
      rw [List.find?_eq_some_iff_append]
      refine ⟨decide_eq_true ⟨componentId, strandedFor⟩, before, after, split, ?_⟩
      intro other listed
      rw [Bool.not_eq_true', decide_eq_false_iff_not]
      exact earlier other listed
    rw [first, Option.map_some, Option.some.injEq, Prod.mk.injEq, Prod.mk.injEq] at searched
    rcases searched with ⟨sameId, sameName, placed⟩
    rw [Option.mem_def.mp strandedFor.1, Option.some.injEq] at placed
    rw [← sameId, ← sameName, ← placed]
    exact failed
  · have failed : (translation (badgedCard [])).outcome =
        .error (.componentNotFound "9:2" "Icon" "3:3") := by
      decide +kernel
    refine ⟨failed, ?_⟩
    exact (stranded_instances_reported_first (badgedCard []) badgeLibrary .standard "card.pc"
      (indexable _ (by decide))).2 (by decide +kernel) _ failed

end Project
end SceneMarkup
