import SceneMarkup.Proofs.FirstFault
import SceneMarkup.Proofs.Markup.Faults
import SceneMarkup.Proofs.Markup.PreviewLines

namespace SceneMarkup
namespace Project

/-!
# What keeps a preview from being written

A preview needs the component of every instance that it shows, and in the component a
text for each text of the instance.  Nothing else can be missing: a component refers to
itself, and what is below an instance or a component is left to its own preview.  If a
preview cannot be written, the first instance it shows whose reference cannot be made is
to blame.
-/

variable {project : Project}

/-- What a preview needs of an instance: its component and the reference to it. -/
def instanceReference (project : Project) (inDeclaration : Bool) (key : NodeKey) :
    Except Fault PreviewReference := do
  let component ← project.resolveComponent key
  project.previewReference key component inDeclaration

/-- Whether a preview goes on below a node. -/
def goesBelow (project : Project) (file : FileRef) (place : Nat) : Bool :=
  ! ((project.node ⟨file, place⟩).isInstance || (project.node ⟨file, place⟩).isComponent)

/-- The instances among the nodes that a preview comes to. -/
def instancesAt (project : Project) (file : FileRef) (index : Nat) (node : Node) :
    List NodeKey :=
  ((Document.walkAt (fun _ _ => true) (project.goesBelow file) index node).map
    (NodeKey.mk file)).filter fun key => (project.node key).isInstance

/-- The same among siblings. -/
def instancesFrom (project : Project) (file : FileRef) (next : Nat) (nodes : List Node) :
    List NodeKey :=
  ((Document.walkFrom (fun _ _ => true) (project.goesBelow file) next nodes).map
    (NodeKey.mk file)).filter fun key => (project.node key).isInstance

theorem exists_own_reference {key : NodeKey} (valid : project.scene.IsNode key)
    (inDeclaration : Bool) :
    Exists fun target => project.previewReference key key inDeclaration = .ok target := by
  apply Fault.Confined.exists_ok
  apply Fault.Confined.map
  apply Fault.Confined.mapM
  intro text member
  rcases exists_own_textProp valid member inDeclaration with ⟨prop, made⟩
  rw [made]
  exact .ok prop

theorem children_eq_nil_of_isText {node : Node} (isText : node.isText = true) :
    node.children = [] := by
  cases node with
  | container id name kind children => cases kind <;> cases isText
  | leaf id name kind => rfl

/-- The part of a node needs a reference for an instance, nothing for a component or a
text, and the parts of the children for any other node. -/
theorem previewPart_goesThrough_of_children {file : FileRef} {index : Nat} {trail : List Step}
    {node : Node} (inDeclaration : Bool)
    (held : (project.scene.document file).Holds index trail node)
    (below : Fault.GoesThrough
      (project.previewParts inDeclaration (project.scene.children ⟨file, index⟩))
      (project.instanceReference inDeclaration)
      (project.instancesFrom file (index + 1) node.children)) :
    Fault.GoesThrough (project.previewPart inDeclaration ⟨file, index⟩)
      (project.instanceReference inDeclaration) (project.instancesAt file index node) := by
  have here : project.node ⟨file, index⟩ = node := held.node_eq
  have valid : project.scene.IsNode ⟨file, index⟩ :=
    Nat.lt_of_lt_of_le (Nat.lt_add_of_pos_right node.size_pos) held.end_le
  rw [previewPart, instancesAt, Document.walkAt_eq, if_pos rfl, List.map_cons, List.filter_cons,
    goesBelow, here]
  by_cases isInstance : node.isInstance = true
  · rw [if_pos isInstance, if_pos isInstance, isInstance]
    have item : Fault.GoesThrough
        (project.instanceReference inDeclaration ⟨file, index⟩ >>= fun target =>
          pure (PreviewNode.reference target))
        (project.instanceReference inDeclaration) [⟨file, index⟩] := (Fault.GoesThrough.item _ _).map
    rw [instanceReference, bind_assoc] at item
    exact item
  rw [if_neg isInstance, if_neg isInstance, Bool.eq_false_iff.mpr isInstance]
  by_cases isComponent : node.isComponent = true
  · rcases exists_own_reference valid inDeclaration with ⟨target, referred⟩
    rw [if_pos isComponent, isComponent, referred]
    exact .ok (PreviewNode.reference target)
  rw [if_neg isComponent, Bool.eq_false_iff.mpr isComponent]
  by_cases isText : node.isText = true
  · rw [if_pos isText, children_eq_nil_of_isText isText]
    exact .ok (PreviewNode.text _ _)
  · rw [if_neg isText]
    exact below.map

mutual

/-- The part of a node is missing because of the first instance without a reference. -/
theorem previewPart_goesThrough {file : FileRef} {index : Nat} {trail : List Step}
    (inDeclaration : Bool) : {node : Node} ->
    (project.scene.document file).Holds index trail node ->
      Fault.GoesThrough (project.previewPart inDeclaration ⟨file, index⟩)
        (project.instanceReference inDeclaration) (project.instancesAt file index node)
  | .leaf id name kind, held => by
      apply previewPart_goesThrough_of_children inDeclaration held
      rw [Scene.children, held.children_eq, Node.children, Document.siblings, List.map_nil,
        previewParts]
      exact .ok []
  | .container id name kind children, held => by
      have below : (project.scene.document file).HoldsBelow (index + 1) index 0 trail children :=
        held.below
      apply previewPart_goesThrough_of_children inDeclaration held
      rw [Scene.children, held.children_eq]
      exact previewParts_goesThrough inDeclaration below

theorem previewParts_goesThrough {file : FileRef} {next parent branch : Nat} {trail : List Step}
    (inDeclaration : Bool) : {nodes : List Node} ->
    (project.scene.document file).HoldsBelow next parent branch trail nodes ->
      Fault.GoesThrough
        (project.previewParts inDeclaration
          (((project.scene.document file).siblings next nodes).map (NodeKey.mk file)))
        (project.instanceReference inDeclaration) (project.instancesFrom file next nodes)
  | [], held => by
      rw [Document.siblings, List.map_nil, previewParts]
      exact .ok []
  | node :: rest, held => by
      rw [Document.siblings, held.head.stop_eq, List.map_cons, previewParts, instancesFrom,
        Document.walkFrom, List.map_append, List.filter_append]
      refine (previewPart_goesThrough inDeclaration held.head).bind fun first _ => ?_
      exact (previewParts_goesThrough inDeclaration held.tail).map

end

/-- A preview comes to a node if no instance and no component stands above it; those are
shown as references. -/
def IsShownBelow (project : Project) (top key : NodeKey) : Prop :=
  forall above, project.scene.Contains top above -> project.scene.Contains above key ->
    above ≠ key -> (project.node above).isInstance = false ∧
      (project.node above).isComponent = false

theorem open_iff_isShownBelow {top : NodeKey} {place : Nat}
    (covers : (project.scene.document top.file).Covers top.index place) :
    (project.scene.document top.file).Open (fun _ _ => true) (project.goesBelow top.file)
        top.index place ↔ project.IsShownBelow top ⟨top.file, place⟩ := by
  have valid : project.scene.IsNode ⟨top.file, place⟩ := covers.lower_valid
  have inside : project.scene.Contains top ⟨top.file, place⟩ :=
    (Scene.contains_iff valid top).mpr ⟨rfl, covers⟩
  rw [IsShownBelow, Scene.forall_between_iff valid inside]
  constructor
  · intro free above lower reaches different
    have goes := (free above lower reaches).2 fun same => different (congrArg _ same)
    rw [goesBelow, Bool.not_eq_true', Bool.or_eq_false_iff] at goes
    exact goes
  · intro shown above lower reaches
    refine ⟨rfl, fun different => ?_⟩
    rw [goesBelow, Bool.not_eq_true', Bool.or_eq_false_iff]
    exact shown above lower reaches fun same => different (NodeKey.mk.inj same).2

open Classical in
/-- The instances that a preview comes to, in pre-order. -/
noncomputable def shownInstances (project : Project) (top : NodeKey) : List NodeKey :=
  (project.scene.subtree top).filter fun key =>
    (project.node key).isInstance && decide (project.IsShownBelow top key)

open Classical in
theorem instancesAt_eq {top : NodeKey} (valid : project.scene.IsNode top) :
    project.instancesAt top.file top.index (project.node top) = project.shownInstances top := by
  have walked : Document.walkAt (fun _ _ => true) (project.goesBelow top.file) top.index
      (project.node top) = _ := Document.walkAt_eq_filter valid
  rw [instancesAt, walked, shownInstances, Scene.subtree, List.filter_map, List.filter_filter,
    List.filter_map]
  congr 1
  apply List.filter_congr
  intro place inside
  have covers := (Document.mem_subtree_iff _ top.index place).mp inside
  change (_ && decide _) = (_ && decide _)
  rw [decide_eq_decide.mpr (open_iff_isShownBelow covers)]
  rfl

/-- The part of a node is missing because of the first instance shown there whose
reference cannot be made. -/
theorem previewPart_goesThrough_shownInstances (inDeclaration : Bool) (key : NodeKey) :
    Fault.GoesThrough (project.previewPart inDeclaration key)
      (project.instanceReference inDeclaration) (project.shownInstances key) := by
  by_cases valid : project.scene.IsNode key
  · have whole := previewPart_goesThrough inDeclaration
      ((project.scene.document key.file).holds valid)
    rw [← instancesAt_eq valid]
    exact whole
  · have blank : project.node key = Node.blank := Document.node_eq_blank valid
    rw [shownInstances, Scene.subtree_eq_nil valid, List.filter_nil, previewPart, blank,
      Scene.children_eq_nil valid, previewParts]
    exact .ok (PreviewNode.element _ [])

/-- What the stack writes for a node, at the start of a line, is the rendering of the
node at the depth of the writer.  The rendering goes down the tree: a reference is one
line, and everything else opens, holds a text or its children one level deeper, and
closes.  No line is broken by what stands in it.  If nothing is written, that is
because of the first instance shown there whose reference cannot be made. -/
theorem writePreview_renders (project : Project) (inDeclaration : Bool) (key : NodeKey)
    (buffer : String) (depth : Nat) :
    project.writePreview inDeclaration [.node key] ⟨buffer, depth, true⟩ =
        ((project.rendering inDeclaration depth key).map fun lines =>
          ⟨buffer ++ Line.joined lines, depth, true⟩) ∧
      project.rendering inDeclaration depth key =
        project.renderingOver inDeclaration depth (project.rendering inDeclaration (depth + 1))
          key ∧
      (forall lines, project.rendering inDeclaration depth key = .ok lines ->
        forall line, line ∈ lines -> Unbroken line.text) ∧
      forall fault, project.writePreview inDeclaration [.node key] ⟨buffer, depth, true⟩ =
          .error fault ↔
        Fault.FailsFirst (project.instanceReference inDeclaration) (project.shownInstances key)
          fault := by
  refine ⟨writePreview_eq_rendering project inDeclaration key buffer depth,
    rendering_eq project inDeclaration depth key, ?_, ?_⟩
  · intro lines rendered
    rcases (Fault.bind_eq_ok_iff _ _ _).mp rendered with ⟨part, made, same⟩
    rw [← Except.ok.inj same]
    exact (lines_unbroken project inDeclaration (previewLayoutAttribute_unbroken _ _)).of_part key
      made depth
  · intro fault
    rw [← previewPart_goesThrough_shownInstances inDeclaration key fault, writePreview_eq_rendering,
      rendering]
    cases project.previewPart inDeclaration key <;> simp [Except.map]

end Project
end SceneMarkup
