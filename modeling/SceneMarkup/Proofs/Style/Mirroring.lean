import SceneMarkup.Proofs.FirstFault
import SceneMarkup.Proofs.Index.Scene
import SceneMarkup.Proofs.Style.Cascade
import SceneMarkup.Proofs.Style.Nested

namespace SceneMarkup

/-!
# Nested styles mirror the tree

The levels of a nested style stand to each other as the nodes do.  Which levels there
are is said here by going from a level to its children, without the loops that read a
nested style.  Every level is then the nested style of its own node, so what holds at
the top holds at all levels: a level carries the rule style of its node, its children
are those of the node in order, and its walk meets the subtree of the node.

There is no nested style exactly where some node below has no rule style.  The fault is
that of the first such node in pre-order.
-/

/-- A level is another one or lies below it. -/
inductive NestedStyle.Within (inner : NestedStyle) : NestedStyle -> Prop
  | itself : Within inner inner
  | child {outer level : NestedStyle} : level ∈ outer.children -> Within inner level ->
      Within inner outer

namespace Project

variable {project : Project}

/-! ## One level -/

/-- Sibling levels are made from the siblings one by one. -/
theorem forall₂_of_nestedStylesFrom {file : FileRef} {next parent branch : Nat}
    {trail : List Step} : {nodes : List Node} -> {levels : List NestedStyle} ->
    (project.scene.document file).HoldsBelow next parent branch trail nodes ->
      (project.nestedStylesFrom file next nodes).outcome = .ok levels ->
        List.Forall₂ (fun key level => (project.nestedStyle key).outcome = .ok level)
          (((project.scene.document file).siblings next nodes).map (NodeKey.mk file)) levels
  | [], levels, held, made => by
      rw [nestedStylesFrom] at made
      rw [← Except.ok.inj made]
      exact .nil
  | node :: rest, levels, held, made => by
      rw [nestedStylesFrom] at made
      rcases (Reported.outcome_bind_eq_ok_iff _ _ _).mp made with ⟨first, head, tail⟩
      rcases (Reported.outcome_bind_eq_ok_iff _ _ _).mp tail with ⟨others, below, whole⟩
      have here : project.node ⟨file, next⟩ = node := held.head.node_eq
      rw [← Except.ok.inj whole, Document.siblings, held.head.stop_eq, List.map_cons]
      refine .cons ?_ (forall₂_of_nestedStylesFrom held.tail below)
      rw [nestedStyle_eq, here]
      exact head

/-- A nested style carries the rule style of its node, and its children are the nested
styles of the children of the node. -/
theorem nestedStyle_level {key : NodeKey} (valid : project.scene.IsNode key)
    {nested : NestedStyle} (made : (project.nestedStyle key).outcome = .ok nested) :
    nested.key = key ∧ (project.overrideStyle key).outcome = .ok nested.style ∧
      List.Forall₂ (fun child level => (project.nestedStyle child).outcome = .ok level)
        (project.scene.children key) nested.children := by
  have held := (project.scene.document key.file).holds valid
  rw [nestedStyle_eq, nestedStyleAt_eq] at made
  rcases (Reported.outcome_bind_eq_ok_iff _ _ _).mp made with ⟨style, ruled, rest⟩
  rcases (Reported.outcome_bind_eq_ok_iff _ _ _).mp rest with ⟨below, inside, whole⟩
  rw [← Except.ok.inj whole, Scene.children, held.children_eq]
  exact ⟨rfl, ruled, forall₂_of_nestedStylesFrom held.below inside⟩

/-- Every level of a nested style is the nested style of its own node. -/
theorem nestedStyle_of_within {key : NodeKey} (valid : project.scene.IsNode key)
    {nested level : NestedStyle} (made : (project.nestedStyle key).outcome = .ok nested)
    (within : level.Within nested) :
    project.scene.IsNode level.key ∧ (project.nestedStyle level.key).outcome = .ok level := by
  induction within generalizing key with
  | itself =>
      rw [(nestedStyle_level valid made).1]
      exact ⟨valid, made⟩
  | @child outer child isChild within ih =>
      rcases (Fault.mem_of_mapM_eq_ok (nestedStyle_level valid made).2.2 child).mp isChild with
        ⟨childKey, isChildKey, childMade⟩
      exact ih (Scene.isNode_of_mem_children isChildKey) childMade

theorem map_key_of_forall₂ {keys : List NodeKey} {levels : List NestedStyle}
    (made : List.Forall₂ (fun key level => (project.nestedStyle key).outcome = .ok level) keys
      levels)
    (valid : forall key, key ∈ keys -> project.scene.IsNode key) :
    levels.map (·.key) = keys := by
  induction made with
  | nil => rfl
  | cons first _ ih =>
      rw [List.map_cons, ih fun key member => valid key (List.mem_cons_of_mem _ member),
        (nestedStyle_level (valid _ List.mem_cons_self) first).1]

/-! ## The first node without a style -/

mutual

theorem nestedStyleAt_goesThrough (project : Project) (file : FileRef) (index : Nat) :
    (node : Node) -> Fault.GoesThrough (project.nestedStyleAt file index node).outcome
      (fun key => (project.overrideStyle key).outcome)
      ((List.range' index node.size).map (NodeKey.mk file))
  | .leaf id name kind => by
      rw [nestedStyleAt, Reported.outcome_bind]
      exact (Fault.GoesThrough.item (fun key => (project.overrideStyle key).outcome) _).map
  | .container id name kind children => by
      rw [nestedStyleAt, Reported.outcome_bind, Node.size, List.range'_succ, List.map_cons]
      refine (Fault.GoesThrough.item (fun key => (project.overrideStyle key).outcome) _).bind ?_
      intro style _
      rw [Reported.outcome_bind]
      exact .map (nestedStylesFrom_goesThrough project file (index + 1) children)

theorem nestedStylesFrom_goesThrough (project : Project) (file : FileRef) (next : Nat) :
    (nodes : List Node) -> Fault.GoesThrough (project.nestedStylesFrom file next nodes).outcome
      (fun key => (project.overrideStyle key).outcome)
      ((List.range' next (Node.sizeAll nodes)).map (NodeKey.mk file))
  | [] => .ok []
  | node :: rest => by
      rw [nestedStylesFrom, Reported.outcome_bind, Node.sizeAll, ← List.range'_append_1,
        List.map_append]
      refine (nestedStyleAt_goesThrough project file next node).bind ?_
      intro first _
      rw [Reported.outcome_bind]
      exact .map (nestedStylesFrom_goesThrough project file (next + node.size) rest)

end

theorem nestedStyle_goesThrough {key : NodeKey} (valid : project.scene.IsNode key) :
    Fault.GoesThrough (project.nestedStyle key).outcome
      (fun other => (project.overrideStyle other).outcome) (project.scene.subtree key) := by
  rw [nestedStyle_eq, Scene.subtree_eq ((project.scene.document key.file).holds valid)]
  exact nestedStyleAt_goesThrough project key.file key.index (project.node key)

/-! ## The whole tree -/

/-- A nested style mirrors the tree below a node.  Every level has the rule style of
its node, the levels of its children in order, and a declaration in it or below it
exactly if a node of its subtree has one. -/
structure MirrorsSubtree (project : Project) (key : NodeKey) (nested : NestedStyle) : Prop where
  root : nested.key = key
  style : forall level : NestedStyle, level.Within nested ->
    (project.overrideStyle level.key).outcome = .ok level.style
  children : forall level : NestedStyle, level.Within nested ->
    level.children.map (·.key) = project.scene.children level.key
  walk : nested.walk.map Prod.fst = project.scene.subtree key
  walkStyle : forall visited, visited ∈ nested.walk ->
    (project.overrideStyle visited.1).outcome = .ok visited.2
  containsStyle : forall level : NestedStyle, level.Within nested ->
    (level.containsStyle = true ↔ Exists fun other => other ∈ project.scene.subtree level.key ∧
      Exists fun style => (project.overrideStyle other).outcome = .ok style ∧
        style.isEmpty = false)

theorem walk_of_nestedStyle {key : NodeKey} (valid : project.scene.IsNode key)
    {nested : NestedStyle} (made : (project.nestedStyle key).outcome = .ok nested) :
    nested.walk.map Prod.fst = project.scene.subtree key ∧
      forall visited, visited ∈ nested.walk -> project.IsRuled visited := by
  rw [nestedStyle_eq] at made
  rw [Scene.subtree_eq ((project.scene.document key.file).holds valid)]
  exact walk_of_nestedStyleAt made

/-- A level or one below it carries a declaration if the style of a node in the subtree
does. -/
theorem containsStyle_of_nestedStyle {key : NodeKey} (valid : project.scene.IsNode key)
    {nested : NestedStyle} (made : (project.nestedStyle key).outcome = .ok nested) :
    nested.containsStyle = true ↔ Exists fun other => other ∈ project.scene.subtree key ∧
      Exists fun style => (project.overrideStyle other).outcome = .ok style ∧
        style.isEmpty = false := by
  rcases walk_of_nestedStyle valid made with ⟨visits, ruled⟩
  rw [NestedStyle.containsStyle_eq_true_iff, ← visits]
  constructor
  · rintro ⟨level, member, styled⟩
    have walked : (level.key, level.style) ∈ nested.walk := List.mem_map_of_mem member
    have own := ruled (level.key, level.style) walked
    exact ⟨level.key, List.mem_map.mpr ⟨_, walked, rfl⟩, level.style, own, styled⟩
  · rintro ⟨other, inside, style, ruledOther, styled⟩
    rcases List.mem_map.mp inside with ⟨visited, walked, same⟩
    rcases List.mem_map.mp walked with ⟨level, member, shown⟩
    have carries : level.style = style := by
      have own := ruled visited walked
      rw [IsRuled, same, ruledOther, ← shown] at own
      exact (Except.ok.inj own).symm
    exact ⟨level, member, carries ▸ styled⟩

theorem mirrors_of_nestedStyle {key : NodeKey} (valid : project.scene.IsNode key)
    {nested : NestedStyle} (made : (project.nestedStyle key).outcome = .ok nested) :
    project.MirrorsSubtree key nested where
  root := (nestedStyle_level valid made).1
  style level within := by
    rcases nestedStyle_of_within valid made within with ⟨levelValid, levelMade⟩
    exact (nestedStyle_level levelValid levelMade).2.1
  children level within := by
    rcases nestedStyle_of_within valid made within with ⟨levelValid, levelMade⟩
    exact map_key_of_forall₂ (nestedStyle_level levelValid levelMade).2.2
      fun _ member => Scene.isNode_of_mem_children member
  walk := (walk_of_nestedStyle valid made).1
  walkStyle := (walk_of_nestedStyle valid made).2
  containsStyle level within := by
    rcases nestedStyle_of_within valid made within with ⟨levelValid, levelMade⟩
    exact containsStyle_of_nestedStyle levelValid levelMade

theorem nestedStyle_mirrors_subtree {key : NodeKey} (valid : project.scene.IsNode key) :
    ((Exists fun nested => (project.nestedStyle key).outcome = .ok nested) ↔
        forall other, other ∈ project.scene.subtree key ->
          Exists fun style => (project.overrideStyle other).outcome = .ok style) ∧
      (forall fault, (project.nestedStyle key).outcome = .error fault ↔
        Fault.FailsFirst (fun other => (project.overrideStyle other).outcome)
          (project.scene.subtree key) fault) ∧
      forall nested, (project.nestedStyle key).outcome = .ok nested ->
        project.MirrorsSubtree key nested :=
  ⟨(nestedStyle_goesThrough valid).exists_ok_iff, nestedStyle_goesThrough valid,
    fun _ made => mirrors_of_nestedStyle valid made⟩

/-- A card that places a chip three times.  The second time the chip is not there, and
the third time it holds one label too many. -/
def badgesOnCard : Project where
  scene :=
    { main := .ofDocument (.ofRoot (.container "0:0" "Document" .document
        [ .container "1:1" "Chip" (.component false .blank) [decoratedText "1:2" "UNDERLINE"],
          .container "2:1" "Card" (.component false .blank)
            [ .container "2:2" "Left" (.placement "1:1" false .blank)
                [decoratedText "I2:2;1:2" "STRIKETHROUGH"],
              .container "2:3" "Middle" (.placement "9:9" false .blank)
                [decoratedText "I2:3;1:2" "UNDERLINE"],
              .container "2:4" "Right" (.placement "1:1" false .blank)
                [decoratedText "I2:4;1:2" "UNDERLINE", decoratedText "I2:4;1:3" "UNDERLINE"] ] ]))
      imports := [] }
  options := ⟨false, false⟩
  outputPath := ""

/-- The card as a whole ends with the fault of the label in the middle, the first of two
that have no style, while what is placed on the left has its nested style. -/
theorem badgesOnCard_mirrors :
    (Exists fun nested => (badgesOnCard.nestedStyle ⟨.main, 4⟩).outcome = .ok nested ∧
        badgesOnCard.MirrorsSubtree ⟨.main, 4⟩ nested ∧ nested.containsStyle = true) ∧
      Fault.FailsFirst (fun other => (badgesOnCard.overrideStyle other).outcome)
        (badgesOnCard.scene.subtree ⟨.main, 3⟩) (.componentNotFound "2:3" "Middle" "9:9") := by
  have failed : (badgesOnCard.nestedStyle ⟨.main, 3⟩).outcome.map (fun _ => ()) =
      .error (.componentNotFound "2:3" "Middle" "9:9") := by
    decide +kernel
  have styled : (badgesOnCard.nestedStyle ⟨.main, 4⟩).outcome.toOption.any
      NestedStyle.containsStyle = true := by
    decide +kernel
  constructor
  · have valid : badgesOnCard.scene.IsNode ⟨.main, 4⟩ := by decide +kernel
    have mirrors := (nestedStyle_mirrors_subtree valid).2.2
    cases made : (badgesOnCard.nestedStyle ⟨.main, 4⟩).outcome with
    | error fault =>
        rw [made] at styled
        cases styled
    | ok nested =>
        rw [made] at styled
        exact ⟨nested, rfl, mirrors nested made, styled⟩
  · have valid : badgesOnCard.scene.IsNode ⟨.main, 3⟩ := by decide +kernel
    apply ((nestedStyle_mirrors_subtree valid).2.1 _).mp
    cases made : (badgesOnCard.nestedStyle ⟨.main, 3⟩).outcome with
    | error fault =>
        rw [made, Except.map, Except.error.injEq] at failed
        rw [failed]
    | ok nested =>
        rw [made] at failed
        cases failed

end Project
end SceneMarkup
