import SceneMarkup.Proofs.Agreement
import SceneMarkup.Proofs.Index.Subtrees
import SceneMarkup.Proofs.Style.Levels

namespace SceneMarkup
namespace Project

/-!
# The levels of a nested style

A nested style is made together with the tree it mirrors, one level for each
node.  Walking through its levels therefore meets every position of the subtree
once and in order, and the style of a level is the rule style of its node.
-/

variable {project : Project}

/-- A level carries the rule style of its node. -/
def IsRuled (project : Project) (level : NodeKey × Style) : Prop :=
  (project.overrideStyle level.1).outcome = .ok level.2

mutual

theorem walk_of_nestedStyleAt {file : FileRef} {index : Nat} : {node : Node} ->
    {nested : NestedStyle} -> (project.nestedStyleAt file index node).outcome = .ok nested ->
      nested.walk.map Prod.fst = (List.range' index node.size).map (NodeKey.mk file) ∧
        forall level, level ∈ nested.walk -> project.IsRuled level
  | .leaf id name kind, nested, made => by
      rw [nestedStyleAt] at made
      rcases (Reported.outcome_bind_eq_ok_iff _ _ _).mp made with ⟨style, ruled, whole⟩
      rw [← Except.ok.inj whole]
      refine ⟨by rw [NestedStyle.walk_eq]; rfl, ?_⟩
      intro level member
      rw [NestedStyle.walk_eq, List.flatMap_nil, List.mem_singleton] at member
      rw [member]
      exact ruled
  | .container id name kind children, nested, made => by
      rw [nestedStyleAt] at made
      rcases (Reported.outcome_bind_eq_ok_iff _ _ _).mp made with ⟨style, ruled, rest⟩
      rcases (Reported.outcome_bind_eq_ok_iff _ _ _).mp rest with ⟨below, inside, whole⟩
      have levels := walks_of_nestedStylesFrom inside
      rw [← Except.ok.inj whole, NestedStyle.walk_eq]
      constructor
      · rw [List.map_cons, levels.1, Node.size, List.range'_succ, List.map_cons]
      · intro level member
        rcases List.mem_cons.mp member with here | deeper
        · rw [here]
          exact ruled
        · exact levels.2 level deeper

theorem walks_of_nestedStylesFrom {file : FileRef} {next : Nat} : {nodes : List Node} ->
    {nested : List NestedStyle} ->
      (project.nestedStylesFrom file next nodes).outcome = .ok nested ->
        (nested.flatMap NestedStyle.walk).map Prod.fst =
            (List.range' next (Node.sizeAll nodes)).map (NodeKey.mk file) ∧
          forall level, level ∈ nested.flatMap NestedStyle.walk -> project.IsRuled level
  | [], nested, made => by
      rw [nestedStylesFrom] at made
      rw [← Except.ok.inj made]
      exact ⟨rfl, fun level member => nomatch member⟩
  | node :: rest, nested, made => by
      rw [nestedStylesFrom] at made
      rcases (Reported.outcome_bind_eq_ok_iff _ _ _).mp made with ⟨first, head, tail⟩
      rcases (Reported.outcome_bind_eq_ok_iff _ _ _).mp tail with ⟨others, below, whole⟩
      have firstLevels := walk_of_nestedStyleAt head
      have otherLevels := walks_of_nestedStylesFrom below
      rw [← Except.ok.inj whole, List.flatMap_cons]
      constructor
      · rw [List.map_append, firstLevels.1, otherLevels.1, Node.sizeAll, ← List.map_append,
          List.range'_append_1]
      · intro level member
        rcases List.mem_append.mp member with here | later
        · exact firstLevels.2 level here
        · exact otherLevels.2 level later

end

mutual

/-- Whatever is raised about the rule of one level is raised about all of them. -/
theorem raised_of_nestedStyleAt {file : FileRef} {index : Nat} : {node : Node} ->
    {nested : NestedStyle} -> (project.nestedStyleAt file index node).outcome = .ok nested ->
      forall level, level ∈ nested.walk ->
        (project.overrideStyle level.1).raised ⊆ (project.nestedStyleAt file index node).raised
  | .leaf id name kind, nested, made => by
      rw [nestedStyleAt] at made ⊢
      rcases (Reported.outcome_bind_eq_ok_iff _ _ _).mp made with ⟨style, _, whole⟩
      intro level member
      rw [← Except.ok.inj whole, NestedStyle.walk_eq, List.flatMap_nil, List.mem_singleton]
        at member
      rw [member]
      exact Reported.raised_subset_bind _ _
  | .container id name kind children, nested, made => by
      rw [nestedStyleAt] at made ⊢
      rcases (Reported.outcome_bind_eq_ok_iff _ _ _).mp made with ⟨style, ruled, rest⟩
      rcases (Reported.outcome_bind_eq_ok_iff _ _ _).mp rest with ⟨below, inside, whole⟩
      intro level member
      rw [← Except.ok.inj whole, NestedStyle.walk_eq] at member
      rcases List.mem_cons.mp member with here | deeper
      · rw [here]
        exact Reported.raised_subset_bind _ _
      · rw [Reported.raised_bind_of_ok ruled, Reported.raised_bind_of_ok inside]
        apply List.subset_append_of_subset_right
        apply List.subset_append_of_subset_left
        exact raised_of_nestedStylesFrom inside level deeper

theorem raised_of_nestedStylesFrom {file : FileRef} {next : Nat} : {nodes : List Node} ->
    {nested : List NestedStyle} ->
      (project.nestedStylesFrom file next nodes).outcome = .ok nested ->
        forall level, level ∈ nested.flatMap NestedStyle.walk ->
          (project.overrideStyle level.1).raised ⊆
            (project.nestedStylesFrom file next nodes).raised
  | [], nested, made => by
      rw [nestedStylesFrom] at made
      rw [← Except.ok.inj made]
      exact fun level member => nomatch member
  | node :: rest, nested, made => by
      rw [nestedStylesFrom] at made ⊢
      rcases (Reported.outcome_bind_eq_ok_iff _ _ _).mp made with ⟨first, head, tail⟩
      rcases (Reported.outcome_bind_eq_ok_iff _ _ _).mp tail with ⟨others, below, whole⟩
      intro level member
      rw [← Except.ok.inj whole, List.flatMap_cons] at member
      rw [Reported.raised_bind_of_ok head, Reported.raised_bind_of_ok below]
      rcases List.mem_append.mp member with here | later
      · apply List.subset_append_of_subset_left
        exact raised_of_nestedStyleAt head level here
      · apply List.subset_append_of_subset_right
        apply List.subset_append_of_subset_left
        exact raised_of_nestedStylesFrom below level later

end

end Project
end SceneMarkup
