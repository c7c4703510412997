import SceneMarkup.Markup.Stylesheet
import SceneMarkup.Proofs.Index.Lookup
import SceneMarkup.Proofs.Style.Nested

namespace SceneMarkup
namespace Project

/-!
# Where the rules of a stylesheet come from

A rule belongs to a level of the nested style of some component, and what it
declares is the rule style of the node of that level.  A component inside another
one is reached twice, but only its first place counts, so nothing is known of a
level beyond what all its places have in common: its node lies inside a
component of the main document, and its style is the rule style of that node.
-/

variable {project : Project}

/-! ## Levels -/

theorem mem_of_mem_distinctLevels {level : NodeKey × Style} {levels : List (NodeKey × Style)}
    (member : level ∈ distinctLevels levels) : level ∈ levels := by
  induction levels with
  | nil => cases member
  | cons first rest ih =>
      rw [distinctLevels, List.mem_cons] at member
      rcases member with here | later
      · rw [here]
        exact List.mem_cons_self
      · exact List.mem_cons_of_mem _ (ih (List.mem_filter.mp later).1)

/-- A level of several nested styles is a level of one of them. -/
theorem mem_nestedStyles {keys : List NodeKey} :
    forall {nested : List NestedStyle}, (project.nestedStyles keys).outcome = .ok nested ->
      forall level, level ∈ nested.flatMap NestedStyle.walk ->
        Exists fun key => key ∈ keys ∧ Exists fun tree =>
          (project.nestedStyle key).outcome = .ok tree ∧ level ∈ tree.walk ∧
            (project.nestedStyle key).raised ⊆ (project.nestedStyles keys).raised := by
  induction keys with
  | nil =>
      intro nested made level member
      rw [nestedStyles] at made
      rw [← Except.ok.inj made] at member
      cases member
  | cons key rest ih =>
      intro nested made level member
      rw [nestedStyles] at made ⊢
      rcases (Reported.outcome_bind_eq_ok_iff _ _ _).mp made with ⟨first, head, tail⟩
      rcases (Reported.outcome_bind_eq_ok_iff _ _ _).mp tail with ⟨others, below, whole⟩
      rw [← Except.ok.inj whole, List.flatMap_cons, List.mem_append] at member
      rw [Reported.raised_bind_of_ok head, Reported.raised_bind_of_ok below]
      rcases member with here | later
      · exact ⟨key, List.mem_cons_self, first, head, here, List.subset_append_left _ _⟩
      · rcases ih below level later with ⟨other, listed, tree, made, inside, included⟩
        refine ⟨other, List.mem_cons_of_mem _ listed, tree, made, inside, ?_⟩
        apply List.subset_append_of_subset_right
        exact List.subset_append_of_subset_left _ included

/-- The node of a level lies inside a component, and the style of the level is the
rule style of the node. -/
theorem mem_styleLevels {levels : List (NodeKey × Style)} {level : NodeKey × Style}
    (made : project.styleLevels.outcome = .ok levels) (member : level ∈ levels) :
    (Exists fun component => component ∈ project.components ∧
        project.scene.Contains component level.1) ∧
      project.IsRuled level ∧
      (project.overrideStyle level.1).raised ⊆ project.styleLevels.raised := by
  rw [styleLevels] at made ⊢
  rcases (Reported.outcome_bind_eq_ok_iff _ _ _).mp made with ⟨nested, walked, whole⟩
  rw [← Except.ok.inj whole] at member
  rcases mem_nestedStyles walked level (mem_of_mem_distinctLevels member) with
    ⟨component, listed, tree, styled, inside, included⟩
  rcases (mem_components_iff component).mp listed with ⟨main, valid, _⟩
  rw [nestedStyle_eq] at styled included
  rcases walk_of_nestedStyleAt styled with ⟨places, ruled⟩
  have walkedPast : level.1 ∈ tree.walk.map Prod.fst := List.mem_map_of_mem inside
  have held : (project.scene.document component.file).Holds component.index _
      (project.node component) := Document.holds _ valid
  rw [places, ← Scene.subtree_eq held, Scene.mem_subtree_iff valid] at walkedPast
  refine ⟨⟨component, listed, walkedPast⟩, ruled level inside, ?_⟩
  apply List.Subset.trans (raised_of_nestedStyleAt styled level inside)
  rw [Reported.raised_bind_of_ok walked]
  exact List.subset_append_of_subset_left _ included

theorem isNode_of_mem_styleLevels {levels : List (NodeKey × Style)} {level : NodeKey × Style}
    (made : project.styleLevels.outcome = .ok levels) (member : level ∈ levels) :
    project.scene.IsNode level.1 ∧ level.1.file = .main := by
  rcases (mem_styleLevels made member).1 with ⟨component, listed, contains⟩
  rcases (mem_components_iff component).mp listed with ⟨main, valid, _⟩
  have inside := contains.isNode valid
  exact ⟨inside, ((Scene.contains_iff inside component).mp contains).1.symm.trans main⟩

/-! ## Rules -/

theorem mem_rulesOf {levels : List (NodeKey × Style)} :
    forall {rules : List Rule}, (project.rulesOf levels).outcome = .ok rules ->
      forall rule, rule ∈ rules -> Exists fun level => level ∈ levels ∧
        (project.rule? level.1 level.2).outcome = .ok (some rule) := by
  induction levels with
  | nil =>
      intro rules made rule member
      rw [rulesOf] at made
      rw [← Except.ok.inj made] at member
      cases member
  | cons level rest ih =>
      intro rules made rule member
      rw [rulesOf] at made
      rcases (Reported.outcome_bind_eq_ok_iff _ _ _).mp made with ⟨first, head, tail⟩
      rcases (Reported.outcome_bind_eq_ok_iff _ _ _).mp tail with ⟨others, below, whole⟩
      rw [← Except.ok.inj whole, List.mem_append, Option.mem_toList] at member
      rcases member with here | later
      · rw [here] at head
        exact ⟨level, List.mem_cons_self, head⟩
      · rcases ih below rule later with ⟨other, listed, found⟩
        exact ⟨other, List.mem_cons_of_mem _ listed, found⟩

/-- A rule declares the style it is made from. -/
theorem declarations_of_rule? {key : NodeKey} {style : Style} {rule : Rule}
    (made : (project.rule? key style).outcome = .ok (some rule)) :
    rule.key = key ∧ rule.appearance = style.appearance ∧
      rule.layout = project.ruleLayout style := by
  rw [rule?] at made
  split at made
  · cases Except.ok.inj made
  · rcases (Reported.outcome_bind_eq_ok_iff _ _ _).mp made with ⟨selector, _, whole⟩
    rw [← Option.some.inj (Except.ok.inj whole)]
    exact ⟨rfl, rfl, rfl⟩

/-- A rule is addressed to the node it is made for. -/
theorem addressed_of_rule? {key : NodeKey} {style : Style} {rule : Rule}
    (made : (project.rule? key style).outcome = .ok (some rule)) :
    (project.selector key).outcome = .ok rule.selector := by
  rw [rule?] at made
  split at made
  · cases Except.ok.inj made
  · rcases (Reported.outcome_bind_eq_ok_iff _ _ _).mp made with ⟨selector, addressed, whole⟩
    rw [← Option.some.inj (Except.ok.inj whole)]
    exact addressed

/-- Every rule of a stylesheet belongs to a node inside a component and declares
the rule style of that node. -/
theorem mem_rules_of_stylesheet {sheet : Stylesheet} {rule : Rule}
    (styled : project.stylesheet.outcome = .ok sheet) (member : rule ∈ sheet.rules) :
    (Exists fun component => component ∈ project.components ∧
        project.scene.Contains component rule.key) ∧
      Exists fun style => (project.overrideStyle rule.key).outcome = .ok style ∧
        rule.appearance = style.appearance ∧ rule.layout = project.ruleLayout style := by
  rw [stylesheet] at styled
  rcases (Reported.outcome_bind_eq_ok_iff _ _ _).mp styled with ⟨levels, walked, rest⟩
  rcases (Reported.outcome_bind_eq_ok_iff _ _ _).mp rest with ⟨rules, made, whole⟩
  rw [← Except.ok.inj whole] at member
  rcases mem_rulesOf made rule member with ⟨level, listed, ruled⟩
  rcases declarations_of_rule? ruled with ⟨same, appearance, layout⟩
  rcases mem_styleLevels walked listed with ⟨inside, styled, _⟩
  rw [same]
  exact ⟨inside, level.2, styled, appearance, layout⟩

end Project
end SceneMarkup
