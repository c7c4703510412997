import SceneMarkup.Proofs.Markup.Selectors

namespace SceneMarkup

/-!
# Overriding rules win

Where two rules match one element, the one that asks for more classes wins, in
whatever order they are written.  A node and the node that it overrides have the
same deepest node, so their rules match the same elements, and the chain of the
first is that of the second with one link before it.  If the node lies inside a
component, this link puts the class of that component in front of the scope.  The
rule of a node therefore asks for exactly one class more than the rule it is laid
over.

Classes are counted in the text of a selector, where each stands behind a dot.
No class contains a dot, a blank or a comma, so nothing else is counted, and the
alternatives of a selector are what stands between its commas.
-/

/-! ## Counting classes -/

namespace Selector

/-- The alternatives of a selector, each in full: the scope as classes of one
element, and the scope as classes of nested elements. -/
def alternatives (selector : Selector) : List String :=
  let target := dotted selector.target
  let scope := selector.scope.map dotted
  if scope.isEmpty then [target]
  else [String.join scope ++ " " ++ target, " ".intercalate scope ++ " " ++ target]

/-- The number of classes that an alternative asks for. -/
def classCount (alternative : String) : Nat :=
  alternative.toList.count '.'

/-- A text holds alternatives: they are joined by commas and have none
themselves. -/
structure Lists (text : String) (alternatives : List String) : Prop where
  joined : text = ", ".intercalate alternatives
  apart : forall alternative, alternative ∈ alternatives -> ',' ∉ alternative.toList

section Counting

variable {char : Char} (foreign : ¬ IsClassChar char)

include foreign

/-- A character that is in no class occurs in a dotted one only as the dot. -/
theorem count_dotted {className : String} (plain : IsClassText className.toList) :
    (dotted className).toList.count char = ['.'].count char := by
  have absent : char ∉ className.toList := fun member => foreign (plain char member)
  rw [toList_dotted, List.count_cons, List.count_eq_zero.mpr absent, List.count_singleton,
    Nat.zero_add]

variable {scope : List String}
  (plain : forall className, className ∈ scope -> IsClassText className.toList)

include plain

theorem count_join :
    (String.join (scope.map dotted)).toList.count char = scope.length * ['.'].count char := by
  induction scope with
  | nil => rw [List.length_nil, Nat.zero_mul]; rfl
  | cons className rest ih =>
      have head := count_dotted foreign (plain className List.mem_cons_self)
      have tail := ih fun other member => plain other (List.mem_cons_of_mem _ member)
      rw [List.map_cons, String.join_cons, String.toList_append, List.count_append, head, tail,
        List.length_cons, Nat.succ_mul, Nat.add_comm]

theorem count_intercalate (noBlank : char ≠ ' ') :
    (" ".intercalate (scope.map dotted)).toList.count char = scope.length * ['.'].count char := by
  induction scope with
  | nil => rw [List.length_nil, Nat.zero_mul]; rfl
  | cons className rest ih =>
      have head := count_dotted foreign (plain className List.mem_cons_self)
      have tail := ih fun other member => plain other (List.mem_cons_of_mem _ member)
      have blank : " ".toList.count char = 0 :=
        List.count_eq_zero.mpr fun member => noBlank (List.mem_singleton.mp member)
      cases rest with
      | nil => rw [List.map_singleton, String.intercalate_singleton, head, List.length_singleton,
          Nat.one_mul]
      | cons next others =>
          rw [List.map_cons] at tail
          rw [List.map_cons, List.map_cons, String.intercalate_cons_cons, String.toList_append,
            String.toList_append, List.count_append, List.count_append, head, blank, tail,
            Nat.add_zero, Nat.add_comm]
          exact (Nat.succ_mul _ _).symm

end Counting

/-- Every alternative holds the whole scope and the target. -/
theorem count_alternative {selector : Selector} (plain : selector.IsPlain) {char : Char}
    (foreign : ¬ IsClassChar char) (noBlank : char ≠ ' ') {alternative : String}
    (member : alternative ∈ selector.alternatives) :
    alternative.toList.count char = (selector.scope.length + 1) * ['.'].count char := by
  have target := count_dotted foreign plain.target
  have blank : " ".toList.count char = 0 :=
    List.count_eq_zero.mpr fun inside => noBlank (List.mem_singleton.mp inside)
  rw [alternatives] at member
  split at member
  · rename_i empty
    rw [List.isEmpty_iff, List.map_eq_nil_iff] at empty
    rw [List.mem_singleton.mp member, empty, target, List.length_nil, Nat.zero_add, Nat.one_mul]
  · rw [Nat.succ_mul]
    rcases List.mem_pair.mp member with together | nested
    · rw [together, String.toList_append, String.toList_append, List.count_append,
        List.count_append, count_join foreign plain.scope, blank, target, Nat.add_zero]
    · rw [nested, String.toList_append, String.toList_append, List.count_append,
        List.count_append, count_intercalate foreign plain.scope noBlank, blank, target,
        Nat.add_zero]

/-- An alternative asks for every class of the scope and for the target. -/
theorem classCount_of_mem_alternatives {selector : Selector} (plain : selector.IsPlain)
    {alternative : String} (member : alternative ∈ selector.alternatives) :
    classCount alternative = selector.scope.length + 1 := by
  have foreign : ¬ IsClassChar '.' := by decide
  have counted := count_alternative plain foreign (by decide) member
  exact counted.trans (Nat.mul_one _)

/-- The text of a selector holds its alternatives. -/
theorem lists_text {selector : Selector} (plain : selector.IsPlain) :
    Lists selector.text selector.alternatives where
  joined := by
    rw [text, alternatives]
    split
    · rw [String.intercalate_singleton]
    · rw [String.intercalate_cons_cons, String.intercalate_singleton]
      simp only [String.append_assoc]
  apart := by
    intro alternative member
    have foreign : ¬ IsClassChar ',' := by decide
    have counted := count_alternative plain foreign (by decide) member
    rw [← List.count_eq_zero]
    exact counted.trans (Nat.mul_zero _)

end Selector

/-! ## One link of a chain -/

namespace Project

variable {project : Project}

/-- A node whose chain is complete has the node that it overrides first in its
chain, and the rest is the chain of that node. -/
theorem overrideChain_unfolds {key previous : NodeKey} {chain : List NodeKey}
    (linked : (project.previousNode key).outcome = .ok (some previous))
    (found : (project.overrideChain key).outcome = .ok chain)
    (ends : (project.previousNode (chain.getLastD key)).outcome = .ok none) :
    Exists fun rest => chain = previous :: rest ∧
      (project.overrideChain previous).outcome = .ok rest := by
  have complete := (isCompleteChain_of_overrideChainFrom found ends).1
  cases chain with
  | nil => cases linked.symm.trans complete
  | cons first rest =>
      cases linked.symm.trans complete.1
      have split : key :: previous :: rest = [key] ++ previous :: rest := rfl
      exact ⟨rest, rfl, overrideChain_of_mem found ends split⟩

/-- The deepest node does not change along a chain. -/
theorem deepest_cons (key previous : NodeKey) (rest : List NodeKey) :
    deepest key (previous :: rest) = deepest previous rest := by
  rw [deepest, deepest, List.getLast?_cons_cons, List.getLast?_cons, Option.getD_some,
    Option.getD_some]

theorem ownersAlong_cons {key owner : NodeKey}
    (owned : project.scene.ownerComponent? key = some owner) (previous : NodeKey)
    (rest : List NodeKey) :
    project.ownersAlong key (previous :: rest) = owner :: project.ownersAlong previous rest :=
  List.filterMap_cons_some owned

theorem selector_eq_ok {key : NodeKey} {chain : List NodeKey}
    (found : (project.overrideChain key).outcome = .ok chain) :
    (project.selector key).outcome = .ok (project.selectorOver key chain) := by
  rw [selector, Reported.outcome_bind_of_ok found]
  rfl

/-- The rule of a node inside a component outranks the rule of the node that it
overrides: both are for the class of the deepest overridden node, the scope of the
first is that of the second with the class of the component in front, and each of
its two alternatives asks for exactly one class more. -/
theorem selector_outranks_overridden {key owner previous : NodeKey} {chain : List NodeKey}
    (owned : project.scene.ownerComponent? key = some owner)
    (linked : (project.previousNode key).outcome = .ok (some previous))
    (found : (project.overrideChain key).outcome = .ok chain)
    (ends : (project.previousNode (chain.getLastD key)).outcome = .ok none) :
    Exists fun own => Exists fun overridden =>
      (project.selector key).outcome = .ok own ∧
      (project.selector previous).outcome = .ok overridden ∧
      own.target = project.scene.className (deepest key chain) ∧
      overridden.target = own.target ∧
      own.scope = project.scene.className owner :: overridden.scope ∧
      Exists fun together => Exists fun nested => Exists fun others =>
        Selector.Lists own.text [together, nested] ∧ Selector.Lists overridden.text others ∧
        forall other, other ∈ others ->
          Selector.classCount together = Selector.classCount other + 1 ∧
          Selector.classCount nested = Selector.classCount other + 1 := by
  have valid : project.scene.IsNode key :=
    Scene.isNode_of_mem_ancestors (Scene.ownerComponent?_contains owned)
  rcases overrideChain_unfolds linked found ends with ⟨rest, same, restFound⟩
  have ownPlain := selectorOver_plain (overrideChain_isNode valid found)
  have overriddenPlain :=
    selectorOver_plain (overrideChain_isNode (previousNode_isNode linked).1 restFound)
  have scope : (project.selectorOver key chain).scope =
      project.scene.className owner :: (project.selectorOver previous rest).scope := by
    rw [selectorOver_eq, selectorOver_eq, same, ownersAlong_cons owned, List.map_cons]
  have target : (project.selectorOver previous rest).target =
      (project.selectorOver key chain).target := by
    rw [selectorOver_eq, selectorOver_eq, same, deepest_cons]
  have two : Exists fun together => Exists fun nested =>
      (project.selectorOver key chain).alternatives = [together, nested] := by
    rw [Selector.alternatives, scope]
    exact ⟨_, _, rfl⟩
  rcases two with ⟨together, nested, ownAlternatives⟩
  refine ⟨_, _, selector_eq_ok found, selector_eq_ok restFound, rfl, target, scope,
    together, nested, (project.selectorOver previous rest).alternatives,
    ownAlternatives ▸ Selector.lists_text ownPlain, Selector.lists_text overriddenPlain, ?_⟩
  intro other otherMember
  have ownCount : forall alternative, alternative ∈ [together, nested] ->
      Selector.classCount alternative = Selector.classCount other + 1 := by
    intro alternative member
    rw [← ownAlternatives] at member
    rw [Selector.classCount_of_mem_alternatives ownPlain member,
      Selector.classCount_of_mem_alternatives overriddenPlain otherMember, scope, List.length_cons]
  exact ⟨ownCount together (by simp), ownCount nested (by simp)⟩

/-- Of three stacked components, the text in the outermost outranks the text that
it overrides in the middle one. -/
theorem stackedLabels_outermost_outranks :
    let project := stackedLabels "UNDERLINE" "STRIKETHROUGH" "UNDERLINE"
    Exists fun own => Exists fun overridden =>
      (project.selector ⟨.main, 9⟩).outcome = .ok own ∧
      (project.selector ⟨.main, 5⟩).outcome = .ok overridden ∧
      own.target = "_1-2_chip_label" ∧ overridden.target = own.target ∧
      own.scope = "_3-1_badge" :: overridden.scope ∧
      Exists fun together => Exists fun nested => Exists fun others =>
        Selector.Lists own.text [together, nested] ∧ Selector.Lists overridden.text others ∧
        forall other, other ∈ others ->
          Selector.classCount together = Selector.classCount other + 1 ∧
          Selector.classCount nested = Selector.classCount other + 1 := by
  intro project
  have owned : project.scene.ownerComponent? ⟨.main, 9⟩ = some ⟨.main, 6⟩ := by decide +kernel
  have linked : (project.previousNode ⟨.main, 9⟩).outcome = .ok (some ⟨.main, 5⟩) := by
    decide +kernel
  have found : (project.overrideChain ⟨.main, 9⟩).outcome = .ok [⟨.main, 5⟩, ⟨.main, 2⟩] := by
    decide +kernel
  have ends : (project.previousNode ⟨.main, 2⟩).outcome = .ok none := by decide +kernel
  have deepestClass : project.scene.className ⟨.main, 2⟩ = "_1-2_chip_label" := by decide +kernel
  have ownerClass : project.scene.className ⟨.main, 6⟩ = "_3-1_badge" := by decide +kernel
  have outranks := selector_outranks_overridden owned linked found ends
  rw [ownerClass] at outranks
  rcases outranks with ⟨own, overridden, ownFound, overriddenFound, target, rest⟩
  exact ⟨own, overridden, ownFound, overriddenFound, target.trans deepestClass, rest⟩

end Project
end SceneMarkup
