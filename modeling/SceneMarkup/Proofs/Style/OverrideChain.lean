import SceneMarkup.Proofs.Index.Lookup
import SceneMarkup.Style.Override

namespace SceneMarkup
namespace Project

/-!
# Override chains

The chain of a node is searched with a list of nodes already seen, which stops
the search where a component contains an instance of itself.  Where the search
ends for the other reason, that the last node overrides nothing, the list of seen
nodes has no influence at all.  Such a chain is described by its links alone, and
this description is closed under dropping links from the front: the rest of the
chain is the chain of the node it starts from.  That a complete chain repeats no
node is therefore a consequence and not part of the description.
-/

/-- The nodes that a node overrides one after the other, down to one that
overrides nothing. -/
def IsCompleteChain (project : Project) : NodeKey -> List NodeKey -> Prop
  | key, [] => (project.previousNode key).outcome = .ok none
  | key, previous :: rest =>
      (project.previousNode key).outcome = .ok (some previous) ∧
        project.IsCompleteChain previous rest

namespace IsCompleteChain

variable {project : Project}

/-- A node has at most one complete chain. -/
theorem unique {key : NodeKey} {first second : List NodeKey}
    (firstChain : project.IsCompleteChain key first)
    (secondChain : project.IsCompleteChain key second) : first = second := by
  induction first generalizing key second with
  | nil =>
      cases second with
      | nil => rfl
      | cons previous rest => cases firstChain.symm.trans secondChain.1
  | cons previous rest ih =>
      cases second with
      | nil => cases firstChain.1.symm.trans secondChain
      | cons other others =>
          cases firstChain.1.symm.trans secondChain.1
          rw [ih firstChain.2 secondChain.2]

/-- What follows a node in a complete chain is the complete chain of that node. -/
theorem suffix {key node : NodeKey} {before after : List NodeKey}
    (chain : project.IsCompleteChain key (before ++ node :: after)) :
    project.IsCompleteChain node after := by
  induction before generalizing key with
  | nil => exact chain.2
  | cons previous rest ih => exact ih chain.2

theorem not_mem {key : NodeKey} {chain : List NodeKey}
    (complete : project.IsCompleteChain key chain) : key ∉ chain := by
  intro member
  rcases List.append_of_mem member with ⟨before, after, split⟩
  have same : after = chain := (suffix (split ▸ complete)).unique complete
  have lengths := congrArg List.length split
  rw [List.length_append, List.length_cons, same] at lengths
  omega

/-- A complete chain repeats no node, and its own node does not occur in it. -/
theorem nodup {key : NodeKey} {chain : List NodeKey}
    (complete : project.IsCompleteChain key chain) : (key :: chain).Nodup := by
  induction chain generalizing key with
  | nil => simp
  | cons previous rest ih => exact List.nodup_cons.mpr ⟨complete.not_mem, ih complete.2⟩

end IsCompleteChain

/-! ## The search for a chain -/

/-- A search that ends at a node overriding nothing has followed the links of a
complete chain, one in each step. -/
theorem isCompleteChain_of_overrideChainFrom {project : Project} {steps : Nat}
    {seen : List NodeKey} {key : NodeKey} {chain : List NodeKey}
    (found : (project.overrideChainFrom steps seen key).outcome = .ok chain)
    (ends : (project.previousNode (chain.getLastD key)).outcome = .ok none) :
    project.IsCompleteChain key chain ∧ chain.length <= steps := by
  induction steps generalizing seen key chain with
  | zero =>
      cases Except.ok.inj found
      exact ⟨ends, Nat.le_refl 0⟩
  | succ steps ih =>
      rw [overrideChainFrom, Reported.outcome_bind_eq_ok_iff] at found
      rcases found with ⟨link, linked, found⟩
      cases kept : link.filter fun previous => !seen.contains previous with
      | none =>
          rw [kept] at found
          cases Except.ok.inj found
          exact ⟨ends, Nat.zero_le _⟩
      | some previous =>
          rw [kept] at found
          rcases (Reported.outcome_bind_eq_ok_iff _ _ _).mp found with ⟨rest, remaining, whole⟩
          cases Except.ok.inj whole
          rw [List.getLastD_cons] at ends
          have later := ih remaining ends
          have same : link = some previous := (Option.filter_eq_some_iff.mp kept).1
          exact ⟨⟨same ▸ linked, later.1⟩, Nat.succ_le_succ later.2⟩

/-- The search finds a complete chain within as many steps as it has links,
provided that none of its nodes has been seen. -/
theorem overrideChainFrom_eq_ok {project : Project} {steps : Nat} {seen : List NodeKey}
    {key : NodeKey} {chain : List NodeKey} (complete : project.IsCompleteChain key chain)
    (enough : chain.length <= steps) (fresh : forall node, node ∈ chain -> node ∉ seen) :
    (project.overrideChainFrom steps seen key).outcome = .ok chain := by
  induction chain generalizing steps seen key with
  | nil =>
      cases steps with
      | zero => rfl
      | succ steps =>
          rw [overrideChainFrom, Reported.outcome_bind_of_ok complete]
          rfl
  | cons previous rest ih =>
      cases steps with
      | zero => cases Nat.not_succ_le_zero _ enough
      | succ steps =>
          have unseen : previous ∉ seen := fresh previous List.mem_cons_self
          have kept : (some previous).filter (fun node => !seen.contains node) = some previous := by
            simp [Option.filter, unseen]
          rw [overrideChainFrom, Reported.outcome_bind_of_ok complete.1, kept]
          have restFresh : forall node, node ∈ rest -> node ∉ previous :: seen := by
            intro node member
            rw [List.mem_cons]
            rintro (same | earlier)
            · exact complete.2.not_mem (same ▸ member)
            · exact fresh node (List.mem_cons_of_mem _ member) earlier
          have later := ih complete.2 (Nat.le_of_succ_le_succ enough) restFresh
          change (overrideChainFrom project steps (previous :: seen) previous >>= _).outcome = _
          rw [Reported.outcome_bind_of_ok later]
          rfl

/-- The chain found for a node is complete exactly when its last node overrides
nothing, and each of its nodes then has the rest of it for a chain. -/
theorem overrideChain_of_mem {project : Project} {key : NodeKey} {chain : List NodeKey}
    (found : (project.overrideChain key).outcome = .ok chain)
    (ends : (project.previousNode (chain.getLastD key)).outcome = .ok none)
    {node : NodeKey} {before after : List NodeKey} (split : key :: chain = before ++ node :: after) :
    (project.overrideChain node).outcome = .ok after := by
  have searched := isCompleteChain_of_overrideChainFrom found ends
  have complete : project.IsCompleteChain node after ∧ after.length <= chain.length := by
    cases before with
    | nil =>
        cases split
        exact ⟨searched.1, Nat.le_refl _⟩
    | cons first before =>
        have inChain : chain = before ++ node :: after := (List.cons.inj split).2
        refine ⟨(inChain ▸ searched.1 : project.IsCompleteChain key _).suffix, ?_⟩
        rw [inChain, List.length_append, List.length_cons]
        omega
  apply overrideChainFrom_eq_ok complete.1 (Nat.le_trans complete.2 searched.2)
  intro later member same
  rw [List.mem_singleton.mp same] at member
  exact complete.1.not_mem member

/-! ## Where a chain leads -/

/-- What a single link preserves holds of a whole chain, complete or not. -/
theorem forall_mem_overrideChainFrom {project : Project} {Holds : NodeKey -> Prop}
    (linkHolds : forall key previous, Holds key ->
      (project.previousNode key).outcome = .ok (some previous) -> Holds previous)
    {steps : Nat} {seen : List NodeKey} {key : NodeKey} {chain : List NodeKey} (start : Holds key)
    (found : (project.overrideChainFrom steps seen key).outcome = .ok chain) :
    forall node, node ∈ chain -> Holds node := by
  induction steps generalizing seen key chain with
  | zero =>
      intro node member
      rw [← Except.ok.inj found] at member
      cases member
  | succ steps ih =>
      rw [overrideChainFrom, Reported.outcome_bind_eq_ok_iff] at found
      rcases found with ⟨link, linked, rest⟩
      intro node member
      cases kept : link.filter fun previous => !seen.contains previous with
      | none =>
          rw [kept] at rest
          rw [← Except.ok.inj rest] at member
          cases member
      | some previous =>
          rw [kept] at rest
          rcases (Reported.outcome_bind_eq_ok_iff _ _ _).mp rest with ⟨later, searched, whole⟩
          have same : link = some previous := (Option.filter_eq_some_iff.mp kept).1
          have here := linkHolds key previous start (same ▸ linked)
          rw [← Except.ok.inj whole, List.mem_cons] at member
          rcases member with itself | beyond
          · rw [itself]
            exact here
          · exact ih here searched node beyond

/-- A node lies inside the instance that its id names, and the node that it overrides
is reached by the same path from what the instance places. -/
structure Mirrors (project : Project) (key previous : NodeKey) (qualifier : String)
    (instanceKey component : NodeKey) (path : List Nat) : Prop where
  qualified : InstanceId.qualifier? (project.node key).id = some qualifier
  named : project.scene.find? key.file qualifier = some instanceKey
  placed : (project.node instanceKey).isInstance = true
  led : project.scene.path? key instanceKey = some path
  resolved : project.resolveComponent instanceKey = .ok component
  followed : project.scene.follow? path component = some previous

/-- There is no other way for a node to override one. -/
theorem mirrors_of_previousNode {project : Project} {key previous : NodeKey}
    (linked : (project.previousNode key).outcome = .ok (some previous)) :
    Exists fun qualifier => Exists fun instanceKey => Exists fun component => Exists fun path =>
      project.Mirrors key previous qualifier instanceKey component path := by
  unfold previousNode at linked
  dsimp only at linked
  split at linked
  · cases linked
  · rename_i qualifier qualified
    split at linked
    · cases linked
    · rename_i instanceKey found
      rcases Option.filter_eq_some_iff.mp found with ⟨named, placed⟩
      split at linked
      · cases linked
      · rename_i path led
        rcases (Reported.outcome_bind_eq_ok_iff _ _ _).mp linked with ⟨component, resolved, rest⟩
        split at rest
        · cases rest
        · rename_i target followed
          have same := Option.some.inj (Except.ok.inj rest)
          exact ⟨qualifier, instanceKey, component, path,
            qualified, named, placed, led, resolved, same ▸ followed⟩

/-- An overridden node is there, and where nothing is imported it lies in the
main document. -/
theorem previousNode_isNode {project : Project} {key previous : NodeKey}
    (linked : (project.previousNode key).outcome = .ok (some previous)) :
    project.scene.IsNode previous ∧
      (project.scene.imports = [] -> key.file = .main -> previous.file = .main) := by
  rcases mirrors_of_previousNode linked with ⟨_, instanceKey, component, path, mirrors⟩
  have target := resolveComponent_isNode mirrors.resolved
  rcases Scene.follow?_isNode target.1 mirrors.followed with ⟨sameFile, valid⟩
  refine ⟨valid, ?_⟩
  intro alone main
  rw [sameFile]
  exact target.2 alone ((Scene.find?_isNode mirrors.named).1.trans main)

/-- A chain consists of nodes that are there. -/
theorem overrideChain_isNode {project : Project} {key : NodeKey} {chain : List NodeKey}
    (valid : project.scene.IsNode key)
    (found : (project.overrideChain key).outcome = .ok chain) :
    forall node, node ∈ key :: chain -> project.scene.IsNode node := by
  have later : forall node, node ∈ chain -> project.scene.IsNode node :=
    forall_mem_overrideChainFrom (fun _ _ _ linked => (previousNode_isNode linked).1) valid found
  intro node member
  rcases List.mem_cons.mp member with itself | beyond
  · rw [itself]
    exact valid
  · exact later node beyond

theorem overrideChain_main {project : Project} {key : NodeKey} {chain : List NodeKey}
    (alone : project.scene.imports = []) (main : key.file = .main)
    (found : (project.overrideChain key).outcome = .ok chain) :
    forall node, node ∈ key :: chain -> node.file = .main := by
  have later : forall node, node ∈ chain -> node.file = .main :=
    forall_mem_overrideChainFrom
      (fun _ _ mainKey linked => (previousNode_isNode linked).2 alone mainKey) main found
  intro node member
  rcases List.mem_cons.mp member with itself | beyond
  · rw [itself]
    exact main
  · exact later node beyond

end Project
end SceneMarkup
