import Mathlib.Data.List.Perm.Subperm
import SceneMarkup.Proofs.Agreement
import SceneMarkup.Proofs.Index.PlacedComponents
import SceneMarkup.Proofs.Style.OverrideChain

namespace SceneMarkup

/-!
# The search for an override chain ends

The link from a node to the one that it overrides jumps between files, through ids,
alias tables and paths, and a component may contain instances of itself.  Nothing
gets smaller along the way.  What ends the search is that it never goes on to a node
it has seen, and that the nodes of all files are finitely many.

The search is first described as it goes, with no bound on its steps: it looks for
the next link, and stops, fails or goes on.  Every way to go on adds a node to those
seen, so the bound that the search is run with leaves it enough steps and decides
nothing.  The main result then says what a search finds in terms of links alone.
-/

namespace Scene

variable {scene : Scene}

/-- The files of a scene in order. -/
def files (scene : Scene) : List FileRef :=
  .main :: (List.range scene.imports.length).map .imported

/-- The addresses of all nodes, file by file. -/
def addresses (scene : Scene) : List NodeKey :=
  scene.files.flatMap fun file => (List.range (scene.document file).size).map (NodeKey.mk file)

theorem mem_files_iff (file : FileRef) : file ∈ scene.files ↔ scene.HasFile file := by
  cases file <;> simp [files, HasFile]

theorem mem_addresses_iff (key : NodeKey) :
    key ∈ scene.addresses ↔ scene.HasFile key.file ∧ scene.IsNode key := by
  simp only [addresses, List.mem_flatMap, mem_files_iff, List.mem_map, List.mem_range]
  constructor
  · rintro ⟨file, there, index, inside, same⟩
    rw [← same]
    exact ⟨there, inside⟩
  · rintro ⟨there, inside⟩
    exact ⟨key.file, there, key.index, inside, rfl⟩

/-- At an address where no node is, there is an empty group to be read. -/
theorem node_of_not_mem_addresses {key : NodeKey} (outside : key ∉ scene.addresses) :
    scene.node key = Node.blank := by
  rw [mem_addresses_iff, not_and_or] at outside
  rcases outside with noFile | noNode
  · have missing : scene.document key.file = .ofRoot Node.blank := by
      rw [document]
      cases file : key.file with
      | main => exact absurd (file ▸ trivial) noFile
      | imported place =>
          rw [file] at noFile
          rw [named, List.getElem?_eq_none (Nat.le_of_not_lt noFile)]
          rfl
    rw [node, missing]
    cases key.index <;> rfl
  · exact Document.node_eq_blank noNode

end Scene

namespace Project

variable {project : Project}

theorem length_addresses (project : Project) :
    project.scene.addresses.length = project.nodeCount := by
  have total : forall (imports : List IndexedImport) (count : Nat),
      imports.foldl (fun count indexed => count + indexed.named.document.size) count =
        count + (imports.map fun indexed => indexed.named.document.size).sum := by
    intro imports
    induction imports with
    | nil => exact fun count => rfl
    | cons indexed rest ih =>
        intro count
        rw [List.foldl_cons, ih, List.map_cons, List.sum_cons, Nat.add_assoc]
  have sizes : (List.range project.scene.imports.length).map
        (fun place => (project.scene.document (.imported place)).size) =
      project.scene.imports.map fun indexed => indexed.named.document.size := by
    apply List.ext_getElem
    · simp only [List.length_map, List.length_range]
    · intro place _ inside
      rw [List.length_map] at inside
      have listed := List.getElem?_eq_getElem inside
      simp only [List.getElem_map, List.getElem_range, Scene.document,
        Scene.named_of_listed listed]
  rw [nodeCount, total, ← sizes, Scene.addresses, Scene.files, List.length_flatMap]
  simp only [List.map_cons, List.sum_cons, List.map_map, List.length_map, List.length_range]
  rfl

/-! ## Links and trails -/

/-- A link: one node overrides another one. -/
def Overrides (project : Project) (key previous : NodeKey) : Prop :=
  (project.previousNode key).outcome = .ok (some previous)

/-- Nodes to which links lead one after the other, none of them met twice. -/
structure IsTrail (project : Project) (key : NodeKey) (chain : List NodeKey) : Prop where
  linked : (key :: chain).IsChain project.Overrides
  distinct : (key :: chain).Nodup

/-- Both ends of a link are nodes of the scene. -/
theorem Overrides.mem_addresses {key previous : NodeKey}
    (linked : project.Overrides key previous) :
    key ∈ project.scene.addresses ∧ previous ∈ project.scene.addresses := by
  rcases mirrors_of_previousNode linked with ⟨_, instanceKey, component, path, mirrors⟩
  have there : key ∈ project.scene.addresses := by
    by_contra outside
    have qualified := mirrors.qualified
    rw [node, Scene.node_of_not_mem_addresses outside] at qualified
    cases qualified
  refine ⟨there, (Scene.mem_addresses_iff previous).mpr ⟨?_, (previousNode_isNode linked).1⟩⟩
  have instanceFile := (Scene.find?_isNode mirrors.named).1
  have target := resolveComponent_isNode mirrors.resolved
  rw [(Scene.follow?_isNode target.1 mirrors.followed).1]
  apply hasFile_of_resolveComponent _ mirrors.resolved
  rw [instanceFile]
  exact ((Scene.mem_addresses_iff key).mp there).1

theorem mem_addresses_of_isChain {key : NodeKey} {chain : List NodeKey}
    (there : key ∈ project.scene.addresses)
    (linked : (key :: chain).IsChain project.Overrides) :
    key :: chain ⊆ project.scene.addresses := by
  induction chain generalizing key with
  | nil => exact List.cons_subset.mpr ⟨there, List.nil_subset _⟩
  | cons previous rest ih =>
      rw [List.isChain_cons_cons] at linked
      exact List.cons_subset.mpr ⟨there, ih linked.1.mem_addresses.2 linked.2⟩

/-- Nodes that are there and all different are at most as many as there are. -/
theorem length_le_nodeCount {keys : List NodeKey} (distinct : keys.Nodup)
    (there : keys ⊆ project.scene.addresses) : keys.length <= project.nodeCount := by
  rw [← length_addresses]
  exact (distinct.subperm there).length_le

/-- No trail meets all nodes and goes on. -/
theorem IsTrail.length_lt {key : NodeKey} {chain : List NodeKey}
    (trail : project.IsTrail key chain) : chain.length < project.nodeCount := by
  cases chain with
  | nil =>
      have root : ⟨.main, 0⟩ ∈ project.scene.addresses := by
        rw [Scene.mem_addresses_iff, Scene.IsNode, Document.size_eq]
        exact ⟨trivial, Node.size_pos _⟩
      rw [← length_addresses]
      exact List.length_pos_of_mem root
  | cons previous rest =>
      have first := (List.isChain_cons_cons.mp trail.linked).1
      exact length_le_nodeCount trail.distinct
        (mem_addresses_of_isChain first.mem_addresses.1 trail.linked)

/-! ## The search as it goes -/

/-- How a search ends that has seen some nodes and looks for the link from one of
them: there is none, or only to a node seen before; looking for it fails; or it leads
to a new node, from where the search goes on. -/
inductive Ends (project : Project) :
    List NodeKey -> NodeKey -> Except Fault (List NodeKey) -> Prop where
  | stops {seen : List NodeKey} {current : NodeKey} {link : Option NodeKey}
      (looked : (project.previousNode current).outcome = .ok link)
      (known : forall previous, previous ∈ link -> previous ∈ seen) :
      Ends project seen current (.ok [])
  | fails {seen : List NodeKey} {current : NodeKey} {fault : Fault}
      (looked : (project.previousNode current).outcome = .error fault) :
      Ends project seen current (.error fault)
  | goesOn {seen : List NodeKey} {current previous : NodeKey}
      {result : Except Fault (List NodeKey)} (linked : project.Overrides current previous)
      (unseen : previous ∉ seen) (later : Ends project (previous :: seen) previous result) :
      Ends project seen current (result.map (previous :: ·))

namespace Ends

/-- A search ends in one way only. -/
theorem unique {seen : List NodeKey} {current : NodeKey}
    {first second : Except Fault (List NodeKey)} (firstEnds : project.Ends seen current first)
    (secondEnds : project.Ends seen current second) : first = second := by
  induction firstEnds generalizing second with
  | stops looked known =>
      cases secondEnds with
      | stops => rfl
      | fails otherLooked => cases looked.symm.trans otherLooked
      | goesOn linked unseen _ =>
          cases looked.symm.trans linked
          exact absurd (known _ rfl) unseen
  | fails looked =>
      cases secondEnds with
      | stops otherLooked _ => cases looked.symm.trans otherLooked
      | fails otherLooked => rw [Except.error.inj (looked.symm.trans otherLooked)]
      | goesOn linked _ _ => cases looked.symm.trans linked
  | goesOn linked unseen _ ih =>
      cases secondEnds with
      | stops looked known =>
          cases linked.symm.trans looked
          exact absurd (known _ rfl) unseen
      | fails looked => cases linked.symm.trans looked
      | goesOn otherLinked _ later =>
          cases linked.symm.trans otherLinked
          rw [ih later]

/-- A search finds the nodes of a trail that meets none of the nodes seen before, and
stops where the next link is missing or leads back. -/
theorem ok_iff {seen : List NodeKey} {current : NodeKey} {chain : List NodeKey}
    (distinct : seen.Nodup) :
    project.Ends seen current (.ok chain) ↔
      (current :: chain).IsChain project.Overrides ∧ (chain.reverse ++ seen).Nodup ∧
        Exists fun link =>
          (project.previousNode (chain.getLastD current)).outcome = .ok link ∧
            forall previous, previous ∈ link -> previous ∈ chain.reverse ++ seen := by
  constructor
  · intro ends
    generalize whole : Except.ok chain = result at ends
    induction ends generalizing chain with
    | stops looked known =>
        cases whole
        exact ⟨.singleton _, distinct, _, looked, known⟩
    | fails => cases whole
    | @goesOn _ _ previous result linked unseen _ ih =>
        cases result with
        | error fault => cases whole
        | ok rest =>
            cases whole
            rcases ih (List.nodup_cons.mpr ⟨unseen, distinct⟩) rfl with
              ⟨links, different, link, looked, known⟩
            rw [List.reverse_cons, List.append_assoc, List.singleton_append, List.getLastD_cons]
            exact ⟨.cons_cons linked links, different, link, looked, known⟩
  · rintro ⟨links, different, link, looked, known⟩
    induction chain generalizing seen current with
    | nil => exact .stops looked known
    | cons previous rest ih =>
        rw [List.isChain_cons_cons] at links
        rw [List.reverse_cons, List.append_assoc, List.singleton_append] at different known
        rw [List.getLastD_cons] at looked
        have extended := (List.nodup_append.mp different).2.1
        exact .goesOn links.1 (List.nodup_cons.mp extended).1
          (ih extended links.2 different looked known)

/-- A search fails where a link is looked for that there is no telling of. -/
theorem error_iff {seen : List NodeKey} {current : NodeKey} {fault : Fault}
    (distinct : seen.Nodup) :
    project.Ends seen current (.error fault) ↔
      Exists fun chain => (current :: chain).IsChain project.Overrides ∧
        (chain.reverse ++ seen).Nodup ∧
          (project.previousNode (chain.getLastD current)).outcome = .error fault := by
  constructor
  · intro ends
    generalize whole : Except.error fault = result at ends
    induction ends with
    | stops => cases whole
    | fails looked =>
        cases whole
        exact ⟨[], .singleton _, distinct, looked⟩
    | @goesOn _ _ previous result linked unseen _ ih =>
        cases result with
        | ok rest => cases whole
        | error inner =>
            cases whole
            rcases ih (List.nodup_cons.mpr ⟨unseen, distinct⟩) rfl with
              ⟨rest, links, different, looked⟩
            refine ⟨previous :: rest, .cons_cons linked links, ?_, ?_⟩
            · rw [List.reverse_cons, List.append_assoc, List.singleton_append]
              exact different
            · rw [List.getLastD_cons]
              exact looked
  · rintro ⟨chain, links, different, looked⟩
    induction chain generalizing seen current with
    | nil => exact .fails looked
    | cons previous rest ih =>
        rw [List.isChain_cons_cons] at links
        rw [List.reverse_cons, List.append_assoc, List.singleton_append] at different
        rw [List.getLastD_cons] at looked
        have extended := (List.nodup_append.mp different).2.1
        have later := ih extended links.2 different looked
        exact .goesOn links.1 (List.nodup_cons.mp extended).1 later

end Ends

/-- A search with a step for every node not yet seen, and one to stop, runs to its
end.  The node it started from counts as one more, since nothing says that it is
there. -/
theorem ends_overrideChainFrom {start : NodeKey} {steps : Nat} {seen : List NodeKey}
    {current : NodeKey} (distinct : seen.Nodup)
    (there : seen ⊆ start :: project.scene.addresses)
    (room : project.nodeCount + 1 < seen.length + steps) :
    project.Ends seen current (project.overrideChainFrom steps seen current).outcome := by
  induction steps generalizing seen current with
  | zero =>
      have most := (distinct.subperm there).length_le
      rw [List.length_cons, length_addresses] at most
      omega
  | succ steps ih =>
      rw [overrideChainFrom]
      cases looked : (project.previousNode current).outcome with
      | error fault =>
          rw [Reported.outcome_bind_of_error looked]
          exact .fails looked
      | ok link =>
          rw [Reported.outcome_bind_of_ok looked]
          cases kept : link.filter fun previous => !seen.contains previous with
          | none =>
              refine .stops looked ?_
              intro previous member
              rw [Option.filter_eq_none_iff] at kept
              simpa using kept previous member
          | some previous =>
              rcases Option.filter_eq_some_iff.mp kept with ⟨found, new⟩
              have unseen : previous ∉ seen := by simpa using new
              have linked : project.Overrides current previous := by
                rw [Overrides, looked, found]
              have whole := Ends.goesOn linked unseen
                (ih (List.nodup_cons.mpr ⟨unseen, distinct⟩)
                  (List.cons_subset.mpr ⟨List.mem_cons_of_mem _ linked.mem_addresses.2, there⟩)
                  (by rw [List.length_cons]; omega))
              rw [← Reported.outcome_map, map_eq_pure_bind] at whole
              exact whole

/-- The search for the chain of a node ends.  It takes fewer steps than there are
nodes, because that is true of every trail.  It finds a chain exactly if the chain is
a trail whose last node overrides nothing, or one of the nodes already met, and it
fails exactly if looking for the link from the last node of some trail does. -/
theorem overrideChain_ends (project : Project) (key : NodeKey) :
    project.Ends [key] key (project.overrideChain key).outcome ∧
    (forall chain, project.IsTrail key chain -> chain.length < project.nodeCount) ∧
    (forall chain, (project.overrideChain key).outcome = .ok chain ↔
      project.IsTrail key chain ∧ Exists fun link =>
        (project.previousNode (chain.getLastD key)).outcome = .ok link ∧
          forall previous, previous ∈ link -> previous ∈ key :: chain) ∧
    (forall fault, (project.overrideChain key).outcome = .error fault ↔
      Exists fun chain => project.IsTrail key chain ∧
        (project.previousNode (chain.getLastD key)).outcome = .error fault) := by
  have ends : project.Ends [key] key (project.overrideChain key).outcome :=
    ends_overrideChainFrom (List.nodup_singleton key)
      (List.cons_subset.mpr ⟨List.mem_cons_self, List.nil_subset _⟩)
      (by rw [List.length_singleton]; omega)
  have turned : forall chain : List NodeKey, chain.reverse ++ [key] = (key :: chain).reverse :=
    fun chain => (List.reverse_cons).symm
  have exactly : forall result, (project.overrideChain key).outcome = result ↔
      project.Ends [key] key result :=
    fun result => ⟨fun found => found ▸ ends, fun found => ends.unique found⟩
  refine ⟨ends, fun chain trail => trail.length_lt, ?_, ?_⟩
  · intro chain
    simp only [exactly, Ends.ok_iff (List.nodup_singleton key), turned, List.nodup_reverse,
      List.mem_reverse]
    exact ⟨fun ⟨links, different, rest⟩ => ⟨⟨links, different⟩, rest⟩,
      fun ⟨trail, rest⟩ => ⟨trail.linked, trail.distinct, rest⟩⟩
  · intro fault
    simp only [exactly, Ends.error_iff (List.nodup_singleton key), turned, List.nodup_reverse]
    exact ⟨fun ⟨chain, links, different, looked⟩ => ⟨chain, ⟨links, different⟩, looked⟩,
      fun ⟨chain, trail, looked⟩ => ⟨chain, trail.linked, trail.distinct, looked⟩⟩

end Project
end SceneMarkup
