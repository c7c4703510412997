import Mathlib.Data.List.Induction
import SceneMarkup.Proofs.Index.Lookup

namespace SceneMarkup

/-!
# Paths lead back

The child numbers that lead from one node down to another can be followed again,
also below another node: that is how a layer of an instance is matched with the
layer at the same place in its component.  The two directions are computed in
different ways.  A path is noted on the way up, from parent to parent, whereas
following it goes down, at each step hopping over the subtrees in front of the
child.

Both agree.  A child lies one step below its parent, so whatever a path leads to
is left again by climbing back along it; and every node below another one is
reached somehow.  A path is therefore the only one that leads where it leads, and
layers at different places are matched with different layers.
-/

namespace Document

variable {document : Document}

/-! ## Children -/

/-- A child lies inside its parent, and one step below. -/
theorem trail_of_child? {index branch child : Nat} (valid : index < document.size)
    (found : document.child? index branch = some child) :
    document.trail child = ⟨index, branch⟩ :: document.trail index ∧
      document.Covers index child := by
  have held := document.holds valid
  rw [child?_eq] at found
  rcases held.below.sibling found with ⟨node, _, stands, after, before⟩
  have positive := node.size_pos
  rw [stands.trail_eq, Nat.zero_add]
  refine ⟨rfl, by omega, ?_⟩
  rw [held.stop_eq, Node.size_eq]
  omega

/-! ## Following a path -/

/-- Following a path from a node leads below it, and extends the trail of the node
by the steps of the path. -/
theorem trail_of_follow? {path : List Nat} :
    forall {root index : Nat}, root < document.size -> document.follow? path root = some index ->
      document.Covers root index ∧ Exists fun steps =>
        document.trail index = steps ++ document.trail root ∧
          (steps.map (·.branch)).reverse = path := by
  induction path with
  | nil =>
      intro root index valid followed
      rw [← Option.some.inj followed]
      exact ⟨Covers.refl valid, [], rfl, rfl⟩
  | cons branch rest ih =>
      intro root index valid followed
      rw [follow?] at followed
      cases found : document.child? root branch with
      | none =>
          rw [found] at followed
          cases followed
      | some child =>
          rw [found] at followed
          rcases trail_of_child? valid found with ⟨extended, inside⟩
          rcases ih (child?_valid valid found) followed with ⟨below, steps, whole, same⟩
          refine ⟨inside.trans below, steps ++ [⟨root, branch⟩], ?_, ?_⟩
          · rw [whole, extended, List.append_assoc, List.singleton_append]
          · rw [List.map_append, List.reverse_append, same]
            rfl

theorem follow?_singleton (document : Document) (branch index : Nat) :
    document.follow? [branch] index = document.child? index branch := by
  rw [follow?]
  cases document.child? index branch <;> rfl

theorem follow?_append (first second : List Nat) (index : Nat) :
    document.follow? (first ++ second) index =
      (document.follow? first index).bind (document.follow? second) := by
  induction first generalizing index with
  | nil => rfl
  | cons branch rest ih =>
      rw [List.cons_append, follow?, follow?]
      cases document.child? index branch with
      | none => rfl
      | some child => exact ih child

/-! ## Climbing back -/

theorem climb?_self (document : Document) (root : Nat) : document.climb? root root = some [] := by
  rw [climb?, if_pos rfl]

/-- From a child, climbing goes on from its parent. -/
theorem climb?_of_child? {root index branch child : Nat} (valid : index < document.size)
    (below : root <= index) (found : document.child? index branch = some child) :
    document.climb? root child = (document.climb? root index).map (branch :: ·) := by
  rcases trail_of_child? valid found with ⟨extended, _⟩
  have link : (document.trail child).head? = some ⟨index, branch⟩ := by
    rw [extended, List.head?_cons]
  have deeper := document.parent_lt_of_mem_trail (List.mem_of_head? link)
  rw [climb?, if_neg (Nat.ne_of_gt (Nat.lt_of_le_of_lt below deeper))]
  split
  · rename_i step found
    rw [← Option.some.inj (link.symm.trans found)]
  · rename_i missing
    cases link.symm.trans missing

/-- Climbing back from where a path leads meets the steps of the path, the last one
first. -/
theorem climb?_of_follow? {path : List Nat} {root : Nat} (valid : root < document.size) :
    forall {index : Nat}, document.follow? path root = some index ->
      document.climb? root index = some path.reverse := by
  induction path using List.reverseRecOn with
  | nil =>
      intro index followed
      rw [← Option.some.inj followed, climb?_self, List.reverse_nil]
  | append_singleton path branch ih =>
      intro index followed
      rw [follow?_append, Option.bind_eq_some_iff] at followed
      rcases followed with ⟨parent, reached, last⟩
      rw [follow?_singleton] at last
      have covers := (trail_of_follow? valid reached).1
      rw [climb?_of_child? covers.lower_valid covers.1 last, ih reached, Option.map_some,
        List.reverse_append, List.reverse_singleton, List.singleton_append]

/-- The path to a node is the path that was followed there. -/
theorem path?_of_follow? {path : List Nat} {root index : Nat} (valid : root < document.size)
    (followed : document.follow? path root = some index) :
    document.path? index root = some path := by
  have covers := (trail_of_follow? valid followed).1
  rw [path?]
  refine (if_pos covers).trans ?_
  rw [climb?_of_follow? valid followed, Option.map_some, List.reverse_reverse]

mutual

/-- Every position inside a tree is reached from its root. -/
theorem Holds.exists_follow? {start : Nat} {trail : List Step} :
    {node : Node} -> (held : document.Holds start trail node) -> {index : Nat} ->
      start <= index -> index < start + node.size ->
        Exists fun path => document.follow? path start = some index
  | .leaf id name kind, held, index, lower, upper => by
      have same : start = index := by
        rw [Node.size] at upper
        omega
      exact ⟨[], congrArg some same⟩
  | .container id name kind children, held, index, lower, upper => by
      by_cases root : start = index
      · exact ⟨[], congrArg some root⟩
      · rw [Node.size] at upper
        have after : start + 1 <= index := by omega
        have before : index < start + 1 + Node.sizeAll children := by omega
        have below : document.HoldsBelow (start + 1) start 0 trail children := held.below
        rcases HoldsBelow.exists_follow? below after before with ⟨place, child, found, path, leads⟩
        refine ⟨place :: path, ?_⟩
        have first : document.child? start place = some child := by
          rw [child?_eq, Document.children, held.node_eq]
          exact found
        rw [follow?, first]
        exact leads

/-- Every position inside sibling trees is reached from one of their roots. -/
theorem HoldsBelow.exists_follow? {next parent branch : Nat} {trail : List Step} :
    {nodes : List Node} -> (held : document.HoldsBelow next parent branch trail nodes) ->
      {index : Nat} -> next <= index -> index < next + Node.sizeAll nodes ->
        Exists fun place : Nat => Exists fun child =>
          (document.siblings next nodes)[place]? = some child ∧
            Exists fun path => document.follow? path child = some index
  | [], _, index, lower, upper => by
      rw [Node.sizeAll] at upper
      omega
  | node :: rest, held, index, lower, upper => by
      rw [Node.sizeAll] at upper
      have stops := held.head.stop_eq
      by_cases first : index < next + node.size
      · exact ⟨0, next, rfl, Holds.exists_follow? held.head lower first⟩
      · have after : next + node.size <= index := Nat.le_of_not_lt first
        have before : index < next + node.size + Node.sizeAll rest := by omega
        rcases HoldsBelow.exists_follow? held.tail after before with ⟨place, child, found, leads⟩
        refine ⟨place + 1, child, ?_, leads⟩
        rw [siblings, stops]
        exact found

end

/-- Every position of a subtree is reached from its root. -/
theorem Covers.exists_follow? {root index : Nat} (covers : document.Covers root index) :
    Exists fun path => document.follow? path root = some index := by
  have held := document.holds covers.valid
  have upper := covers.2
  rw [held.stop_eq] at upper
  exact held.exists_follow? covers.1 upper

/-- A node lies below another one exactly if some path leads there. -/
theorem path?_isSome_iff (index root : Nat) :
    (Exists fun path => document.path? index root = some path) ↔ document.Covers root index := by
  constructor
  · rintro ⟨path, found⟩
    rw [path?] at found
    split at found
    · assumption
    · cases found
  · intro covers
    rcases covers.exists_follow? with ⟨path, leads⟩
    exact ⟨path, path?_of_follow? covers.valid leads⟩

/-- The path to a node, and no other, leads to it. -/
theorem follow?_eq_some_iff {root : Nat} (valid : root < document.size) (path : List Nat)
    (index : Nat) :
    document.follow? path root = some index ↔ document.path? index root = some path := by
  constructor
  · exact path?_of_follow? valid
  · intro found
    have covers := (path?_isSome_iff index root).mp ⟨path, found⟩
    rcases covers.exists_follow? with ⟨other, leads⟩
    have same := (path?_of_follow? valid leads).symm.trans found
    rw [← Option.some.inj same]
    exact leads

/-! ## Paths below a node -/

/-- Climbing from a subtree arrives at its root. -/
theorem Covers.exists_climb? {root index : Nat} (covers : document.Covers root index) :
    Exists fun branches => document.climb? root index = some branches := by
  rcases covers.exists_follow? with ⟨path, leads⟩
  exact ⟨path.reverse, climb?_of_follow? covers.valid leads⟩

theorem path?_eq_none_iff (index root : Nat) :
    document.path? index root = none ↔ index ∉ document.subtree root := by
  rw [mem_subtree_iff, ← path?_isSome_iff, ← Option.isSome_iff_exists,
    Option.not_isSome_iff_eq_none]

theorem path?_self {root : Nat} (valid : root < document.size) :
    document.path? root root = some [] :=
  path?_of_follow? valid rfl

/-- The path to a child is the path to its parent and one more step. -/
theorem path?_of_child? {root index branch child : Nat} {path : List Nat}
    (found : document.path? index root = some path)
    (last : document.child? index branch = some child) :
    document.path? child root = some (path ++ [branch]) := by
  have valid := ((path?_isSome_iff index root).mp ⟨path, found⟩).valid
  rw [← follow?_eq_some_iff valid, follow?_append, (follow?_eq_some_iff valid path index).mpr found,
    Option.bind_some, follow?_singleton, last]

/-- Below one node of a document, the paths that are noted on the way up are those
that can be followed down. -/
structure PathsLeadBack (document : Document) (root : Nat) : Prop where
  inside : forall index, index ∈ document.subtree root -> Exists fun path =>
    document.path? index root = some path ∧ document.follow? path root = some index ∧
      (path = [] ↔ index = root)
  noted : forall path index, document.follow? path root = some index ->
    document.path? index root = some path
  outside : forall index, document.path? index root = none ↔ index ∉ document.subtree root
  climbs : forall index, index ∈ document.subtree root -> Exists fun branches =>
    document.climb? root index = some branches
  joined : forall first second, document.follow? (first ++ second) root =
    (document.follow? first root).bind (document.follow? second)
  mirrored : forall (other : Document) (component index branch child : Nat) (path : List Nat),
    document.path? index root = some path -> document.child? index branch = some child ->
      Exists fun longer => document.path? child root = some longer ∧
        other.follow? longer component =
          (other.follow? path component).bind fun mirror => other.child? mirror branch

/-- Noting a path and following it are inverse to each other, below every node of
every document. -/
theorem paths_lead_back {root : Nat} (valid : root < document.size) :
    document.PathsLeadBack root where
  inside index member := by
    have covers := (document.mem_subtree_iff root index).mp member
    rcases covers.exists_follow? with ⟨path, leads⟩
    refine ⟨path, path?_of_follow? valid leads, leads, ?_⟩
    constructor
    · rintro rfl
      exact (Option.some.inj leads).symm
    · rintro rfl
      exact Option.some.inj ((path?_of_follow? valid leads).symm.trans (path?_self valid))
  noted path index := path?_of_follow? valid
  outside index := path?_eq_none_iff index root
  climbs index member := ((document.mem_subtree_iff root index).mp member).exists_climb?
  joined first second := follow?_append first second root
  mirrored other component index branch child path found last := by
    refine ⟨path ++ [branch], path?_of_child? found last, ?_⟩
    rw [follow?_append]
    exact congrArg _ (funext fun mirror => follow?_singleton other branch mirror)

/-- A toolbar that shows an instance with a label beside a group, and a label behind
the instance. -/
def toolbar : Node :=
  .container "1:1" "Toolbar" (.component false .blank)
    [ .container "1:2" "Search" (.placement "2:1" false .blank)
        [ .container "1:3" "Icon" .group [.leaf "1:4" "Lens" (.shape .vector .blank)],
          .leaf "1:5" "Hint" (.text "Find" .blank .blank) ],
      .leaf "1:6" "Close" (.text "x" .blank .blank) ]

/-- Below the instance of the toolbar, paths lead to the lens and to the hint, and
neither to the label behind the instance nor beyond the two children. -/
theorem toolbar_paths_lead_back :
    1 < (ofRoot toolbar).size ∧ (ofRoot toolbar).PathsLeadBack 1 ∧
      (ofRoot toolbar).path? 3 1 = some [0, 0] ∧ (ofRoot toolbar).follow? [0, 0] 1 = some 3 ∧
      (ofRoot toolbar).path? 4 1 = some [1] ∧ (ofRoot toolbar).path? 5 1 = none ∧
      (ofRoot toolbar).follow? [2] 1 = none := by
  have valid : 1 < (ofRoot toolbar).size := by decide
  have back := paths_lead_back valid
  refine ⟨valid, back, back.noted _ _ (by decide), by decide, back.noted _ _ (by decide), ?_,
    by decide⟩
  exact (back.outside 5).mpr (by decide)

end Document

namespace Scene

variable {scene : Scene}

theorem follow?_eq_some_iff {root : NodeKey} (valid : scene.IsNode root) (path : List Nat)
    (key : NodeKey) :
    scene.follow? path root = some key ↔ scene.path? key root = some path := by
  rw [follow?, path?, Option.map_eq_some_iff]
  constructor
  · intro followed
    rcases followed with ⟨index, leads, same⟩
    rw [← same, if_pos rfl]
    exact (Document.follow?_eq_some_iff valid path index).mp leads
  · intro found
    split at found
    · rename_i sameFile
      rw [sameFile] at found
      refine ⟨key.index, (Document.follow?_eq_some_iff valid path key.index).mpr found, ?_⟩
      exact NodeKey.eq_of_same_place sameFile.symm rfl
    · cases found

/-- A node contains another one exactly if some path leads there. -/
theorem path?_isSome_iff {root : NodeKey} (valid : scene.IsNode root) (key : NodeKey) :
    (Exists fun path => scene.path? key root = some path) ↔ scene.Contains root key := by
  constructor
  · intro found
    rcases found with ⟨path, found⟩
    rw [path?] at found
    split at found
    · rename_i sameFile
      have covers := (Document.path?_isSome_iff key.index root.index).mp ⟨path, found⟩
      exact (contains_iff covers.lower_valid root).mpr ⟨sameFile.symm, covers⟩
    · cases found
  · intro contains
    rcases (contains_iff (contains.isNode valid) root).mp contains with ⟨sameFile, covers⟩
    rw [path?, if_pos sameFile.symm]
    exact (Document.path?_isSome_iff key.index root.index).mpr covers

end Scene
end SceneMarkup
