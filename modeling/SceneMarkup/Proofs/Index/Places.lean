import SceneMarkup.Proofs.Index.Paths

namespace SceneMarkup

/-!
# Places in a tree

A node of a tree is at a place: the child numbers that lead to it from the root.
Two nodes may look the same, but they are never at the same place, and one of
them lies below the other one exactly if its place continues the place of the
other.

The places of a tree can be listed, a node before what lies below it and the
children in order.  Such a list leaves out no place, and it is sorted like the
words of a dictionary.  A position of a document stands for the place with the
same number in this list.  What a document says of its positions can then be
said of places, and so of the tree itself.
-/

namespace Node

/-- The node at a place. -/
def at? : List Nat -> Node -> Option Node
  | [], node => some node
  | branch :: place, node =>
      match node.children[branch]? with
      | some child => at? place child
      | none => none

mutual

/-- The places of a tree in pre-order. -/
def places : Node -> List (List Nat)
  | .container _ _ _ children => [] :: placesBelow 0 children
  | .leaf _ _ _ => [[]]

/-- The places of sibling trees, the first of which is the child number
`branch`. -/
def placesBelow (branch : Nat) : List Node -> List (List Nat)
  | [] => []
  | node :: rest => (places node).map (branch :: ·) ++ placesBelow (branch + 1) rest

end

theorem exists_of_mem_placesBelow {branch : Nat} {nodes : List Node} {place : List Nat}
    (member : place ∈ placesBelow branch nodes) :
    Exists fun first => Exists fun rest => place = first :: rest ∧ branch <= first := by
  induction nodes generalizing branch with
  | nil => cases member
  | cons node rest ih =>
      rw [placesBelow, List.mem_append, List.mem_map] at member
      rcases member with ⟨inner, _, same⟩ | later
      · exact ⟨branch, inner, same.symm, Nat.le_refl _⟩
      · rcases ih later with ⟨first, inner, same, after⟩
        exact ⟨first, inner, same, Nat.le_of_succ_le after⟩

mutual

/-- The places of a tree are sorted lexicographically. -/
theorem pairwise_places : (node : Node) -> node.places.Pairwise (· < ·)
  | .leaf id name kind => List.pairwise_singleton _ _
  | .container id name kind children => by
      rw [places, List.pairwise_cons]
      refine ⟨?_, pairwise_placesBelow 0 children⟩
      intro place member
      rcases exists_of_mem_placesBelow member with ⟨first, inner, same, _⟩
      rw [same]
      exact List.nil_lt_cons first inner

theorem pairwise_placesBelow (branch : Nat) :
    (nodes : List Node) -> (placesBelow branch nodes).Pairwise (· < ·)
  | [] => .nil
  | node :: rest => by
      rw [placesBelow, List.pairwise_append]
      refine ⟨?_, pairwise_placesBelow (branch + 1) rest, ?_⟩
      · refine (pairwise_places node).map _ ?_
        intro first second before
        exact List.cons_lt_cons_iff.mpr (Or.inr ⟨rfl, before⟩)
      · intro place member other later
        rcases List.mem_map.mp member with ⟨inner, _, same⟩
        rcases exists_of_mem_placesBelow later with ⟨first, deeper, otherSame, after⟩
        rw [← same, otherSame]
        exact List.cons_lt_cons_iff.mpr (Or.inl after)

end

end Node

namespace Document

variable {document : Document}

/-! ## The places of positions -/

/-- The place that a trail leads back from. -/
def placeOf (trail : List Step) : List Nat :=
  (trail.map (·.branch)).reverse

/-- The place of a position. -/
def place (document : Document) (index : Nat) : List Nat :=
  placeOf (document.trail index)

theorem placeOf_cons (parent branch : Nat) (trail : List Step) :
    placeOf (⟨parent, branch⟩ :: trail) = placeOf trail ++ [branch] := by
  rw [placeOf, List.map_cons, List.reverse_cons, placeOf]

mutual

/-- The positions of a tree stand for its places in order. -/
theorem map_placeOf_positionsFrom (start : Nat) (trail : List Step) :
    (node : Node) ->
      (node.positionsFrom start trail).map (fun position => placeOf position.trail) =
        node.places.map (placeOf trail ++ ·)
  | .leaf id name kind => by
      rw [Node.positionsFrom, Node.places, List.map_singleton, List.map_singleton, List.append_nil]
  | .container id name kind children => by
      rw [Node.positionsFrom, Node.places, List.map_cons, List.map_cons, List.append_nil,
        map_placeOf_positionsBelow]

theorem map_placeOf_positionsBelow (next parent branch : Nat) (trail : List Step) :
    (nodes : List Node) ->
      (Node.positionsBelow next parent branch trail nodes).map
          (fun position => placeOf position.trail) =
        (Node.placesBelow branch nodes).map (placeOf trail ++ ·)
  | [] => rfl
  | node :: rest => by
      have longer : (fun inner => placeOf trail ++ [branch] ++ inner) =
          (placeOf trail ++ ·) ∘ (branch :: ·) := by
        funext inner
        exact List.append_assoc _ _ _
      rw [Node.positionsBelow, Node.placesBelow, List.map_append, List.map_append,
        map_placeOf_positionsFrom, map_placeOf_positionsBelow, placeOf_cons, longer, List.map_map]

end

theorem length_places (document : Document) : document.root.places.length = document.size := by
  have whole := congrArg List.length (map_placeOf_positionsFrom 0 [] document.root)
  rw [List.length_map, List.length_map, Node.length_positionsFrom] at whole
  rw [size_eq, whole]

/-- A position stands for the place with the same number. -/
theorem getElem?_places_iff (index : Nat) (place : List Nat) :
    document.root.places[index]? = some place ↔
      index < document.size ∧ document.place index = place := by
  have whole := map_placeOf_positionsFrom 0 [] document.root
  have found := congrArg (fun places => places[index]?) whole
  have plain : (placeOf [] ++ ·) = (id : List Nat -> List Nat) := rfl
  rw [plain, List.map_id, List.getElem?_map, ← List.getElem?_toArray, ← document.positions_eq]
    at found
  rw [← found, size, Document.place, trail]
  constructor
  · intro listed
    rcases Option.map_eq_some_iff.mp listed with ⟨position, there, same⟩
    rw [there]
    exact ⟨(Array.getElem?_eq_some_iff.mp there).1, same⟩
  · rintro ⟨valid, same⟩
    rw [Array.getElem?_eq_getElem valid] at same ⊢
    exact congrArg some same

/-! ## From place to place -/

theorem map_node_child? (document : Document) (index branch : Nat) :
    (document.child? index branch).map document.node = (document.node index).children[branch]? := by
  rw [child?_eq, ← map_node_children, List.getElem?_map]

/-- Following child numbers leads to the node that the tree has there. -/
theorem map_node_follow? (path : List Nat) {index : Nat} (valid : index < document.size) :
    (document.follow? path index).map document.node = (document.node index).at? path := by
  induction path generalizing index with
  | nil => rfl
  | cons branch rest ih =>
      have first := document.map_node_child? index branch
      rw [follow?, Node.at?, ← first]
      cases found : document.child? index branch with
      | none => rfl
      | some child => exact ih (child?_valid valid found)

theorem size_pos (document : Document) : 0 < document.size := by
  rw [size_eq]
  exact Node.size_pos _

theorem place_root (document : Document) : document.place 0 = [] := by
  rw [place, document.holds_root.trail_eq]
  rfl

/-- Following the place of a position from the root leads to it. -/
theorem follow?_place {index : Nat} (valid : index < document.size) :
    document.follow? (document.place index) 0 = some index := by
  have covers : document.Covers 0 index := by
    refine ⟨Nat.zero_le _, ?_⟩
    rw [document.holds_root.stop_eq, Nat.zero_add, ← size_eq]
    exact valid
  rcases covers.exists_follow? with ⟨path, leads⟩
  rcases trail_of_follow? document.size_pos leads with ⟨_, steps, extended, same⟩
  rw [document.holds_root.trail_eq, List.append_nil] at extended
  rw [place, placeOf, extended, same]
  exact leads

/-- A path leads from one position to another one exactly if it continues the place
of the first one to that of the second. -/
theorem follow?_eq_some_iff_place {above : Nat} (valid : above < document.size) (path : List Nat)
    (index : Nat) :
    document.follow? path above = some index ↔
      index < document.size ∧ document.place index = document.place above ++ path := by
  constructor
  · intro followed
    rcases trail_of_follow? valid followed with ⟨covers, steps, extended, same⟩
    refine ⟨covers.lower_valid, ?_⟩
    rw [place, place, placeOf, placeOf, extended, List.map_append, List.reverse_append, same]
  · rintro ⟨lowerValid, continued⟩
    have whole := follow?_place lowerValid
    rw [continued, follow?_append, follow?_place valid, Option.bind_some] at whole
    exact whole

/-- A subtree holds the positions of the places that continue its own. -/
theorem covers_iff_place {above : Nat} (valid : above < document.size) (index : Nat) :
    document.Covers above index ↔
      index < document.size ∧ document.place above <+: document.place index := by
  rw [← path?_isSome_iff]
  constructor
  · rintro ⟨path, found⟩
    rw [← follow?_eq_some_iff valid, follow?_eq_some_iff_place valid] at found
    exact ⟨found.1, path, found.2.symm⟩
  · rintro ⟨lowerValid, path, continued⟩
    refine ⟨path, ?_⟩
    rw [← follow?_eq_some_iff valid, follow?_eq_some_iff_place valid]
    exact ⟨lowerValid, continued.symm⟩

theorem child?_eq_some_iff_place {index : Nat} (valid : index < document.size)
    (branch child : Nat) :
    document.child? index branch = some child ↔
      child < document.size ∧ document.place child = document.place index ++ [branch] := by
  rw [← follow?_eq_some_iff_place valid, follow?_singleton]

theorem place_injective {first second : Nat} (firstValid : first < document.size)
    (secondValid : second < document.size) (same : document.place first = document.place second) :
    first = second := by
  have leads := follow?_place firstValid
  rw [same, follow?_place secondValid] at leads
  exact (Option.some.inj leads).symm

/-- Positions are numbered in the order in which a dictionary has their places. -/
theorem place_lt_place_iff {first second : Nat} (firstValid : first < document.size)
    (secondValid : second < document.size) :
    document.place first < document.place second ↔ first < second := by
  have ordered : forall {lower upper : Nat}, lower < document.size -> upper < document.size ->
      lower < upper -> document.place lower < document.place upper := by
    intro lower upper lowerValid upperValid order
    have lowerListed := (getElem?_places_iff lower _).mpr ⟨lowerValid, rfl⟩
    have upperListed := (getElem?_places_iff upper _).mpr ⟨upperValid, rfl⟩
    rcases List.getElem?_eq_some_iff.mp lowerListed with ⟨_, lowerSame⟩
    rcases List.getElem?_eq_some_iff.mp upperListed with ⟨_, upperSame⟩
    rw [← lowerSame, ← upperSame]
    exact List.pairwise_iff_getElem.mp document.root.pairwise_places _ _ _ _ order
  constructor
  · intro before
    rcases Nat.lt_trichotomy first second with earlier | same | later
    · exact earlier
    · rw [same] at before
      exact absurd before (List.lt_irrefl _)
    · exact absurd before (List.lt_asymm (ordered secondValid firstValid later))
  · exact ordered firstValid secondValid

/-- The tree has a node at a place exactly if some position stands for the place,
and then it is the node of the position. -/
theorem at?_root_eq_some_iff (place : List Nat) (node : Node) :
    document.root.at? place = some node ↔ Exists fun index =>
      index < document.size ∧ document.place index = place ∧ document.node index = node := by
  have followed := map_node_follow? place document.size_pos
  rw [document.holds_root.node_eq] at followed
  rw [← followed, Option.map_eq_some_iff]
  constructor
  · rintro ⟨index, leads, same⟩
    rw [follow?_eq_some_iff_place document.size_pos, place_root] at leads
    exact ⟨index, leads.1, leads.2, same⟩
  · rintro ⟨index, valid, same, node⟩
    refine ⟨index, ?_, node⟩
    rw [← same]
    exact follow?_place valid

end Document

/-- The listed places are those where the tree has a node. -/
theorem Node.mem_places_iff (root : Node) (place : List Nat) :
    place ∈ root.places ↔ Exists fun node => root.at? place = some node := by
  have listed := (Document.ofRoot root).getElem?_places_iff
  have there := (Document.ofRoot root).at?_root_eq_some_iff place
  rw [List.mem_iff_getElem?]
  constructor
  · rintro ⟨index, found⟩
    rcases (listed index place).mp found with ⟨valid, same⟩
    exact ⟨_, (there _).mpr ⟨index, valid, same, rfl⟩⟩
  · rintro ⟨node, found⟩
    rcases (there node).mp found with ⟨index, valid, same, _⟩
    exact ⟨index, (listed index place).mpr ⟨valid, same⟩⟩

end SceneMarkup
