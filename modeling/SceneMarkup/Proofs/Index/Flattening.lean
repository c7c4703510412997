import SceneMarkup.Proofs.Index.Depth
import SceneMarkup.Proofs.Index.Places

namespace SceneMarkup

/-!
# A document is its tree, laid flat

Everything that a translation looks up is looked up in positions, so a document
has to say the same as the tree it was made from.  What it should say is put in
terms of the tree alone: its nodes in pre-order, and the places where they stand.
Positions then only have to be told which place they stand for, and that is the
one with the same number.

A subtree holds the places that continue the place of its root; the children are
those one step further; and the nearest ancestor of a type is the longest place
on the way down, short of the whole way, at which the tree has such a node.
-/

namespace Node

mutual

/-- The nodes of a tree in pre-order. -/
def preorder : Node -> List Node
  | .container id name kind children => .container id name kind children :: preorderAll children
  | .leaf id name kind => [.leaf id name kind]

/-- The nodes of sibling trees in pre-order. -/
def preorderAll : List Node -> List Node
  | [] => []
  | node :: rest => preorder node ++ preorderAll rest

end

/-- A place lies strictly above another one, and the tree has a node of a type
there. -/
structure HasAbove (root : Node) (type : NodeType) (place above : List Nat) : Prop where
  isAbove : above <+: place
  strict : above ≠ place
  typed : (root.at? above).map Node.type = some type

/-- Of the nodes of a type above a place, this is the place of the nearest one. -/
structure HasNearest (root : Node) (type : NodeType) (place above : List Nat) : Prop
    extends root.HasAbove type place above where
  nearest : forall other, root.HasAbove type place other -> other <+: above

end Node

namespace Document

variable {document : Document}

/-! ## Nodes in pre-order -/

mutual

/-- The positions of a tree hold its nodes in pre-order. -/
theorem Holds.map_node {start : Nat} {trail : List Step} :
    {node : Node} -> (held : document.Holds start trail node) ->
      (List.range' start node.size).map document.node = node.preorder
  | .leaf id name kind, held => by
      rw [Node.size, List.range'_one, List.map_singleton, held.node_eq, Node.preorder]
  | .container id name kind children, held => by
      have below : document.HoldsBelow (start + 1) start 0 trail children := held.below
      rw [Node.size, List.range'_succ, List.map_cons, held.node_eq, below.map_node, Node.preorder]

/-- The positions of sibling trees hold their nodes in pre-order. -/
theorem HoldsBelow.map_node {next parent branch : Nat} {trail : List Step} :
    {nodes : List Node} -> (held : document.HoldsBelow next parent branch trail nodes) ->
      (List.range' next (Node.sizeAll nodes)).map document.node = Node.preorderAll nodes
  | [], held => rfl
  | node :: rest, held => by
      rw [Node.sizeAll, ← List.range'_append_1, List.map_append, held.head.map_node,
        held.tail.map_node, Node.preorderAll]

end

theorem nodes_eq (document : Document) : document.nodes = document.root.preorder := by
  rw [← document.holds_root.map_node, ← size_eq, nodes]
  apply List.ext_getElem?
  intro index
  rw [List.getElem?_map, List.getElem?_map, Array.getElem?_toList]
  by_cases valid : index < document.size
  · rw [List.getElem?_range' valid, (document.holds valid).position, Nat.zero_add, Nat.one_mul]
    rfl
  · have beyond : (List.range' 0 document.size).length <= index := by
      rw [List.length_range']
      exact Nat.le_of_not_lt valid
    rw [position_eq_none valid, List.getElem?_eq_none beyond, Option.map_none, Option.map_none]

/-! ## Ancestors -/

/-- An ancestor of a position stands for a place above its own. -/
theorem mem_ancestors_iff_place {index : Nat} (valid : index < document.size) (above : Nat) :
    above ∈ document.ancestors index ↔
      above < document.size ∧ document.place above <+: document.place index ∧
        document.place above ≠ document.place index := by
  rw [mem_ancestors_iff valid]
  constructor
  · rintro ⟨different, covers⟩
    have aboveValid := covers.valid
    rw [covers_iff_place aboveValid] at covers
    exact ⟨aboveValid, covers.2, fun same => different (place_injective aboveValid valid same)⟩
  · rintro ⟨aboveValid, shorter, different⟩
    refine ⟨fun same => different (congrArg document.place same), ?_⟩
    exact (covers_iff_place aboveValid index).mpr ⟨valid, shorter⟩

/-- The way back from a position goes on as the way back from its parent. -/
theorem trail_of_parent {index : Nat} {step : Step} {rest : List Step}
    (valid : index < document.size) (leads : document.trail index = step :: rest) :
    step.parent < index ∧ document.trail step.parent = rest := by
  have front : document.place index = placeOf rest ++ [step.branch] := by
    rw [place, leads, placeOf_cons]
  have followed := follow?_place valid
  rw [front, follow?_append, Option.bind_eq_some_iff] at followed
  rcases followed with ⟨parent, reached, last⟩
  rw [follow?_singleton] at last
  rcases trail_of_child? (follow?_valid document.size_pos reached) last with ⟨extended, covers⟩
  rcases List.cons.inj (leads.symm.trans extended) with ⟨same, whole⟩
  rw [same, whole]
  refine ⟨Nat.lt_of_le_of_ne covers.1 ?_, rfl⟩
  intro itself
  have lengths := congrArg (fun position => (document.trail position).length) itself
  dsimp only at lengths
  rw [extended, List.length_cons] at lengths
  omega

/-- The ancestors of a position are its parent and the ancestors of its parent. -/
theorem ancestors_of_parent? {index parent : Nat} (valid : index < document.size)
    (found : document.parent? index = some parent) :
    parent < index ∧ document.ancestors index = parent :: document.ancestors parent := by
  rw [parent?, Option.map_eq_some_iff] at found
  rcases found with ⟨step, first, same⟩
  rcases List.head?_eq_some_iff.mp first with ⟨rest, leads⟩
  rcases trail_of_parent valid leads with ⟨earlier, above⟩
  rw [same] at earlier above
  rw [ancestors, ancestors, leads, above, List.map_cons, same]
  exact ⟨earlier, rfl⟩

theorem ancestors_of_no_parent {index : Nat} (found : document.parent? index = none) :
    document.ancestors index = [] := by
  rw [parent?, Option.map_eq_none_iff, List.head?_eq_none_iff] at found
  rw [ancestors, found, List.map_nil]

/-- Ancestors are listed from the nearest one to the root. -/
theorem pairwise_ancestors {index : Nat} (valid : index < document.size) :
    (document.ancestors index).Pairwise (· > ·) := by
  induction index using Nat.strongRecOn with
  | ind index ih =>
      cases found : document.parent? index with
      | none =>
          rw [ancestors_of_no_parent found]
          exact .nil
      | some parent =>
          rcases ancestors_of_parent? valid found with ⟨earlier, whole⟩
          have parentValid := Nat.lt_trans earlier valid
          rw [whole, List.pairwise_cons]
          refine ⟨?_, ih parent earlier parentValid⟩
          intro other member
          rw [mem_ancestors_iff parentValid] at member
          exact Nat.lt_of_le_of_ne member.2.1 member.1

/-- Behind an ancestor stand its own ancestors. -/
theorem ancestors_of_split {ancestor : Nat} {beyond : List Nat} (nearer : List Nat) :
    forall index, document.ancestors index = nearer ++ ancestor :: beyond ->
      beyond = document.ancestors ancestor := by
  -- Where there are ancestors there is a parent, and the first of them is the parent.
  have first : forall index parent rest, document.ancestors index = parent :: rest ->
      rest = document.ancestors parent := by
    intro index parent rest leads
    have valid : index < document.size := by
      by_contra outside
      rw [ancestors, trail_eq_nil outside] at leads
      cases leads
    cases found : document.parent? index with
    | none =>
        rw [ancestors_of_no_parent found] at leads
        cases leads
    | some actual =>
        rw [(ancestors_of_parent? valid found).2] at leads
        rcases List.cons.inj leads with ⟨same, whole⟩
        rw [← whole, same]
  induction nearer with
  | nil =>
      intro index leads
      exact first index ancestor beyond leads
  | cons parent rest ih =>
      intro index leads
      exact ih parent (first index parent _ leads).symm

/-- What the tree has above the place of a position are the ancestors of the
position. -/
theorem hasAbove_iff {index : Nat} (valid : index < document.size) (type : NodeType)
    (above : List Nat) :
    document.root.HasAbove type (document.place index) above ↔ Exists fun owner =>
      owner ∈ document.ancestors index ∧ document.place owner = above ∧
        (document.node owner).type = type := by
  constructor
  · rintro ⟨isAbove, strict, typed⟩
    rcases Option.map_eq_some_iff.mp typed with ⟨node, there, typed⟩
    rcases (at?_root_eq_some_iff above node).mp there with ⟨owner, ownerValid, same, isNode⟩
    refine ⟨owner, (mem_ancestors_iff_place valid owner).mpr ⟨ownerValid, ?_⟩, same, ?_⟩
    · rw [same]
      exact ⟨isAbove, strict⟩
    · rw [isNode, typed]
  · rintro ⟨owner, member, same, typed⟩
    rcases (mem_ancestors_iff_place valid owner).mp member with ⟨ownerValid, isAbove, strict⟩
    rw [← same]
    refine ⟨isAbove, strict, ?_⟩
    rw [(at?_root_eq_some_iff _ _).mpr ⟨owner, ownerValid, rfl, rfl⟩, Option.map_some, typed]

theorem nearestAncestor?_eq_none_iff {index : Nat} (valid : index < document.size)
    (type : NodeType) :
    document.nearestAncestor? index type = none ↔
      forall above, ¬ document.root.HasAbove type (document.place index) above := by
  rw [nearestAncestor?, List.find?_eq_none]
  constructor
  · intro absent above there
    rcases (hasAbove_iff valid type above).mp there with ⟨owner, member, _, typed⟩
    exact absent owner member (beq_iff_eq.mpr typed)
  · intro absent owner member typed
    exact absent _ ((hasAbove_iff valid type _).mpr ⟨owner, member, rfl, beq_iff_eq.mp typed⟩)

/-- Every other ancestor of the type stands before the one that is found. -/
theorem le_of_nearestAncestor? {index owner other : Nat} {type : NodeType}
    (valid : index < document.size) (found : document.nearestAncestor? index type = some owner)
    (member : other ∈ document.ancestors index) (typed : (document.node other).type = type) :
    other <= owner := by
  rw [nearestAncestor?, List.find?_eq_some_iff_append] at found
  rcases found with ⟨_, nearer, farther, whole, passed⟩
  have sorted := pairwise_ancestors valid
  rw [whole] at sorted member
  rcases List.mem_append.mp member with before | behind
  · have wrong := passed other before
    rw [typed, beq_self_eq_true] at wrong
    cases wrong
  · rcases List.mem_cons.mp behind with itself | later
    · exact Nat.le_of_eq itself
    · have descending := (List.pairwise_append.mp sorted).2.1
      exact Nat.le_of_lt ((List.pairwise_cons.mp descending).1 other later)

/-- The ancestor that is found is the one with the longest place. -/
theorem hasNearest_of_nearestAncestor? {index owner : Nat} {type : NodeType}
    (valid : index < document.size) (found : document.nearestAncestor? index type = some owner) :
    owner < document.size ∧
      document.root.HasNearest type (document.place index) (document.place owner) := by
  have member : owner ∈ document.ancestors index := List.mem_of_find?_eq_some found
  have passed : ((document.node owner).type == type) = true :=
    List.find?_some (p := fun ancestor => (document.node ancestor).type == type) found
  have typed := beq_iff_eq.mp passed
  have covers := ((mem_ancestors_iff valid owner).mp member).2
  have there := (hasAbove_iff valid type _).mpr ⟨owner, member, rfl, typed⟩
  refine ⟨covers.valid, there, ?_⟩
  intro above otherThere
  rcases (hasAbove_iff valid type above).mp otherThere with ⟨other, otherMember, same, otherTyped⟩
  have order := le_of_nearestAncestor? valid found otherMember otherTyped
  have otherCovers := ((mem_ancestors_iff valid other).mp otherMember).2
  have between := otherCovers.of_le covers order
  rw [← same]
  exact ((covers_iff_place otherCovers.valid owner).mp between).2

/-! ## Looking up an id -/

theorem find?_eq (document : Document) (id : String) :
    document.find? id = document.root.preorder.findIdx? fun node => node.id == id := by
  rw [← nodes_eq, nodes, List.findIdx?_map, find?, document.positions_eq, List.findIdx?_toArray]
  rfl

/-- The position of an id is the first one in pre-order whose node carries it. -/
theorem find?_eq_some_iff (id : String) (index : Nat) :
    document.find? id = some index ↔
      (document.root.preorder[index]?).map Node.id = some id ∧
        forall earlier, earlier < index ->
          (document.root.preorder[earlier]?).map Node.id ≠ some id := by
  rw [find?_eq, List.findIdx?_eq_some_iff_getElem]
  constructor
  · rintro ⟨inside, carries, before⟩
    rw [List.getElem?_eq_getElem inside, Option.map_some, beq_iff_eq.mp carries]
    refine ⟨rfl, fun earlier order => ?_⟩
    have other := before earlier order
    rw [List.getElem?_eq_getElem (Nat.lt_trans order inside), Option.map_some]
    intro same
    exact other (beq_iff_eq.mpr (Option.some.inj same))
  · rintro ⟨carries, before⟩
    rcases Option.map_eq_some_iff.mp carries with ⟨node, there, same⟩
    rcases List.getElem?_eq_some_iff.mp there with ⟨inside, isNode⟩
    refine ⟨inside, beq_iff_eq.mpr (isNode ▸ same), fun earlier order other => ?_⟩
    refine before earlier order ?_
    rw [List.getElem?_eq_getElem (Nat.lt_trans order inside), Option.map_some, beq_iff_eq.mp other]

theorem find?_eq_none_iff (id : String) :
    document.find? id = none ↔ forall node, node ∈ document.root.preorder -> node.id ≠ id := by
  rw [find?_eq, List.findIdx?_eq_none_iff]
  simp only [beq_eq_false_iff_ne]

/-! ## The whole document -/

/-- What is found for the nearest node of a type above a place: its position, or
nothing, if the tree has no such node there. -/
def FindsNearest (root : Node) (type : NodeType) (place : List Nat) (found : Option Nat) : Prop :=
  match found with
  | some owner => Exists fun above =>
      root.places[owner]? = some above ∧ root.HasNearest type place above
  | none => forall above, ¬ root.HasAbove type place above

/-- A position of a document is a faithful picture of a place of a tree. -/
structure Depicts (document : Document) (root : Node) (index : Nat) (place : List Nat) : Prop where
  node : root.at? place = some (document.node index)
  ascending : (document.subtree index).Pairwise (· < ·)
  nodes : (document.subtree index).map document.node = (document.node index).preorder
  subtree : forall other, other ∈ document.subtree index ↔
    Exists fun deeper => root.places[other]? = some (place ++ deeper)
  children : forall branch,
    (document.child? index branch).map document.node = (document.node index).children[branch]?
  beyond : forall branch, (document.node index).children.length <= branch ->
    document.child? index branch = none
  child : forall branch child, document.child? index branch = some child ↔
    root.places[child]? = some (place ++ [branch])
  parent : forall branch child, document.child? index branch = some child ->
    document.parent? child = some index
  ownerComponent : FindsNearest root .component place (document.ownerComponent? index)
  ownerInstance : FindsNearest root .placement place (document.ownerInstance? index)

/-- A document is a faithful picture of a tree: its positions are the places of the
tree in the order of a dictionary. -/
structure Flattens (document : Document) (root : Node) : Prop where
  nodes : document.nodes = root.preorder
  size : document.size = root.places.length
  everywhere : forall place node, root.at? place = some node ->
    Exists fun index : Nat => root.places[index]? = some place
  order : forall (index other : Nat) place otherPlace, root.places[index]? = some place ->
    root.places[other]? = some otherPlace -> (place < otherPlace ↔ index < other)
  positions : forall index place, root.places[index]? = some place ->
    document.Depicts root index place
  first : forall id index, document.find? id = some index ↔
    (root.preorder[index]?).map Node.id = some id ∧
      forall earlier, earlier < index -> (root.preorder[earlier]?).map Node.id ≠ some id
  absent : forall id, document.find? id = none ↔ forall node, node ∈ root.preorder -> node.id ≠ id

theorem findsNearest {index : Nat} (valid : index < document.size) (type : NodeType) :
    FindsNearest document.root type (document.place index)
      (document.nearestAncestor? index type) := by
  cases found : document.nearestAncestor? index type with
  | none => exact (nearestAncestor?_eq_none_iff valid type).mp found
  | some owner =>
      rcases hasNearest_of_nearestAncestor? valid found with ⟨ownerValid, nearest⟩
      exact ⟨_, (getElem?_places_iff owner _).mpr ⟨ownerValid, rfl⟩, nearest⟩

theorem depicts {index : Nat} (valid : index < document.size) :
    document.Depicts document.root index (document.place index) where
  node := (at?_root_eq_some_iff _ _).mpr ⟨index, valid, rfl, rfl⟩
  ascending := by
    rw [subtree]
    exact List.pairwise_lt_range'
  nodes := by
    rw [(document.holds valid).subtree_eq, (document.holds valid).map_node]
  subtree other := by
    rw [mem_subtree_iff, covers_iff_place valid]
    constructor
    · rintro ⟨otherValid, deeper, same⟩
      exact ⟨deeper, (getElem?_places_iff other _).mpr ⟨otherValid, same.symm⟩⟩
    · rintro ⟨deeper, listed⟩
      rcases (getElem?_places_iff other _).mp listed with ⟨otherValid, same⟩
      exact ⟨otherValid, deeper, same.symm⟩
  children := document.map_node_child? index
  beyond branch outside := by
    have nothing := document.map_node_child? index branch
    rw [List.getElem?_eq_none outside, Option.map_eq_none_iff] at nothing
    exact nothing
  child branch child := by
    rw [child?_eq_some_iff_place valid, getElem?_places_iff]
  parent branch child found := by
    rw [parent?, (trail_of_child? valid found).1]
    rfl
  ownerComponent := findsNearest valid .component
  ownerInstance := findsNearest valid .placement

theorem flattens_root (document : Document) : document.Flattens document.root where
  nodes := document.nodes_eq
  size := document.length_places.symm
  everywhere place node there :=
    List.mem_iff_getElem?.mp ((Node.mem_places_iff _ place).mpr ⟨node, there⟩)
  order index other place otherPlace listed otherListed := by
    rcases (getElem?_places_iff index place).mp listed with ⟨valid, rfl⟩
    rcases (getElem?_places_iff other otherPlace).mp otherListed with ⟨otherValid, rfl⟩
    exact place_lt_place_iff valid otherValid
  positions index place listed := by
    rcases (getElem?_places_iff index place).mp listed with ⟨valid, same⟩
    rw [← same]
    exact depicts valid
  first := find?_eq_some_iff
  absent := find?_eq_none_iff

/-- Every tree that is not nested too deep is indexed, and the document is a
faithful picture of the tree. -/
theorem exists_flattening {root : Node} (fits : root.height <= Node.depthLimit) :
    Exists fun document => ofNode? root = .ok document ∧ document.Flattens root := by
  have made := (ofNode?_eq_ok_iff root (ofRoot root)).mpr ⟨fits, rfl⟩
  exact ⟨ofRoot root, made, (ofRoot root).flattens_root⟩

/-- A button with an instance in it, and a label that stands behind the instance as
well as inside it. -/
def badgedButton : Node :=
  .container "1:1" "Button" (.component false .blank)
    [ .container "1:2" "Badge" (.placement "2:1" false .blank)
        [.leaf "1:3" "Label" (.text "3" .blank .blank)],
      .leaf "1:3" "Label" (.text "Send" .blank .blank) ]

theorem badgedButton_flattened :
    badgedButton.height <= Node.depthLimit ∧
    Exists fun document =>
      ofNode? badgedButton = .ok document ∧ document.Flattens badgedButton ∧
      document.find? "1:3" = some 2 ∧ document.child? 0 1 = some 3 ∧
      document.child? 0 2 = none := by
  have fits : badgedButton.height <= Node.depthLimit := by decide
  rcases exists_flattening fits with ⟨document, made, flat⟩
  have root : document.Depicts badgedButton 0 [] := flat.positions 0 [] rfl
  refine ⟨fits, document, made, flat, ?_, (root.child 1 3).mpr rfl, ?_⟩
  · exact (flat.first "1:3" 2).mpr ⟨rfl, by decide⟩
  · have node : badgedButton = document.node 0 := Option.some.inj root.node
    refine root.beyond 2 ?_
    rw [← node]
    exact Nat.le_refl _

end Document
end SceneMarkup
