import SceneMarkup.Proofs.Index.Flattening

namespace SceneMarkup

/-!
# The depth limit is exact

A tree is numbered node by node, and the first node that lies too deep ends it, in
the middle of the tree.  Which node that is depends on the order in which the stack
is emptied, and the depth in the fault is the one that was counted beside it.

Both are settled by the tree.  The depth that is counted is the length of the
place, and the nodes are visited in the order in which their places are listed.  A
parent is visited before its children, so the first node beyond the limit lies just
one level beyond it.  For a whole scene the main tree is numbered first and then
the imported trees in order, so that the first tree beyond the limit is blamed, and
its first node.
-/

namespace Node

/-- A tree has a node more than a number of levels below its root. -/
def Exceeds (root : Node) (limit : Nat) : Prop :=
  Exists fun place => Exists fun node => root.at? place = some node ∧ limit < place.length

/-- The first place in pre-order that lies more than a number of levels below the
root, and the node there. -/
structure IsFirstBeyond (root : Node) (limit : Nat) (place : List Nat) (node : Node) : Prop where
  first : root.places.find? (fun place => limit < place.length) = some place
  there : root.at? place = some node

/-- The fault that names the first node of a tree beyond the depth limit. -/
def IsBlamedFor (root : Node) (fault : Fault) : Prop :=
  Exists fun place => Exists fun node =>
    root.IsFirstBeyond depthLimit place node ∧ fault = .malformedTree node.id (depthLimit + 1)

/-- If a tree has nodes beyond a limit, one of them is the first. -/
theorem exceeds_iff (root : Node) (limit : Nat) :
    root.Exceeds limit ↔
      Exists fun place => Exists fun node => root.IsFirstBeyond limit place node := by
  constructor
  · rintro ⟨place, node, there, deep⟩
    have listed := (root.mem_places_iff place).mpr ⟨node, there⟩
    have found : (root.places.find? fun place => limit < place.length).isSome = true :=
      List.find?_isSome.mpr ⟨place, listed, decide_eq_true deep⟩
    rcases Option.isSome_iff_exists.mp found with ⟨first, found⟩
    rcases (root.mem_places_iff first).mp (List.mem_of_find?_eq_some found) with ⟨other, stands⟩
    exact ⟨first, other, found, stands⟩
  · rintro ⟨place, node, found, there⟩
    have deep := List.find?_some (p := fun place : List Nat => decide (limit < place.length)) found
    exact ⟨place, node, there, of_decide_eq_true deep⟩

/-! ## The depth that is counted -/

mutual

/-- The first node that is nested too deep is the first one whose way back to the
root is too long. -/
theorem tooDeep?_eq (start : Nat) (trail : List Step) :
    (node : Node) ->
      node.tooDeep? trail.length =
        ((node.positionsFrom start trail).find? fun position =>
            depthLimit < position.trail.length).map
          fun position => (position.node.id, position.trail.length)
  | .leaf id name kind => by
      rw [tooDeep?, positionsFrom, List.find?_singleton]
      by_cases deep : depthLimit < trail.length <;> simp [deep, Node.id]
  | .container id name kind children => by
      rw [tooDeep?, positionsFrom, List.find?_cons]
      by_cases deep : depthLimit < trail.length
      · rw [if_pos deep, decide_eq_true deep]
        rfl
      · rw [if_neg deep, decide_eq_false deep]
        exact tooDeepBelow?_eq (start + 1) start 0 trail children

theorem tooDeepBelow?_eq (next parent branch : Nat) (trail : List Step) :
    (nodes : List Node) ->
      tooDeepBelow? (trail.length + 1) nodes =
        ((positionsBelow next parent branch trail nodes).find? fun position =>
            depthLimit < position.trail.length).map
          fun position => (position.node.id, position.trail.length)
  | [] => rfl
  | node :: rest => by
      have first := tooDeep?_eq next (⟨parent, branch⟩ :: trail) node
      rw [List.length_cons] at first
      rw [tooDeepBelow?, positionsBelow, List.find?_append, first,
        tooDeepBelow?_eq (next + node.size) parent (branch + 1) trail rest]
      cases (node.positionsFrom next (⟨parent, branch⟩ :: trail)).find? _ <;> rfl

end

mutual

/-- Whoever is found too deep lies one level beyond the limit, because the level
above was let through. -/
theorem depth_of_tooDeep? {depth found : Nat} {id : String} (above : depth <= depthLimit + 1) :
    (node : Node) -> node.tooDeep? depth = some (id, found) -> found = depthLimit + 1
  | .leaf _ name kind, deep => by
      rw [tooDeep?] at deep
      split at deep
      · cases deep
        omega
      · cases deep
  | .container _ name kind children, deep => by
      rw [tooDeep?] at deep
      split at deep
      · cases deep
        omega
      · exact depth_of_tooDeepBelow? (by omega) children deep

theorem depth_of_tooDeepBelow? {depth found : Nat} {id : String}
    (above : depth <= depthLimit + 1) :
    (nodes : List Node) -> tooDeepBelow? depth nodes = some (id, found) -> found = depthLimit + 1
  | [], deep => by
      rw [tooDeepBelow?] at deep
      cases deep
  | node :: rest, deep => by
      rw [tooDeepBelow?] at deep
      split at deep
      · rename_i first found
        rw [deep] at found
        exact depth_of_tooDeep? above node found
      · exact depth_of_tooDeepBelow? above rest deep

end

end Node

namespace Document

/-- The node of a position stands at the place that its trail leads back from. -/
theorem at?_of_mem_positionsFrom {root : Node} {position : Position}
    (member : position ∈ root.positionsFrom 0 []) :
    root.at? (placeOf position.trail) = some position.node := by
  rcases List.getElem?_of_mem member with ⟨index, listed⟩
  have stored : (ofRoot root).positions[index]? = some position := by
    rw [(ofRoot root).positions_eq, List.getElem?_toArray]
    exact listed
  refine ((ofRoot root).at?_root_eq_some_iff _ _).mpr ⟨index, ?_, ?_, ?_⟩
  · exact (Array.getElem?_eq_some_iff.mp stored).1
  · rw [place, trail, stored]
  · rw [node, stored]

/-- The first place beyond a limit is the one of the first position whose trail is
too long. -/
theorem isFirstBeyond_iff (root : Node) (limit : Nat) (place : List Nat) (node : Node) :
    root.IsFirstBeyond limit place node ↔ Exists fun position =>
      (root.positionsFrom 0 []).find? (fun position => limit < position.trail.length) =
          some position ∧
        placeOf position.trail = place ∧ position.node = node := by
  have listed := map_placeOf_positionsFrom 0 [] root
  have plain : (placeOf [] ++ ·) = (id : List Nat -> List Nat) := rfl
  have same : ((fun place : List Nat => decide (limit < place.length)) ∘
      fun position : Position => placeOf position.trail) =
        fun position => decide (limit < position.trail.length) := by
    funext position
    simp only [Function.comp_apply, placeOf, List.length_reverse, List.length_map]
  rw [plain, List.map_id] at listed
  have searched : root.places.find? (fun place => limit < place.length) =
      ((root.positionsFrom 0 []).find? fun position => limit < position.trail.length).map
        fun position => placeOf position.trail := by
    rw [← listed, List.find?_map, same]
  constructor
  · rintro ⟨first, there⟩
    rw [searched, Option.map_eq_some_iff] at first
    rcases first with ⟨position, found, rfl⟩
    have stands := at?_of_mem_positionsFrom (List.mem_of_find?_eq_some found)
    exact ⟨position, found, rfl, Option.some.inj (stands.symm.trans there)⟩
  · rintro ⟨position, found, rfl, rfl⟩
    refine ⟨?_, at?_of_mem_positionsFrom (List.mem_of_find?_eq_some found)⟩
    rw [searched, found, Option.map_some]

/-- Indexing a tree fails with the fault that names its first node beyond the
limit, and with no other. -/
theorem ofNode?_eq_error_iff (root : Node) (fault : Fault) :
    ofNode? root = .error fault ↔ root.IsBlamedFor fault := by
  have searched := root.tooDeep?_eq 0 []
  rw [List.length_nil] at searched
  rw [ofNode?_eq]
  constructor
  · intro rejected
    cases deep : root.tooDeep? 0 with
    | none =>
        rw [deep] at rejected
        cases rejected
    | some blamed =>
        rw [deep] at rejected
        rw [searched, Option.map_eq_some_iff] at deep
        rcases deep with ⟨position, found, same⟩
        refine ⟨_, _, (isFirstBeyond_iff _ _ _ _).mpr ⟨position, found, rfl, rfl⟩, ?_⟩
        have whole : root.tooDeep? 0 = some (position.node.id, position.trail.length) := by
          rw [searched, found, Option.map_some]
        rw [← Except.error.inj rejected, ← same,
          ← Node.depth_of_tooDeep? (Nat.zero_le _) root whole]
  · rintro ⟨place, node, beyond, rfl⟩
    rcases (isFirstBeyond_iff _ _ _ _).mp beyond with ⟨position, found, _, rfl⟩
    have whole : root.tooDeep? 0 = some (position.node.id, position.trail.length) := by
      rw [searched, found, Option.map_some]
    rw [whole, Node.depth_of_tooDeep? (Nat.zero_le _) root whole]

/-- Indexing a tree fails exactly if it has a node beyond the limit. -/
theorem exists_ofNode?_eq_error_iff (root : Node) :
    (Exists fun fault => ofNode? root = .error fault) ↔ root.Exceeds Node.depthLimit := by
  simp only [ofNode?_eq_error_iff, Node.exceeds_iff, Node.IsBlamedFor]
  constructor
  · rintro ⟨_, place, node, beyond, _⟩
    exact ⟨place, node, beyond⟩
  · rintro ⟨place, node, beyond⟩
    exact ⟨_, place, node, beyond, rfl⟩

/-- A tree that ends above the limit has no node beyond it. -/
theorem not_exceeds_of_height_le {root : Node} (fits : root.height <= Node.depthLimit) :
    ¬ root.Exceeds Node.depthLimit := by
  intro exceeds
  rcases (exists_ofNode?_eq_error_iff root).mpr exceeds with ⟨fault, rejected⟩
  cases rejected.symm.trans ((ofNode?_eq_ok_iff root _).mpr ⟨fits, rfl⟩)

end Document

namespace Scene

/-- A fault blames the first of several trees that has a node beyond the limit. -/
def BlamesFirst (trees : List Node) (fault : Fault) : Prop :=
  Exists fun before => Exists fun tree => Exists fun after =>
    trees = before ++ tree :: after ∧
      (forall earlier, earlier ∈ before -> ¬ earlier.Exceeds Node.depthLimit) ∧
      tree.IsBlamedFor fault

theorem not_blamesFirst_nil (fault : Fault) : ¬ BlamesFirst [] fault := by
  rintro ⟨before, tree, after, whole, _⟩
  exact List.append_ne_nil_of_right_ne_nil before (List.cons_ne_nil tree after) whole.symm

/-- Either the first tree is blamed, or it is passed over. -/
theorem blamesFirst_cons_iff (tree : Node) (trees : List Node) (fault : Fault) :
    BlamesFirst (tree :: trees) fault ↔
      tree.IsBlamedFor fault ∨ (¬ tree.Exceeds Node.depthLimit ∧ BlamesFirst trees fault) := by
  constructor
  · rintro ⟨before, blamed, after, whole, passed, blame⟩
    cases before with
    | nil =>
        rw [(List.cons.inj whole).1]
        exact Or.inl blame
    | cons first before =>
        rcases List.cons.inj whole with ⟨rfl, rest⟩
        rw [List.forall_mem_cons] at passed
        exact Or.inr ⟨passed.1, before, blamed, after, rest, passed.2, blame⟩
  · rintro (blame | ⟨within, before, blamed, after, rfl, passed, blame⟩)
    · exact ⟨[], tree, trees, rfl, (fun _ impossible => nomatch impossible), blame⟩
    · exact ⟨tree :: before, blamed, after, rfl, List.forall_mem_cons.mpr ⟨within, passed⟩, blame⟩

theorem indexImports_eq_error_iff (files : List (String × ImportedFile)) (fault : Fault) :
    indexImports files = .error fault ↔ BlamesFirst (files.map (·.2.document)) fault := by
  induction files with
  | nil =>
      rw [indexImports]
      constructor
      · intro impossible
        cases impossible
      · intro blames
        exact absurd blames (not_blamesFirst_nil fault)
  | cons entry rest ih =>
      have first := Document.ofNode?_eq_error_iff entry.2.document
      have exceeds := Document.exists_ofNode?_eq_error_iff entry.2.document
      rw [indexImports, List.map_cons, blamesFirst_cons_iff, ← ih, ← first fault, ← exceeds]
      cases Document.ofNode? entry.2.document with
      | error other => simp
      | ok document => cases indexImports rest <;> simp

theorem build_eq_error_iff {root : Node} (isDocument : root.type = .document) (imports : Imports)
    (fault : Fault) :
    build root imports = .error fault ↔
      BlamesFirst (root :: imports.entries.map (·.2.document)) fault := by
  have main := Document.ofNode?_eq_error_iff root
  have exceeds := Document.exists_ofNode?_eq_error_iff root
  have others := indexImports_eq_error_iff imports.entries fault
  rw [build, if_neg (not_not_intro isDocument), blamesFirst_cons_iff, ← others, ← main fault,
    ← exceeds]
  cases Document.ofNode? root with
  | error other => simp
  | ok document => cases indexImports imports.entries <;> simp

theorem exists_blamesFirst_iff (trees : List Node) :
    (Exists fun fault => BlamesFirst trees fault) ↔
      Exists fun tree => tree ∈ trees ∧ tree.Exceeds Node.depthLimit := by
  have blamed : forall tree : Node, (Exists fun fault => tree.IsBlamedFor fault) ↔
      tree.Exceeds Node.depthLimit := by
    intro tree
    simp only [← Document.ofNode?_eq_error_iff, Document.exists_ofNode?_eq_error_iff]
  induction trees with
  | nil =>
      simp only [not_blamesFirst_nil, List.not_mem_nil, false_and, exists_false]
  | cons tree rest ih =>
      simp only [blamesFirst_cons_iff, exists_or, exists_and_left, blamed, ih, List.mem_cons,
        or_and_right, exists_eq_left]
      by_cases deep : tree.Exceeds Node.depthLimit <;> simp [deep]

/-- Indexing a tree fails exactly if some node lies beyond the depth limit, and names
the first such node in pre-order, one level beyond the limit.  A scene whose main
tree is a document is therefore rejected exactly if one of its trees has a node
beyond the limit; the main tree is blamed first, and then the imported trees in
order. -/
theorem depth_limit_exact (root : Node) (imports : Imports) :
    (forall tree, (Exists fun fault => Document.ofNode? tree = .error fault) ↔
      tree.Exceeds Node.depthLimit) ∧
    (forall tree fault, Document.ofNode? tree = .error fault ↔ tree.IsBlamedFor fault) ∧
    (root.type = .document ->
      ((Exists fun fault => build root imports = .error fault) ↔ Exists fun tree =>
        tree ∈ root :: imports.entries.map (·.2.document) ∧ tree.Exceeds Node.depthLimit) ∧
      forall fault, build root imports = .error fault ↔
        BlamesFirst (root :: imports.entries.map (·.2.document)) fault) := by
  refine ⟨Document.exists_ofNode?_eq_error_iff, Document.ofNode?_eq_error_iff, ?_⟩
  intro isDocument
  have exactly := build_eq_error_iff isDocument imports
  refine ⟨?_, exactly⟩
  simp only [exactly, exists_blamesFirst_iff]

/-! ## Towers -/

/-- Groups inside each other, around a line. -/
def tower : Nat -> Node
  | 0 => .leaf "9:0" "Line" (.shape .line .blank)
  | levels + 1 => .container ("9:" ++ Number.digitString (levels + 1)) "Level" .group [tower levels]

theorem height_tower (levels : Nat) : (tower levels).height = levels := by
  induction levels with
  | zero => rfl
  | succ levels ih => rw [tower, Node.height, Node.heightBelow, Node.heightBelow, ih, Nat.max_zero]

theorem places_tower (levels : Nat) :
    (tower (levels + 1)).places = [] :: (tower levels).places.map (0 :: ·) := by
  rw [tower, Node.places, Node.placesBelow, Node.placesBelow, List.append_nil]

/-- In a tower, the first node beyond a limit is the one just beyond it. -/
theorem isFirstBeyond_tower (limit levels : Nat) :
    (tower (limit + 1 + levels)).IsFirstBeyond limit (List.replicate (limit + 1) 0)
      (tower levels) := by
  induction limit with
  | zero =>
      rw [Nat.zero_add, Nat.add_comm]
      refine ⟨?_, rfl⟩
      rw [places_tower]
      cases levels with
      | zero => rfl
      | succ levels =>
          rw [places_tower]
          rfl
  | succ limit ih =>
      have shifted : (fun place : List Nat => decide (limit + 1 < place.length)) ∘ (0 :: ·) =
          fun place => decide (limit < place.length) := by
        funext place
        simp only [Function.comp_apply, List.length_cons, Nat.succ_lt_succ_iff]
      rw [Nat.add_right_comm (limit + 1) 1 levels]
      refine ⟨?_, ih.there⟩
      rw [places_tower, List.find?_cons_of_neg (by simp), List.find?_map, shifted, ih.first]
      rfl

/-- A document with one empty page. -/
def blankDocument : Node :=
  .container "0:0" "Document" .document [.container "0:1" "Page" (.canvas none) []]

/-- Two imported towers, the first of which is as high as the limit allows. -/
def towers : Imports :=
  .ofList [("low.json", ⟨.empty, tower Node.depthLimit⟩),
    ("high.json", ⟨.empty, tower (Node.depthLimit + 1)⟩)]

theorem towers_rejected :
    blankDocument.type = .document ∧
      build blankDocument towers = .error (.malformedTree "9:0" (Node.depthLimit + 1)) := by
  refine ⟨rfl, ?_⟩
  rw [((depth_limit_exact blankDocument towers).2.2 rfl).2]
  refine ⟨[blankDocument, tower Node.depthLimit], tower (Node.depthLimit + 1), [], rfl, ?_,
    _, _, isFirstBeyond_tower Node.depthLimit 0, rfl⟩
  rw [List.forall_mem_cons, List.forall_mem_singleton]
  exact ⟨Document.not_exceeds_of_height_le (by decide),
    Document.not_exceeds_of_height_le (Nat.le_of_eq (height_tower _))⟩

end Scene
end SceneMarkup
