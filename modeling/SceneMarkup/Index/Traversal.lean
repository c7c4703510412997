import SceneMarkup.Index.Positions
import SceneMarkup.Report

namespace SceneMarkup

/-!
# Numbering a tree

A tree is numbered by two loops.  The first one keeps the nodes that are still to
be visited on a stack: it takes the node on top, gives it the next number and
puts its children in its place, the last child first, so that the first child is
the next to be visited.  A node that lies too deep ends it at once.

Where a subtree ends is not known before everything in it is numbered.  The
second loop therefore goes back from the last node to the first.  Every node
counts for itself; when its turn comes, all that lies below it has been counted,
so its own count is its size and is added to the count of its parent.

The second half of the module shows what both loops do with a whole tree on top
of the stack, or with all the nodes of a tree in a row: what the recursive
definitions say of it.
-/

namespace Traversal

/-- A node on the stack, the way from it back to the root, and its depth. -/
structure Pending where
  node : Node
  trail : List Step
  depth : Nat

/-- A node that has its number, and the way from it back to the root. -/
structure Entry where
  node : Node
  trail : List Step

def Entry.parent? (entry : Entry) : Option Nat :=
  entry.trail.head?.map (·.parent)

/-- Put one child of the node with the number `index` on the stack. -/
def Pending.push (top : Pending) (index : Nat) (child : Node × Nat) (stack : List Pending) :
    List Pending :=
  ⟨child.1, ⟨index, child.2⟩ :: top.trail, top.depth + 1⟩ :: stack

/-- Put the children of the node with the number `index` on the stack, the last
one first. -/
def Pending.pushChildren (top : Pending) (index : Nat) (stack : List Pending) : List Pending :=
  top.node.children.zipIdx.foldr (top.push index) stack

/-- How many nodes are still to be visited. -/
def weight : List Pending -> Nat
  | [] => 0
  | top :: stack => top.node.size + weight stack

theorem weight_foldr_push (top : Pending) (index : Nat) (stack : List Pending)
    (nodes : List Node) (branch : Nat) :
    weight ((nodes.zipIdx branch).foldr (top.push index) stack) =
      Node.sizeAll nodes + weight stack := by
  induction nodes generalizing branch with
  | nil => rw [List.zipIdx_nil, List.foldr_nil, Node.sizeAll, Nat.zero_add]
  | cons node rest ih =>
      rw [List.zipIdx_cons, List.foldr_cons, Pending.push, weight, ih, Node.sizeAll, Nat.add_assoc]

/-- Nothing is lost when a node makes way for its children. -/
theorem weight_pushChildren (top : Pending) (index : Nat) (stack : List Pending) :
    weight (top.pushChildren index stack) + 1 = weight (top :: stack) := by
  rw [Pending.pushChildren, weight_foldr_push, weight, Node.size_eq]
  omega

/-- Number what is on the stack, after the nodes that have numbers already.  Small
trees can be indexed by evaluation, so the definition stays transparent. -/
@[semireducible]
def visit : List Pending -> Array Entry -> Except Fault (Array Entry)
  | [], entries => .ok entries
  | top :: stack, entries =>
      if Node.depthLimit < top.depth then .error (.malformedTree top.node.id top.depth)
      else visit (top.pushChildren entries.size stack) (entries.push ⟨top.node, top.trail⟩)
termination_by stack => weight stack
decreasing_by
  rw [← weight_pushChildren top entries.size stack]
  exact Nat.lt_succ_self _

/-- Count nodes for a parent, if there is one. -/
def charge (parent? : Option Nat) (count : Nat) (sizes : Array Nat) : Array Nat :=
  match parent? with
  | some parent => sizes.modify parent (· + count)
  | none => sizes

/-- Find where the subtree of a node ends, and count its nodes for the parent. -/
def close (numbered : Entry × Nat) (swept : Array Nat × List Position) :
    Array Nat × List Position :=
  let entry := numbered.1
  let index := numbered.2
  let size := swept.1.getD index 1
  (charge entry.parent? size swept.1, ⟨entry.node, entry.trail, index + size⟩ :: swept.2)

/-- Go back from the last node to the first and find where the subtrees end. -/
def sweep (entries : Array Entry) : List Position :=
  (entries.toList.zipIdx.foldr close (Array.replicate entries.size 1, [])).2

/-- The positions of a tree, unless it is nested too deep. -/
def positions? (root : Node) : Except Fault (List Position) :=
  match visit [⟨root, [], 0⟩] #[] with
  | .error fault => .error fault
  | .ok entries => .ok (sweep entries)

/-! ## A tree on top of the stack -/

/-- What a position was before the end of its subtree was known. -/
def entryOf (position : Position) : Entry :=
  ⟨position.node, position.trail⟩

/-- The nodes of a tree, as they are numbered from `start` on. -/
def entriesFrom (start : Nat) (trail : List Step) (node : Node) : List Entry :=
  (node.positionsFrom start trail).map entryOf

/-- The nodes of sibling trees, as they are numbered from `next` on. -/
def entriesBelow (next parent branch : Nat) (trail : List Step) (nodes : List Node) :
    List Entry :=
  (Node.positionsBelow next parent branch trail nodes).map entryOf

theorem entriesFrom_eq (start : Nat) (trail : List Step) (node : Node) :
    entriesFrom start trail node =
      ⟨node, trail⟩ :: entriesBelow (start + 1) start 0 trail node.children := by
  rw [entriesFrom, Node.positionsFrom_eq, List.map_cons, entriesBelow, entryOf]

theorem entriesBelow_cons (next parent branch : Nat) (trail : List Step) (node : Node)
    (rest : List Node) :
    entriesBelow next parent branch trail (node :: rest) =
      entriesFrom next (⟨parent, branch⟩ :: trail) node
        ++ entriesBelow (next + node.size) parent (branch + 1) trail rest := by
  rw [entriesBelow, Node.positionsBelow, List.map_append, entriesFrom, entriesBelow]

theorem length_entriesFrom (start : Nat) (trail : List Step) (node : Node) :
    (entriesFrom start trail node).length = node.size := by
  rw [entriesFrom, List.length_map, Node.length_positionsFrom]

/-- Go on with the stack after some trees, unless a node in them is nested too
deep. -/
def resume (deep? : Option (String × Nat)) (stack : List Pending) (entries : Array Entry) :
    Except Fault (Array Entry) :=
  match deep? with
  | some (id, depth) => .error (.malformedTree id depth)
  | none => visit stack entries

mutual

/-- A tree on top of the stack is numbered as a whole, in pre-order, before
anything below it on the stack. -/
theorem visit_tree (trail : List Step) (depth : Nat) (stack : List Pending)
    (entries : Array Entry) :
    (node : Node) ->
      visit (⟨node, trail, depth⟩ :: stack) entries =
        resume (node.tooDeep? depth) stack
          (entries ++ (entriesFrom entries.size trail node).toArray)
  | .leaf id name kind => by
      rw [visit, Node.tooDeep?]
      by_cases deep : Node.depthLimit < depth
      · rw [if_pos deep, if_pos deep]
        rfl
      · rw [if_neg deep, if_neg deep, Array.push_eq_append]
        rfl
  | .container id name kind children => by
      rw [visit, Node.tooDeep?]
      by_cases deep : Node.depthLimit < depth
      · rw [if_pos deep, if_pos deep]
        rfl
      · rw [if_neg deep, if_neg deep, entriesFrom_eq]
        have below := visit_below ⟨.container id name kind children, trail, depth⟩ entries.size 0
          stack (entries.push ⟨.container id name kind children, trail⟩) children
        rw [Array.size_push] at below
        rw [← List.push_append_toArray]
        exact below

/-- The same of sibling trees that were put on the stack from the last to the
first. -/
theorem visit_below (top : Pending) (parent branch : Nat) (stack : List Pending)
    (entries : Array Entry) :
    (nodes : List Node) ->
      visit ((nodes.zipIdx branch).foldr (top.push parent) stack) entries =
        resume (Node.tooDeepBelow? (top.depth + 1) nodes) stack
          (entries ++ (entriesBelow entries.size parent branch top.trail nodes).toArray)
  | [] => by
      rw [Node.tooDeepBelow?, resume, List.zipIdx_nil, List.foldr_nil]
      exact congrArg (visit stack) Array.append_empty.symm
  | node :: rest => by
      rw [List.zipIdx_cons, List.foldr_cons, Pending.push, visit_tree, Node.tooDeepBelow?]
      cases node.tooDeep? (top.depth + 1) with
      | some found => rfl
      | none =>
          have first : (entriesFrom entries.size (⟨parent, branch⟩ :: top.trail) node).toArray.size
              = node.size := length_entriesFrom _ _ _
          rw [resume, visit_below, Array.size_append, first, entriesBelow_cons,
            ← List.append_toArray, ← Array.append_assoc]

end

/-- All the nodes of a tree are numbered in pre-order, or the first one that is
nested too deep is named. -/
theorem visit_root (root : Node) :
    visit [⟨root, [], 0⟩] #[] = resume (root.tooDeep? 0) [] (entriesFrom 0 [] root).toArray := by
  rw [visit_tree, Array.empty_append, Array.size_empty]

/-! ## The nodes of a tree in a row -/

theorem getElem?_charge (parent? : Option Nat) (count : Nat) (sizes : Array Nat) (index : Nat) :
    (charge parent? count sizes)[index]? =
      sizes[index]?.map fun size => if parent? = some index then size + count else size := by
  cases parent? with
  | none => simp only [charge, reduceCtorEq, if_false, Option.map_id_fun', id]
  | some parent =>
      rw [charge, Array.getElem?_modify]
      by_cases same : parent = index
      · simp only [if_pos same, Option.some.injEq]
      · simp only [if_neg same, Option.some.injEq, Option.map_id_fun', id]

/-- Only the count of the parent changes. -/
theorem getElem?_charge_of_ne {parent index : Nat} (different : parent ≠ index) (count : Nat)
    (sizes : Array Nat) : (charge (some parent) count sizes)[index]? = sizes[index]? := by
  rw [getElem?_charge]
  simp only [Option.some.injEq, if_neg different, Option.map_id_fun', id]

theorem close_eq {sizes : Array Nat} {index size : Nat} (counted : sizes[index]? = some size)
    (entry : Entry) (behind : List Position) :
    close (entry, index) (sizes, behind) =
      (charge entry.parent? size sizes, ⟨entry.node, entry.trail, index + size⟩ :: behind) := by
  have found : sizes.getD index 1 = size := by
    rw [Array.getD_eq_getD_getElem?, counted, Option.getD_some]
  rw [close, found]

/-- Where the sweep has not been, a node counts for itself alone. -/
def Untouched (start count : Nat) (sizes : Array Nat) : Prop :=
  forall index, start <= index -> index < start + count -> sizes[index]? = some 1

/-- The counts of the nodes before a number are the same. -/
def AgreeBefore (start : Nat) (swept sizes : Array Nat) : Prop :=
  forall index, index < start -> swept[index]? = sizes[index]?

mutual

/-- Once the nodes of a tree have been swept, their positions are known, and the
size of the tree has been counted for its parent. -/
theorem sweep_tree (start : Nat) (trail : List Step) (sizes : Array Nat)
    (behind : List Position) :
    (node : Node) -> Untouched start node.size sizes ->
      Exists fun swept =>
        ((entriesFrom start trail node).zipIdx start).foldr close (sizes, behind) =
            (swept, node.positionsFrom start trail ++ behind) ∧
          AgreeBefore start swept (charge (trail.head?.map (·.parent)) node.size sizes)
  | .leaf id name kind, fresh => by
      have alone : sizes[start]? = some 1 := fresh start (Nat.le_refl _) (Nat.lt_succ_self _)
      exact ⟨_, close_eq alone ⟨.leaf id name kind, trail⟩ behind, fun index before => rfl⟩
  | .container id name kind children, fresh => by
      have inner : Untouched (start + 1) (Node.sizeAll children) sizes := by
        intro index lower upper
        exact fresh index (by omega) (by rw [Node.size]; omega)
      rcases sweep_below (start + 1) start 0 trail sizes behind (Nat.lt_succ_self _) children inner
        with ⟨swept, whole, agree⟩
      have counted : swept[start]? = some (Node.size (.container id name kind children)) := by
        have alone : sizes[start]? = some 1 := fresh start (Nat.le_refl _) (by rw [Node.size]; omega)
        rw [agree start (Nat.lt_succ_self _), getElem?_charge, alone, Option.map_some, if_pos rfl,
          Node.size, Nat.add_comm]
      rw [entriesFrom_eq, List.zipIdx_cons, List.foldr_cons]
      refine ⟨charge (trail.head?.map (·.parent)) (Node.container id name kind children).size swept,
        ?_, ?_⟩
      · refine (congrArg (close _) whole).trans ?_
        exact close_eq counted ⟨.container id name kind children, trail⟩ _
      · intro index before
        rw [getElem?_charge, getElem?_charge, agree index (by omega),
          getElem?_charge_of_ne (by omega)]

/-- Once the nodes of sibling trees have been swept, the sizes of all of them have
been counted for their parent. -/
theorem sweep_below (next parent branch : Nat) (trail : List Step) (sizes : Array Nat)
    (behind : List Position) (earlier : parent < next) :
    (nodes : List Node) -> Untouched next (Node.sizeAll nodes) sizes ->
      Exists fun swept =>
        ((entriesBelow next parent branch trail nodes).zipIdx next).foldr close (sizes, behind) =
            (swept, Node.positionsBelow next parent branch trail nodes ++ behind) ∧
          AgreeBefore next swept (charge (some parent) (Node.sizeAll nodes) sizes)
  | [], fresh => by
      refine ⟨sizes, rfl, ?_⟩
      intro index before
      simp only [getElem?_charge, Node.sizeAll, Nat.add_zero, ite_self, Option.map_id_fun', id]
  | node :: rest, fresh => by
      rw [Node.sizeAll] at fresh
      have later : Untouched (next + node.size) (Node.sizeAll rest) sizes := by
        intro index lower upper
        exact fresh index (by omega) (by omega)
      rcases sweep_below (next + node.size) parent (branch + 1) trail sizes behind (by omega) rest
        later with ⟨sweptRest, wholeRest, agreeRest⟩
      have first : Untouched next node.size sweptRest := by
        intro index lower upper
        rw [agreeRest index upper, getElem?_charge_of_ne (by omega)]
        exact fresh index lower (by omega)
      rcases sweep_tree next (⟨parent, branch⟩ :: trail) sweptRest
        (Node.positionsBelow (next + node.size) parent (branch + 1) trail rest ++ behind) node first
        with ⟨swept, whole, agree⟩
      refine ⟨swept, ?_, ?_⟩
      · rw [entriesBelow_cons, List.zipIdx_append, List.foldr_append, length_entriesFrom, wholeRest,
          whole, Node.positionsBelow, List.append_assoc]
      · intro index before
        rw [agree index before, List.head?_cons, Option.map_some, getElem?_charge,
          agreeRest index (by omega), getElem?_charge, getElem?_charge, Option.map_map,
          Node.sizeAll]
        congr 1
        funext size
        dsimp only [Function.comp]
        split
        · omega
        · rfl

end

/-- The sweep finds the ends of all subtrees. -/
theorem sweep_root (root : Node) :
    sweep (entriesFrom 0 [] root).toArray = root.positionsFrom 0 [] := by
  have fresh : Untouched 0 root.size (Array.replicate root.size 1) := by
    intro index lower upper
    rw [Nat.zero_add] at upper
    rw [Array.getElem?_replicate, if_pos upper]
  rcases sweep_tree 0 [] (Array.replicate root.size 1) [] root fresh with ⟨swept, whole, _⟩
  rw [sweep, List.size_toArray, length_entriesFrom, whole, List.append_nil]

/-- Both loops together give the positions of the tree, or name the first node that
is nested too deep. -/
theorem positions?_eq (root : Node) :
    positions? root =
      match root.tooDeep? 0 with
      | some (id, depth) => .error (.malformedTree id depth)
      | none => .ok (root.positionsFrom 0 []) := by
  rw [positions?, visit_root]
  cases root.tooDeep? 0 with
  | some found => rfl
  | none =>
      rw [resume, visit]
      exact congrArg Except.ok (sweep_root root)

theorem eq_of_positions? {root : Node} {positions : List Position}
    (found : positions? root = .ok positions) : positions = root.positionsFrom 0 [] := by
  rw [positions?_eq] at found
  split at found
  · cases found
  · exact (Except.ok.inj found).symm

end Traversal
end SceneMarkup
