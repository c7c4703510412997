import SceneMarkup.Proofs.Index.Scene
import SceneMarkup.Proofs.Report
import SceneMarkup.Style.Nested

namespace SceneMarkup

/-!
# What the loops of a nested style come to

A nested style is made by filing levels in a row and taking them back again, and
it is read by loops that keep levels on a stack.  Here the same things are defined
along the tree, and each loop is shown to do them.

A tree on top of the stack is dealt with as a whole before anything below it.
This is the statement that carries every induction, for one tree and for siblings
at once.  Taking levels back undoes filing them: a row that ends with the levels of
a tree loses them, and the level around the tree gains a child.
-/

namespace NestedStyle

/-! ## Reading -/

theorem visit_append (above below : List NestedStyle) :
    visit (above ++ below) = visit above ++ visit below := by
  induction above using visit.induct with
  | case1 => rw [visit, List.nil_append, List.nil_append]
  | case2 level stack ih =>
      rw [List.cons_append, visit, visit, List.cons_append, ← List.append_assoc, ih]

theorem visit_eq_flatMap (stack : List NestedStyle) : visit stack = stack.flatMap levels := by
  induction stack with
  | nil => rw [visit, List.flatMap_nil]
  | cons level rest ih =>
      rw [← List.singleton_append, visit_append, ih, List.flatMap_append, List.flatMap_singleton,
        levels]

/-- A level comes before those of its children, and these come in order. -/
theorem levels_eq (level : NestedStyle) :
    level.levels = level :: level.children.flatMap levels := by
  rw [levels, visit, List.append_nil, visit_eq_flatMap]

theorem walk_eq (level : NestedStyle) :
    level.walk = (level.key, level.style) :: level.children.flatMap walk := by
  rw [walk, levels_eq, List.map_cons, List.map_flatMap]
  rfl

theorem anyStyled_eq_true_iff (stack : List NestedStyle) :
    anyStyled stack = true ↔
      Exists fun level => level ∈ visit stack ∧ level.style.isEmpty = false := by
  induction stack using anyStyled.induct with
  | case1 => simp [anyStyled, visit]
  | case2 level stack bare ih =>
      rw [List.unattach_reverse, List.unattach_attach] at ih
      rw [anyStyled, if_pos bare, ih, visit]
      simp only [visit_eq_flatMap, List.mem_append, List.mem_flatMap,
        List.mem_reverse, List.mem_cons, or_and_right, exists_or, exists_eq_left, bare,
        Bool.true_eq_false, false_or]
  | case3 level stack styled =>
      rw [anyStyled, if_neg styled, visit]
      exact ⟨fun _ => ⟨level, List.mem_cons_self, Bool.eq_false_iff.mpr styled⟩, fun _ => rfl⟩

/-- A nested style contains a declaration if one of its levels does. -/
theorem containsStyle_eq_true_iff (nested : NestedStyle) :
    nested.containsStyle = true ↔
      Exists fun level => level ∈ nested.levels ∧ level.style.isEmpty = false :=
  anyStyled_eq_true_iff [nested]

/-! ## Taking levels back -/

mutual

/-- The levels of a tree as they are filed from the number `start` on. -/
def filedFrom (parent : Option Nat) (start : Nat) : NestedStyle -> List Filed
  | ⟨key, style, children⟩ =>
      ⟨parent, ⟨key, style, []⟩⟩ :: filedBelow (some start) (start + 1) children

/-- The levels of sibling trees as they are filed from the number `next` on. -/
def filedBelow (parent : Option Nat) (next : Nat) : List NestedStyle -> List Filed
  | [] => []
  | level :: rest => filedFrom parent next level ++ filedBelow parent (next + level.size) rest

end

mutual

theorem length_filedFrom (parent : Option Nat) (start : Nat) :
    (level : NestedStyle) -> (filedFrom parent start level).length = level.size
  | ⟨key, style, children⟩ => by
      rw [filedFrom, List.length_cons, length_filedBelow, size]

theorem length_filedBelow (parent : Option Nat) (next : Nat) :
    (levels : List NestedStyle) -> (filedBelow parent next levels).length = sizeAll levels
  | [] => rfl
  | level :: rest => by
      rw [filedBelow, List.length_append, length_filedFrom, length_filedBelow, sizeAll]

end

/-- A level that has been handed children, the last of them first. -/
def Filed.adoptAll (children : List NestedStyle) (filed : Filed) : Filed :=
  ⟨filed.parent, ⟨filed.level.key, filed.level.style, filed.level.children ++ children.reverse⟩⟩

theorem adoptAll_nil : Filed.adoptAll [] = id := by
  funext filed
  rcases filed with ⟨parent, ⟨key, style, children⟩⟩
  rw [Filed.adoptAll, List.reverse_nil, List.append_nil]
  rfl

theorem adoptAll_cons (child : NestedStyle) (rest : List NestedStyle) :
    Filed.adoptAll (child :: rest) = Filed.adopt child ∘ Filed.adoptAll rest := by
  funext filed
  rw [Function.comp, Filed.adopt, Filed.adoptAll, Filed.adoptAll, List.reverse_cons,
    List.append_assoc]

/-- The row of levels after siblings have been handed to the level around them. -/
def handOver (parent : Option Nat) (siblings : List NestedStyle) (filed : Array Filed) :
    Array Filed :=
  match parent with
  | some place => filed.modify place (Filed.adoptAll siblings)
  | none => filed

/-- What the root has been handed after siblings have been handed to the level
around them. -/
def handUp (parent : Option Nat) (siblings handed : List NestedStyle) : List NestedStyle :=
  match parent with
  | some _ => handed
  | none => handed ++ siblings.reverse

/-- A level around others, if there is one, has been filed already. -/
def IsFiled (parent : Option Nat) (filed : Array Filed) : Prop :=
  forall place, parent = some place -> place < filed.size

theorem size_handOver (parent : Option Nat) (siblings : List NestedStyle) (filed : Array Filed) :
    (handOver parent siblings filed).size = filed.size := by
  cases parent with
  | none => rfl
  | some place => exact Array.size_modify

theorem handOver_append {parent : Option Nat} {filed : Array Filed}
    (around : IsFiled parent filed) (siblings : List NestedStyle) (later : Array Filed) :
    handOver parent siblings (filed ++ later) = handOver parent siblings filed ++ later := by
  cases parent with
  | none => rfl
  | some place =>
      have inside := around place rfl
      apply Array.ext_getElem?
      intro index
      simp only [handOver, Array.getElem?_modify, Array.getElem?_append, Array.size_modify]
      by_cases early : index < filed.size
      · simp only [if_pos early]
      · have other : place ≠ index := by omega
        simp only [if_neg early, if_neg other]

theorem handOver_cons (parent : Option Nat) (first : NestedStyle) (rest : List NestedStyle)
    (filed : Array Filed) :
    handOver parent (first :: rest) filed = handOver parent [first] (handOver parent rest filed) := by
  cases parent with
  | none => rfl
  | some place =>
      apply Array.ext_getElem?
      intro index
      have alone : Filed.adoptAll [first] = Filed.adopt first := rfl
      simp only [handOver, Array.getElem?_modify, adoptAll_cons, alone]
      by_cases same : place = index
      · simp only [if_pos same, Option.map_map]
      · simp only [if_neg same]

theorem handUp_cons (parent : Option Nat) (first : NestedStyle) (rest handed : List NestedStyle) :
    handUp parent (first :: rest) handed = handUp parent [first] (handUp parent rest handed) := by
  cases parent with
  | none => rw [handUp, handUp, handUp, List.reverse_cons, List.append_assoc]; rfl
  | some place => rfl

/-- The last level of a row is handed on with its children in order. -/
theorem assemble_push (filed : Array Filed) (last : Filed) (handed : List NestedStyle) :
    assemble (filed.push last) handed =
      assemble (handOver last.parent [last.level.inOrder] filed)
        (handUp last.parent [last.level.inOrder] handed) := by
  rw [assemble]
  split
  · rename_i nothing
    rw [Array.back?_push] at nothing
    cases nothing
  · rename_i found taken
    rw [Array.back?_push] at taken
    cases taken
    rw [Array.pop_push]
    cases last.parent <;> rfl

mutual

/-- Taking back the levels of a tree hands the whole tree to the level around it. -/
theorem assemble_filedFrom (parent : Option Nat) (filed : Array Filed)
    (handed : List NestedStyle) :
    (level : NestedStyle) ->
      assemble (filed ++ (filedFrom parent filed.size level).toArray) handed =
        assemble (handOver parent [level] filed) (handUp parent [level] handed)
  | ⟨key, style, children⟩ => by
      let bare : Filed := ⟨parent, ⟨key, style, []⟩⟩
      have inside : IsFiled (some filed.size) (filed.push bare) := by
        intro place same
        rw [← Option.some.inj same, Array.size_push]
        exact Nat.lt_succ_self _
      have below := assemble_filedBelow inside handed children
      -- Only the level of the tree itself is changed by what its children do.
      have changed : handOver (some filed.size) children (filed.push bare) =
          filed.push (bare.adoptAll children) := by
        rw [handOver]
        apply Array.ext_getElem?
        intro index
        rw [Array.getElem?_modify, Array.getElem?_push, Array.getElem?_push]
        by_cases same : filed.size = index
        · rw [if_pos same, if_pos same.symm, if_pos same.symm, Option.map_some]
        · rw [if_neg same, if_neg (Ne.symm same), if_neg (Ne.symm same)]
      have whole : (bare.adoptAll children).level.inOrder = ⟨key, style, children⟩ := by
        rw [inOrder, Filed.adoptAll, List.nil_append, List.reverse_reverse]
      rw [changed, handUp, assemble_push, whole, Array.size_push] at below
      rw [filedFrom, ← List.push_append_toArray]
      exact below

/-- Taking back the levels of sibling trees hands all of them to the level around
them. -/
theorem assemble_filedBelow {parent : Option Nat} {filed : Array Filed}
    (around : IsFiled parent filed) (handed : List NestedStyle) :
    (siblings : List NestedStyle) ->
      assemble (filed ++ (filedBelow parent filed.size siblings).toArray) handed =
        assemble (handOver parent siblings filed) (handUp parent siblings handed)
  | [] => by
      rw [filedBelow]
      cases parent with
      | none => rw [handOver, handUp, List.reverse_nil, List.append_nil]; rfl
      | some place =>
          have same : handOver (some place) [] filed = filed := by
            apply Array.ext_getElem?
            intro index
            rw [handOver, Array.getElem?_modify, adoptAll_nil, Option.map_id_fun, id, ite_self]
          rw [same]
          rfl
  | level :: rest => by
      have first : (filed ++ (filedFrom parent filed.size level).toArray).size =
          filed.size + level.size :=
        Array.size_append.trans (congrArg (filed.size + ·) (length_filedFrom _ _ level))
      have still : IsFiled parent (filed ++ (filedFrom parent filed.size level).toArray) := by
        intro place same
        rw [first]
        exact Nat.lt_add_right _ (around place same)
      have later := assemble_filedBelow still handed rest
      rw [first, handOver_append around] at later
      have head := assemble_filedFrom parent (handOver parent rest filed) (handUp parent rest handed) level
      rw [size_handOver] at head
      rw [filedBelow, ← List.append_toArray, ← Array.append_assoc, later, head, ← handOver_cons,
        ← handUp_cons]

end

/-- Filing siblings and taking them back leaves them as they were. -/
theorem assemble_filed (siblings : List NestedStyle) :
    (assemble (filedBelow none 0 siblings).toArray []).reverse = siblings := by
  have around : IsFiled none #[] := fun _ none => nomatch none
  have back := assemble_filedBelow around [] siblings
  rw [Array.size_empty, Array.empty_append, handOver, handUp, List.nil_append] at back
  rw [back, assemble]
  exact List.reverse_reverse siblings

end NestedStyle

namespace Project

variable {project : Project}

/-! ## Filing levels -/

mutual

/-- The styles of the subtree of a node, given the address of the node. -/
def nestedStyleAt (project : Project) (file : FileRef) (index : Nat) :
    Node -> Reported NestedStyle
  | .container _ _ _ children => do
      let style ← project.overrideStyle ⟨file, index⟩
      let below ← nestedStylesFrom project file (index + 1) children
      return ⟨⟨file, index⟩, style, below⟩
  | .leaf _ _ _ => do
      let style ← project.overrideStyle ⟨file, index⟩
      return ⟨⟨file, index⟩, style, []⟩

/-- The styles of sibling subtrees, the first of which is at `next`. -/
def nestedStylesFrom (project : Project) (file : FileRef) (next : Nat) :
    List Node -> Reported (List NestedStyle)
  | [] => return []
  | node :: rest => do
      let first ← nestedStyleAt project file next node
      let others ← nestedStylesFrom project file (next + node.size) rest
      return first :: others

end

theorem nestedStyleAt_eq (file : FileRef) (index : Nat) (node : Node) :
    project.nestedStyleAt file index node = do
      let style ← project.overrideStyle ⟨file, index⟩
      let below ← project.nestedStylesFrom file (index + 1) node.children
      return ⟨⟨file, index⟩, style, below⟩ := by
  cases node with
  | container id name kind children => rw [nestedStyleAt, Node.children]
  | leaf id name kind => rw [nestedStyleAt, Node.children, nestedStylesFrom]; rfl

open NestedStyle

mutual

/-- A node on top of the stack is filed with everything below it before the rest of
the stack. -/
theorem fileLevels_at {file : FileRef} {index : Nat} {trail : List Step} (parent : Option Nat)
    (stack : List Pending) (filed : Array Filed) : {node : Node} ->
    (project.scene.document file).Holds index trail node ->
      project.fileLevels (⟨⟨file, index⟩, parent⟩ :: stack) filed = do
        let nested ← project.nestedStyleAt file index node
        project.fileLevels stack (filed ++ (filedFrom parent filed.size nested).toArray)
  | .leaf id name kind, held => by
      have alone : project.scene.children ⟨file, index⟩ = [] := by
        rw [Scene.children, held.children_eq, Node.children, Document.siblings, List.map_nil]
      rw [fileLevels, alone, nestedStyleAt, bind_assoc]
      rfl
  | .container id name kind children, held => by
      have inside : project.scene.children ⟨file, index⟩ =
          ((project.scene.document file).siblings (index + 1) children).map (NodeKey.mk file) := by
        rw [Scene.children, held.children_eq, Node.children]
      rw [fileLevels, inside, nestedStyleAt, bind_assoc]
      congr 1
      funext style
      have below := fileLevels_from (some filed.size) stack
        (filed.push ⟨parent, ⟨⟨file, index⟩, style, []⟩⟩) held.below
      rw [Node.children, Array.size_push] at below
      rw [bind_assoc, below]
      congr 1
      funext levels
      rw [pure_bind, filedFrom, ← List.push_append_toArray]

/-- The same of siblings on top of the stack. -/
theorem fileLevels_from {file : FileRef} {next above branch : Nat} {trail : List Step}
    (parent : Option Nat) (stack : List Pending) (filed : Array Filed) : {nodes : List Node} ->
    (project.scene.document file).HoldsBelow next above branch trail nodes ->
      project.fileLevels
          ((((project.scene.document file).siblings next nodes).map (NodeKey.mk file)).map
            (Pending.mk · parent) ++ stack) filed = do
        let siblings ← project.nestedStylesFrom file next nodes
        project.fileLevels stack (filed ++ (filedBelow parent filed.size siblings).toArray)
  | [], held => by
      rw [nestedStylesFrom, pure_bind, filedBelow]
      exact congrArg (project.fileLevels stack) Array.append_empty.symm
  | node :: rest, held => by
      rw [Document.siblings, held.head.stop_eq, List.map_cons, List.map_cons, List.cons_append,
        fileLevels_at parent _ filed held.head, nestedStylesFrom, bind_assoc]
      congr 1
      funext first
      have size : (filedFrom parent filed.size first).toArray.size = first.size :=
        length_filedFrom _ _ first
      rw [fileLevels_from parent stack _ held.tail, bind_assoc, Array.size_append, size]
      congr 1
      funext others
      rw [pure_bind, filedBelow, ← List.append_toArray, ← Array.append_assoc]

end

/-- Both loops together make the tree of levels, with the same notices and faults. -/
theorem nestedStyle_eq (project : Project) (key : NodeKey) :
    project.nestedStyle key = project.nestedStyleAt key.file key.index (project.node key) := by
  -- What the root has below it is filed as siblings whose parent has no number.
  have below : project.fileLevels ((project.scene.children key).map (Pending.mk · none)) #[] = do
      let siblings ← project.nestedStylesFrom key.file (key.index + 1) (project.node key).children
      return (filedBelow none 0 siblings).toArray := by
    by_cases valid : key.index < (project.scene.document key.file).size
    · have held := (project.scene.document key.file).holds valid
      have filed := @fileLevels_from project _ _ _ _ _ none [] #[] _ held.below
      rw [List.append_nil] at filed
      refine Eq.trans filed ?_
      congr 1
      funext siblings
      rw [fileLevels, Array.empty_append, Array.size_empty]
    · have blank : project.node key = Node.blank := Document.node_eq_blank valid
      rw [Scene.children_eq_nil valid, blank, List.map_nil, fileLevels]
      rfl
  rw [nestedStyle, nestedStyleAt_eq, below]
  congr 1
  funext style
  rw [bind_assoc]
  congr 1
  funext siblings
  rw [pure_bind, assemble_filed]

end Project
end SceneMarkup
