import SceneMarkup.Index.Subtrees
import SceneMarkup.Style.Override

namespace SceneMarkup

/-!
# Styles of a subtree

The rule styles of a node and everything below it form a tree of the same shape.
It is made by two loops.  The first one takes the nodes in pre-order from a stack
and files a level for each, still without children, together with the number of
the level around it.  The first node without a style ends it with a fault.

The second loop takes the levels back, last one first.  Everything below a level
was filed behind it, so when its turn comes its children have all been handed to
it, the last one first.  They are put in order, and the level is handed on to the
one around it.
-/

/-- The rule style of a node with those of its children. -/
structure NestedStyle where
  key : NodeKey
  style : Style
  children : List NestedStyle

namespace NestedStyle

mutual

/-- The number of levels. -/
def size : NestedStyle -> Nat
  | ⟨_, _, children⟩ => sizeAll children + 1

def sizeAll : List NestedStyle -> Nat
  | [] => 0
  | level :: rest => size level + sizeAll rest

end

theorem size_eq (level : NestedStyle) : level.size = sizeAll level.children + 1 := by
  cases level with
  | mk key style children => rfl

theorem sizeAll_append (above below : List NestedStyle) :
    sizeAll (above ++ below) = sizeAll above + sizeAll below := by
  induction above with
  | nil => rw [List.nil_append, sizeAll, Nat.zero_add]
  | cons level rest ih => rw [List.cons_append, sizeAll, sizeAll, ih, Nat.add_assoc]

theorem sizeAll_reverse (levels : List NestedStyle) : sizeAll levels.reverse = sizeAll levels := by
  induction levels with
  | nil => rfl
  | cons level rest ih =>
      rw [List.reverse_cons, sizeAll_append, ih, sizeAll, sizeAll, sizeAll, Nat.add_zero,
        Nat.add_comm]

/-- Go on with the levels on a stack, each before what lies below it.  A first child
comes before its siblings. -/
@[semireducible]
def visit : List NestedStyle -> List NestedStyle
  | [] => []
  | level :: stack => level :: visit (level.children ++ stack)
termination_by stack => sizeAll stack
decreasing_by
  rw [sizeAll_append, sizeAll, size_eq]
  omega

/-- All levels, parents before children. -/
def levels (nested : NestedStyle) : List NestedStyle :=
  visit [nested]

/-- The addresses and styles of all levels, parents before children. -/
def walk (nested : NestedStyle) : List (NodeKey × Style) :=
  nested.levels.map fun level => (level.key, level.style)

/-- Look for a declaration on the levels on a stack and below them.  In which order
does not matter, and a last child comes before its siblings. -/
@[semireducible]
def anyStyled : List NestedStyle -> Bool
  | [] => false
  | level :: stack =>
      if level.style.isEmpty then anyStyled (level.children.reverse ++ stack) else true
termination_by stack => sizeAll stack
decreasing_by
  rw [List.unattach_reverse, List.unattach_attach]
  rw [sizeAll_append, sizeAll_reverse, sizeAll, size_eq]
  omega

/-- Whether a level or one below it carries a declaration. -/
def containsStyle (nested : NestedStyle) : Bool :=
  anyStyled [nested]

/-- A node whose level is still to be made, and the number of the level around it,
which a child of the root lacks. -/
structure Pending where
  key : NodeKey
  parent : Option Nat

/-- A level that is still to get its children, with the number of the level around
it. -/
structure Filed where
  parent : Option Nat
  level : NestedStyle

/-- Hand a child to a level, behind those that it has. -/
def Filed.adopt (child : NestedStyle) (filed : Filed) : Filed :=
  ⟨filed.parent, ⟨filed.level.key, filed.level.style, filed.level.children ++ [child]⟩⟩

/-- A level with its children in order. -/
def inOrder (level : NestedStyle) : NestedStyle :=
  ⟨level.key, level.style, level.children.reverse⟩

/-- Hand the levels on, last one first.  What is left in the end is handed to the
root. -/
@[semireducible]
def assemble (filed : Array Filed) (handed : List NestedStyle) : List NestedStyle :=
  match _ : filed.back? with
  | none => handed
  | some last =>
      match last.parent with
      | some place => assemble (filed.pop.modify place (Filed.adopt last.level.inOrder)) handed
      | none => assemble filed.pop (handed ++ [last.level.inOrder])
termination_by filed.size
decreasing_by
  all_goals
    rename_i taken
    rw [Array.back?_eq_getElem?] at taken
    have nonempty := (Array.getElem?_eq_some_iff.mp taken).1
    simp only [Array.size_modify, Array.size_pop]
    omega

end NestedStyle

namespace Project

/-- File a level for every node on the stack and everything below it, behind the
levels that are filed already. -/
@[semireducible]
def fileLevels (project : Project) :
    List NestedStyle.Pending -> Array NestedStyle.Filed -> Reported (Array NestedStyle.Filed)
  | [], filed => return filed
  | top :: stack, filed => do
      let style ← project.overrideStyle top.key
      fileLevels project
        ((project.scene.children top.key).map (NestedStyle.Pending.mk · (some filed.size)) ++ stack)
        (filed.push ⟨top.parent, ⟨top.key, style, []⟩⟩)
termination_by stack => project.scene.weight (stack.map (·.key))
decreasing_by
  rw [List.map_append, List.map_map]
  exact (List.map_id _).symm ▸ project.scene.weight_children_append_lt top.key _

/-- The rule styles of a node and everything below it. -/
def nestedStyle (project : Project) (key : NodeKey) : Reported NestedStyle := do
  let style ← project.overrideStyle key
  let filed ← project.fileLevels
    ((project.scene.children key).map (NestedStyle.Pending.mk · none)) #[]
  return ⟨key, style, (NestedStyle.assemble filed []).reverse⟩

end Project
end SceneMarkup
