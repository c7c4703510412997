import SceneMarkup.Proofs.Agreement
import SceneMarkup.Proofs.Style.Difference

namespace SceneMarkup

/-!
# Styles without positions

Whether layers are placed is decided when the style of a node is stated, and all
that follows works on styles as they come.  So the styles of a project without
positions could differ from the others in more than positions: subtractions
reset what an earlier style had, and what they put in comes at other places.

They do not.  Leaving out some properties commutes with a subtraction, because
a subtraction looks at one property at a time and keeps the order of what it
keeps.  A rule without positions is therefore the rule with positions, less
its positions, also where a position is reset.
-/

namespace Style

/-! ## Leaving out properties -/

/-- Properties may be left out before a subtraction or after it. -/
theorem filter_difference (keep : String -> Bool) (style own previous : Style) :
    (style.difference own previous).filter keep =
      difference (style.filter keep) (own.filter keep) (previous.filter keep) := by
  unfold difference
  rw [OrderedMap.filter_ofList, List.filter_append, List.filter_map]
  simp only [OrderedMap.get?_filter, OrderedMap.contains_filter, OrderedMap.entries_filter,
    List.filter_filter, Function.comp_def]
  -- A test of what is looked up only counts where the property is kept.
  congr 2
  · congr 1
    apply List.filter_congr
    intro entry _
    cases kept : keep entry.1 <;> simp
  · apply List.filter_congr
    intro entry _
    cases kept : keep entry.1 <;> simp

/-- Properties may be left out before a chain of subtractions or after it. -/
theorem filter_subtractAll (keep : String -> Bool) (own : Style) (chain : List Style) :
    (own.subtractAll chain).filter keep =
      subtractAll (own.filter keep) (chain.map fun style => style.filter keep) := by
  induction chain using List.reverseRecOn with
  | nil => rfl
  | append_singleton before last ih =>
      simp only [subtractAll, List.foldl_append, List.map_append, List.foldl_cons,
        List.foldl_nil, List.map_cons, List.map_nil] at ih ⊢
      rw [filter_difference, ih]

@[simp] theorem appearance_appearance (style : Style) :
    style.appearance.appearance = style.appearance :=
  style.filter_filter _

/-! ## Declarations that place nothing -/

/-- None of the declarations places a layer. -/
def PlacesNothing (entries : List StyleEntry) : Prop :=
  forall entry, entry ∈ entries -> isLayout entry.1 = false

namespace PlacesNothing

theorem nil : PlacesNothing [] := fun _ member => nomatch member

theorem cons {property value : String} {entries : List StyleEntry}
    (plain : isLayout property = false) (rest : PlacesNothing entries) :
    PlacesNothing ((property, value) :: entries) :=
  List.forall_mem_cons.mpr ⟨plain, rest⟩

theorem append {first second : List StyleEntry} (firstPlain : PlacesNothing first)
    (secondPlain : PlacesNothing second) : PlacesNothing (first ++ second) :=
  List.forall_mem_append.mpr ⟨firstPlain, secondPlain⟩

theorem part {property : String} (plain : isLayout property = false) (value : Option String) :
    PlacesNothing (Typography.part property value) := by
  cases value with
  | none => exact nil
  | some value => exact cons plain nil

theorem typography (style : TypeStyle) (layer : Layer) :
    PlacesNothing (Typography.declarations style layer) := by
  unfold Typography.declarations
  repeat' with_reducible apply append
  all_goals exact part (by decide) _

theorem fills (fills : List Paint) : PlacesNothing (Fills.declarations fills) := by
  unfold Fills.declarations
  dsimp only
  split
  · exact nil
  · apply cons (by decide)
    split
    · exact cons (by decide) nil
    · exact nil

theorem strokes (strokes : List Paint) (weight : Option Float) :
    PlacesNothing (Strokes.declarations strokes weight) := by
  unfold Strokes.declarations
  split
  · exact nil
  · split
    · exact nil
    · exact cons (by decide) nil

theorem effects (effects : List Effect) : PlacesNothing (Effects.declarations effects) := by
  unfold Effects.declarations
  dsimp only
  repeat' with_reducible apply append
  all_goals split
  all_goals first | exact nil | exact cons (by decide) nil

theorem content (node : Node) (layer : Layer) :
    PlacesNothing (Project.contentDeclarations node layer) := by
  unfold Project.contentDeclarations
  split
  · exact typography _ _
  · repeat' with_reducible apply append
    · exact fills _
    · exact part (by decide) _
    · exact strokes _ _

theorem box (node : Node) (layer : Layer) :
    PlacesNothing (Project.boxDeclarations node layer) := by
  unfold Project.boxDeclarations
  repeat' with_reducible apply append
  · exact part (by decide) _
  · exact part (by decide) _
  · split
    · exact cons (by decide) nil
    · exact nil

/-- Declarations that place nothing stay where positions are left out. -/
theorem filter_eq {entries : List StyleEntry} (plain : PlacesNothing entries) :
    (entries.filter fun entry => ! isLayout entry.1) = entries := by
  apply List.filter_eq_self.mpr
  intro entry member
  rw [plain entry member]
  rfl

end PlacesNothing

end Style

namespace Project

/-! ## The same project without positions -/

/-- The same project with absolute positions switched off. -/
def unplaced (project : Project) : Project :=
  { project with options := { project.options with absoluteLayout := false } }

variable (project : Project)

/-- All that a layer declares for its place is a position. -/
theorem filter_placementDeclarations (options : Options) (layer : Layer) :
    ((placementDeclarations options layer).filter fun entry => ! Style.isLayout entry.1) = [] := by
  unfold placementDeclarations
  split
  · split
    · rfl
    · rfl
  · rfl

/-- Without positions a node declares what it declares with them, less its
positions. -/
theorem nodeDeclarations_unplaced (key : NodeKey) :
    project.unplaced.nodeDeclarations key =
      (project.nodeDeclarations key).filter fun entry => ! Style.isLayout entry.1 := by
  have node : project.unplaced.node key = project.node key := rfl
  have shown : project.unplaced.shownExport key = project.shownExport key := rfl
  have unplaced : forall layer, placementDeclarations project.unplaced.options layer = [] :=
    fun _ => rfl
  have background : Style.isLayout "background" = false := by decide
  unfold nodeDeclarations
  dsimp only
  rw [node, shown]
  cases (project.node key).layer? with
  | none => rfl
  | some layer =>
      dsimp only
      rw [unplaced]
      split
      · simp only [List.filter_cons, background, Bool.not_false, if_true,
          filter_placementDeclarations]
        rfl
      · simp only [List.filter_append, filter_placementDeclarations, List.nil_append,
          (Style.PlacesNothing.content _ _).filter_eq, (Style.PlacesNothing.effects _).filter_eq,
          (Style.PlacesNothing.box _ _).filter_eq]

theorem nodeStyle_unplaced (key : NodeKey) :
    project.unplaced.nodeStyle key = (project.nodeStyle key).appearance := by
  unfold nodeStyle Style.appearance
  rw [nodeDeclarations_unplaced, OrderedMap.filter_ofList]

theorem styleOver_unplaced (key : NodeKey) (chain : List NodeKey) :
    project.unplaced.styleOver key chain = (project.styleOver key chain).appearance := by
  unfold Style.appearance
  rw [styleOver_eq_subtractAll, styleOver_eq_subtractAll, Style.filter_subtractAll,
    nodeStyle_unplaced, List.map_map]
  congr 1
  apply List.map_congr_left
  intro node _
  exact project.nodeStyle_unplaced node

/-! ## Rules without positions -/

theorem previousNode_unplaced (key : NodeKey) :
    project.unplaced.previousNode key = project.previousNode key := rfl

theorem overrideChainFrom_unplaced (steps : Nat) (seen : List NodeKey) (key : NodeKey) :
    project.unplaced.overrideChainFrom steps seen key =
      project.overrideChainFrom steps seen key := by
  induction steps generalizing seen key with
  | zero => rfl
  | succ steps ih =>
      rw [overrideChainFrom, overrideChainFrom, previousNode_unplaced]
      simp only [ih]

/-- Which nodes are overridden has nothing to do with positions. -/
theorem overrideChain_unplaced (key : NodeKey) :
    project.unplaced.overrideChain key = project.overrideChain key :=
  project.overrideChainFrom_unplaced _ _ _

/-- Without positions the rule of a node declares what it declares with them, less
its positions, and the same is reported about it. -/
theorem overrideStyle_unplaced (key : NodeKey) :
    project.unplaced.overrideStyle key = Style.appearance <$> project.overrideStyle key := by
  have warned : project.unplaced.nodeWarnings = project.nodeWarnings := rfl
  unfold overrideStyle
  simp only [map_bind, map_pure, overrideChain_unplaced, warned, styleOver_unplaced]

end Project
end SceneMarkup
