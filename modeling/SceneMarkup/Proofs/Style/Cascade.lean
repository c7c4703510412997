import SceneMarkup.Proofs.Style.Difference
import SceneMarkup.Proofs.Style.OverrideChain

namespace SceneMarkup

/-!
# Rules laid over each other

The rules of a node and of everything it overrides apply to one element, the
nearest last.  Laying them over each other in that order should give the style
that the node states on its own.

It does so one property at a time, and the outcome depends on the values that
the nodes give the property and on nothing else.  A rule leaves a value out where
any node farther along the chain gives the same one, not only the next node.
Where a nearer node gave another value in between, that other value is left
standing, and the property is not restored.  `Style.settled` says which value
stands in the end, and the main statement is that the cascade agrees with the
own style exactly where that is the node's own value.
-/

namespace Style

/-- Apply one declaration: `unset` takes the property away, any other value sets
it. -/
def declare (style : Style) (entry : StyleEntry) : Style :=
  if entry.2 = "unset" then style.filter fun property => property != entry.1
  else style.insert entry.1 entry.2

/-- Lay a rule over a style. -/
def overlay (base rule : Style) : Style :=
  rule.entries.foldl declare base

/-- What rules, nearest first, come to when the farthest is applied first. -/
def cascade : List Style -> Style
  | [] => OrderedMap.empty
  | rule :: below => (cascade below).overlay rule

/-- The value that stands in the end, given the values along a chain, nearest
first.  A value that some later node gives too is not declared, so what stands
below it decides; the first node with a value of its own, or with none, has the
last word. -/
def settled : List (Option String) -> Option String
  | [] => none
  | none :: _ => none
  | some value :: below => if below.contains (some value) then settled below else some value

/-! ## Looking properties up in a cascade -/

/-- What a declaration of a property, or its absence, makes of the value below. -/
def effect (declared below : Option String) : Option String :=
  match declared with
  | some value => if value = "unset" then none else some value
  | none => below

theorem get?_declare (style : Style) (entry : StyleEntry) (property : String) :
    (style.declare entry).get? property =
      if property = entry.1 then effect (some entry.2) none else style.get? property := by
  unfold declare
  by_cases reset : entry.2 = "unset"
  · rw [if_pos reset, OrderedMap.get?_filter]
    by_cases same : property = entry.1 <;> simp [same, effect, reset]
  · rw [if_neg reset, OrderedMap.get?_insert]
    simp only [effect, if_neg reset]

/-- Declarations of other properties leave a property as it is. -/
theorem get?_foldl_declare (entries : List StyleEntry) (base : Style) (property : String)
    (distinct : (entries.map Prod.fst).Nodup) :
    (entries.foldl declare base).get? property =
      effect (entries.lookup property) (base.get? property) := by
  induction entries generalizing base with
  | nil => rfl
  | cons entry rest ih =>
      have distinctParts := List.nodup_cons.mp distinct
      rw [List.foldl_cons, ih _ distinctParts.2, get?_declare, lookup_cons_eq_ite]
      by_cases same : property = entry.1
      · have absent : rest.lookup property = none := by
          cases found : rest.lookup property with
          | none => rfl
          | some value =>
              have member := (lookup_eq_some_iff_mem distinctParts.2 _ _).mp found
              exact absurd (List.mem_map.mpr ⟨_, member, same⟩) distinctParts.1
        rw [absent, if_pos same, if_pos same]
        rfl
      · rw [if_neg same, if_neg same]

theorem get?_overlay (base rule : Style) (property : String) :
    (base.overlay rule).get? property =
      effect (rule.get? property) (base.get? property) :=
  get?_foldl_declare rule.entries base property rule.distinct

theorem settled_of_forall_none (values : List (Option String))
    (absent : forall value, value ∈ values -> value = none) : settled values = none := by
  cases values with
  | nil => rfl
  | cons value rest =>
      rw [absent value List.mem_cons_self]
      rfl

/-- One more rule on top of a cascade keeps its value the settled one. -/
theorem effect_remaining (own : Option String) (below : List (Option String))
    (plain : own ≠ some "unset") :
    effect (remaining own below) (settled below) = settled (own :: below) := by
  cases own with
  | some value =>
      have ordinary : value ≠ "unset" := fun equal => plain (congrArg some equal)
      by_cases later : some value ∈ below
      · rw [remaining, if_pos later, settled, if_pos (List.contains_iff_mem.mpr later), effect]
      · have last : ¬ below.contains (some value) = true :=
          fun given => later (List.contains_iff_mem.mp given)
        rw [remaining, if_neg later, settled, if_neg last, effect, if_neg ordinary]
  | none =>
      by_cases untouched : forall given, given ∈ below -> given = none
      · rw [remaining, if_pos untouched, settled]
        exact settled_of_forall_none below untouched
      · rw [remaining, if_neg untouched]
        rfl

end Style

namespace Project

/-! ## The rules along a chain -/

/-- The rules of nodes that override each other, nearest first. -/
def rulesAlong (project : Project) : List NodeKey -> List Style
  | [] => []
  | node :: below => project.styleOver node below :: project.rulesAlong below

/-- The values that nodes give a property. -/
def valuesAlong (project : Project) (property : String) (nodes : List NodeKey) :
    List (Option String) :=
  nodes.map fun node => (project.nodeStyle node).get? property

theorem get?_cascade_rulesAlong (project : Project) (nodes : List NodeKey) (property : String)
    (plain : forall node, node ∈ nodes ->
      (project.nodeStyle node).get? property ≠ some "unset") :
    (Style.cascade (project.rulesAlong nodes)).get? property =
      Style.settled (project.valuesAlong property nodes) := by
  induction nodes with
  | nil => rfl
  | cons node below ih =>
      have belowPlain : forall other, other ∈ below ->
          (project.nodeStyle other).get? property ≠ some "unset" :=
        fun other member => plain other (List.mem_cons_of_mem _ member)
      rw [rulesAlong, Style.cascade, Style.get?_overlay, ih belowPlain,
        project.get?_styleOver node below property belowPlain]
      exact Style.effect_remaining _ _ (plain node List.mem_cons_self)

theorem overrideStyle_eq_ok {project : Project} {key : NodeKey} {chain : List NodeKey}
    (found : (project.overrideChain key).outcome = .ok chain) :
    (project.overrideStyle key).outcome = .ok (project.styleOver key chain) := by
  rw [overrideStyle, Reported.outcome_bind_of_ok (Reported.outcome_raise _),
    Reported.outcome_bind_of_ok found, Reported.outcome_bind_of_ok (Reported.outcome_raise _)]
  rfl

/-- A rule style is worked out over the chain of overridden nodes. -/
theorem overrideStyle_eq_ok_iff {project : Project} {key : NodeKey} (style : Style) :
    (project.overrideStyle key).outcome = .ok style ↔
      Exists fun chain => (project.overrideChain key).outcome = .ok chain ∧
        style = project.styleOver key chain := by
  constructor
  · intro ruled
    rw [overrideStyle] at ruled
    rcases (Reported.outcome_bind_eq_ok_iff _ _ _).mp ruled with ⟨_, _, rest⟩
    rcases (Reported.outcome_bind_eq_ok_iff _ _ _).mp rest with ⟨chain, found, _⟩
    rw [← overrideStyle] at ruled
    refine ⟨chain, found, ?_⟩
    exact Except.ok.inj (ruled.symm.trans (overrideStyle_eq_ok found))
  · intro followed
    rcases followed with ⟨chain, found, same⟩
    rw [same]
    exact overrideStyle_eq_ok found

/-- Along a complete chain every node has its rule, and the rule is worked out
from the rest of the chain. -/
theorem forall₂_rulesAlong {project : Project} {key : NodeKey} {chain : List NodeKey}
    (found : (project.overrideChain key).outcome = .ok chain)
    (ends : (project.previousNode (chain.getLastD key)).outcome = .ok none)
    (before nodes : List NodeKey) (split : key :: chain = before ++ nodes) :
    List.Forall₂ (fun node rule => (project.overrideStyle node).outcome = .ok rule)
      nodes (project.rulesAlong nodes) := by
  induction nodes generalizing before with
  | nil => exact List.Forall₂.nil
  | cons node below ih =>
      have rest : key :: chain = (before ++ [node]) ++ below := by
        rw [split, List.append_assoc, List.singleton_append]
      exact List.Forall₂.cons (overrideStyle_eq_ok (overrideChain_of_mem found ends split))
        (ih _ rest)

/-- Where the chain of a node is found and ends without coming back to a node,
every node along it has a rule.  Laid over each other the rules restore the own
style of the node exactly if each of its own values is the settled one, that is,
if no node along the chain leaves another value standing above the last node that
gives it. -/
theorem cascade_restores_iff {project : Project} {key : NodeKey} {chain : List NodeKey}
    (found : (project.overrideChain key).outcome = .ok chain)
    (ends : (project.previousNode (chain.getLastD key)).outcome = .ok none)
    (plain : forall node, node ∈ key :: chain -> forall property,
      (project.nodeStyle node).get? property ≠ some "unset") :
    Exists fun rules =>
      List.Forall₂ (fun node rule => (project.overrideStyle node).outcome = .ok rule)
          (key :: chain) rules ∧
        ((forall property,
            (Style.cascade rules).get? property = (project.nodeStyle key).get? property) ↔
          forall property value, (project.nodeStyle key).get? property = some value ->
            Style.settled (project.valuesAlong property (key :: chain)) = some value) := by
  refine ⟨project.rulesAlong (key :: chain),
    forall₂_rulesAlong found ends [] (key :: chain) rfl, ?_⟩
  have looked : forall property,
      (Style.cascade (project.rulesAlong (key :: chain))).get? property =
        Style.settled (project.valuesAlong property (key :: chain)) :=
    fun property => project.get?_cascade_rulesAlong (key :: chain) property
      fun node member => plain node member property
  constructor
  · intro restores property value own
    rw [← looked, restores, own]
  · intro settles property
    rw [looked]
    cases own : (project.nodeStyle key).get? property with
    | some value => exact settles property value own
    | none => rw [valuesAlong, List.map_cons, own, Style.settled]

/-! ## A value that comes back -/

/-- A text that states nothing but a decoration. -/
def decoratedText (id decoration : String) : Node :=
  .leaf id "Label" (.text "x" { TypeStyle.blank with decoration := some decoration } .blank)

/-- Three components, each but the first placing an instance of the one before,
so that the text of the last overrides two others.  The decorations are given
from the innermost text outwards. -/
def stackedLabels (inner middle outer : String) : Project where
  scene :=
    { main := .ofDocument (.ofRoot (.container "0:0" "Document" .document
        [ .container "1:1" "Chip" (.component false .blank) [decoratedText "1:2" inner],
          .container "2:1" "Tag" (.component false .blank)
            [ .container "2:2" "Chip" (.placement "1:1" false .blank)
                [decoratedText "I2:2;1:2" middle] ],
          .container "3:1" "Badge" (.component false .blank)
            [ .container "3:2" "Tag" (.placement "2:1" false .blank)
                [ .container "I3:2;2:2" "Chip" (.placement "1:1" false .blank)
                    [decoratedText "I3:2;2:2;1:2" outer] ] ] ]))
      imports := [] }
  options := ⟨false, true⟩
  outputPath := ""

/-- A style with one property gives a value to that property alone. -/
theorem eq_of_get?_eq_some {style : Style} {entry : StyleEntry} (stated : style.entries = [entry])
    {property value : String} (given : style.get? property = some value) :
    property = entry.1 ∧ value = entry.2 := by
  rw [OrderedMap.get?_eq_some_iff_mem, stated, List.mem_singleton] at given
  exact ⟨congrArg Prod.fst given, congrArg Prod.snd given⟩

theorem ne_unset_of_entries {project : Project} {decoration : NodeKey -> String}
    {nodes : List NodeKey}
    (stated : forall node, node ∈ nodes ->
      (project.nodeStyle node).entries = [("text-decoration", decoration node)])
    (plain : forall node, node ∈ nodes -> decoration node ≠ "unset") :
    forall node, node ∈ nodes -> forall property,
      (project.nodeStyle node).get? property ≠ some "unset" := by
  intro node member property given
  exact plain node member (eq_of_get?_eq_some (stated node member) given).2.symm

/-- A decoration that the middle component changes and the outer one takes over
is restored. -/
theorem stackedLabels_restored :
    Exists fun rules =>
      List.Forall₂ (fun node rule =>
          ((stackedLabels "UNDERLINE" "STRIKETHROUGH" "STRIKETHROUGH").overrideStyle
            node).outcome = .ok rule)
        [⟨.main, 9⟩, ⟨.main, 5⟩, ⟨.main, 2⟩] rules ∧
      forall property, (Style.cascade rules).get? property =
        ((stackedLabels "UNDERLINE" "STRIKETHROUGH" "STRIKETHROUGH").nodeStyle
          ⟨.main, 9⟩).get? property := by
  let project := stackedLabels "UNDERLINE" "STRIKETHROUGH" "STRIKETHROUGH"
  have found : (project.overrideChain ⟨.main, 9⟩).outcome = .ok [⟨.main, 5⟩, ⟨.main, 2⟩] := by
    decide +kernel
  have ends : (project.previousNode ⟨.main, 2⟩).outcome = .ok none := by decide +kernel
  have stated : forall node, node ∈ [NodeKey.mk .main 9, ⟨.main, 5⟩, ⟨.main, 2⟩] ->
      (project.nodeStyle node).entries =
        [("text-decoration", if node.index = 2 then "underline" else "line-through")] := by
    decide +kernel
  have plain := ne_unset_of_entries stated (by decide +kernel)
  rcases cascade_restores_iff found ends plain with ⟨rules, ruled, exactly⟩
  refine ⟨rules, ruled, exactly.mpr ?_⟩
  intro property value own
  rcases eq_of_get?_eq_some (stated ⟨.main, 9⟩ List.mem_cons_self) own with ⟨rfl, rfl⟩
  decide +kernel

/-- A decoration that the middle component changes and the outer one changes
back is lost: the outer rule leaves it out, because the innermost text has it
too, and the rule of the middle one stands. -/
theorem stackedLabels_not_restored :
    let project := stackedLabels "UNDERLINE" "STRIKETHROUGH" "UNDERLINE"
    (project.overrideChain ⟨.main, 9⟩).outcome = .ok [⟨.main, 5⟩, ⟨.main, 2⟩] ∧
      (project.previousNode ⟨.main, 2⟩).outcome = .ok none ∧
      (forall node, node ∈ [NodeKey.mk .main 9, ⟨.main, 5⟩, ⟨.main, 2⟩] -> forall property,
        (project.nodeStyle node).get? property ≠ some "unset") ∧
      Exists fun rules =>
        List.Forall₂ (fun node rule => (project.overrideStyle node).outcome = .ok rule)
          [⟨.main, 9⟩, ⟨.main, 5⟩, ⟨.main, 2⟩] rules ∧
        (Style.cascade rules).get? "text-decoration" = some "line-through" ∧
        (project.nodeStyle ⟨.main, 9⟩).get? "text-decoration" = some "underline" := by
  intro project
  have found : (project.overrideChain ⟨.main, 9⟩).outcome = .ok [⟨.main, 5⟩, ⟨.main, 2⟩] := by
    decide +kernel
  have ends : (project.previousNode ⟨.main, 2⟩).outcome = .ok none := by decide +kernel
  have stated : forall node, node ∈ [NodeKey.mk .main 9, ⟨.main, 5⟩, ⟨.main, 2⟩] ->
      (project.nodeStyle node).entries =
        [("text-decoration", if node.index = 5 then "line-through" else "underline")] := by
    decide +kernel
  refine ⟨found, ends, ne_unset_of_entries stated (by decide +kernel),
    project.rulesAlong [⟨.main, 9⟩, ⟨.main, 5⟩, ⟨.main, 2⟩],
    forall₂_rulesAlong found ends [] _ rfl, ?_, ?_⟩
  · decide +kernel
  · decide +kernel

end Project

/-!
## What the rule of a node declares

The rule style of a node comes out of one subtraction for each node along its chain.
A step works on what the steps before it left, so a declaration may be dropped, a
reset put in its place, and the reset dropped in turn.  None of this shows in the
result.  One property at a time, the rule declares the value that the node states
itself, unless some node along the chain states the same one.  What the node does not
state is reset, if some node along the chain states it.

Where in the chain those nodes stand makes no difference, and neither does how often
a value changes along it.
-/

namespace Style

/-- A style declares a property under a condition only, and with no other value than
the given one. -/
structure DeclaresIf (style : Style) (property value : String) (condition : Prop) : Prop where
  declared_iff : style.get? property = some value ↔ condition
  absent_iff : style.get? property = none ↔ ¬ condition

theorem declaresIf_of_ite {style : Style} {property value : String} {condition : Prop}
    [Decidable condition]
    (looked : style.get? property = if condition then none else some value) :
    style.DeclaresIf property value (¬ condition) := by
  by_cases holds : condition
  · rw [if_pos holds] at looked
    constructor <;> simp [looked, holds]
  · rw [if_neg holds] at looked
    constructor <;> simp [looked, holds]

end Style

namespace Project

/-- Where the chain of a node is found, the node has a rule style.  It declares what
the node states itself, except for values that some node along the chain states too;
it resets what the node lacks and some node along the chain states; and it says
nothing of any other property.  No node along the chain may state the word `unset`,
which would pass for a reset. -/
theorem overrideStyle_declares {project : Project} {key : NodeKey} {chain : List NodeKey}
    (found : (project.overrideChain key).outcome = .ok chain)
    (plain : forall node, node ∈ chain -> forall property,
      (project.nodeStyle node).get? property ≠ some "unset") :
    Exists fun style => (project.overrideStyle key).outcome = .ok style ∧
      forall property,
        (forall value, (project.nodeStyle key).get? property = some value ->
          style.DeclaresIf property value
            (forall node, node ∈ chain ->
              (project.nodeStyle node).get? property ≠ some value)) ∧
        ((project.nodeStyle key).get? property = none ->
          style.DeclaresIf property "unset"
            (Exists fun node => node ∈ chain ∧
              (project.nodeStyle node).get? property ≠ none)) := by
  refine ⟨project.styleOver key chain, overrideStyle_eq_ok found, ?_⟩
  intro property
  have looked := project.get?_styleOver key chain property
    fun node member => plain node member property
  constructor
  · intro value stated
    rw [stated, Style.remaining] at looked
    have declares := Style.declaresIf_of_ite looked
    simp only [List.mem_map, not_exists, not_and] at declares
    exact declares
  · intro unstated
    rw [unstated, Style.remaining] at looked
    have declares := Style.declaresIf_of_ite looked
    simp only [List.forall_mem_map, not_forall, exists_prop] at declares
    exact declares

/-- A text without a decoration that overrides two texts with different ones resets
the decoration, and says nothing of its color, which none of them states. -/
theorem stackedLabels_decoration_reset :
    Exists fun style =>
      ((stackedLabels "UNDERLINE" "STRIKETHROUGH" "NONE").overrideStyle ⟨.main, 9⟩).outcome =
        .ok style ∧
      style.get? "text-decoration" = some "unset" ∧ style.get? "color" = none := by
  let project := stackedLabels "UNDERLINE" "STRIKETHROUGH" "NONE"
  have found : (project.overrideChain ⟨.main, 9⟩).outcome = .ok [⟨.main, 5⟩, ⟨.main, 2⟩] := by
    decide +kernel
  have stated : forall node, node ∈ [NodeKey.mk .main 5, ⟨.main, 2⟩] ->
      (project.nodeStyle node).entries =
        [("text-decoration", if node.index = 2 then "underline" else "line-through")] := by
    decide +kernel
  have own : (project.nodeStyle ⟨.main, 9⟩).entries = [] := by decide +kernel
  have lacks : forall property, (project.nodeStyle ⟨.main, 9⟩).get? property = none := by
    intro property
    rw [OrderedMap.get?, own]
    rfl
  have plain := ne_unset_of_entries stated (by decide +kernel)
  rcases overrideStyle_declares found plain with ⟨style, ruled, declares⟩
  refine ⟨style, ruled, ?_, ?_⟩
  · refine ((declares "text-decoration").2 (lacks _)).declared_iff.mpr ?_
    exact ⟨⟨.main, 2⟩, by decide, by decide +kernel⟩
  · refine ((declares "color").2 (lacks _)).absent_iff.mpr ?_
    decide +kernel

end Project

end SceneMarkup
