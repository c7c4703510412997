import Mathlib.Data.List.Induction
import SceneMarkup.Proofs.OrderedMap
import SceneMarkup.Style.Override

namespace SceneMarkup

/-!
# What a style laid over others declares

The style of a rule is worked out by subtracting the styles of overridden nodes
one after the other, and each subtraction may drop a property, bring back one
that an earlier subtraction dropped, or put `unset` in its place.  Seen one
property at a time there is much less to say.  A value of the node's own style
is declared exactly as long as no overridden node gives the same value, and a
property that the own style lacks is `unset` as soon as one of them gives it any
value.

The second half needs one premise: no overridden node may state the word `unset`
itself.  A later subtraction would take such a literal for the reset that an
earlier one put there, and drop it.
-/

namespace Style

/-! ## One subtraction -/

/-- The declarations that a subtraction keeps stand behind the resets, so they
count where both are present. -/
theorem get?_difference (style own previous : Style) (property : String) :
    (style.difference own previous).get? property =
      match style.get? property with
      | some value => if previous.get? property = some value then none else some value
      | none =>
          if previous.get? property ≠ none ∧ own.get? property = none then some "unset"
          else none := by
  unfold difference
  have keptDistinct : ((style.entries.filter fun entry =>
      previous.get? entry.1 != some entry.2).map Prod.fst).Nodup :=
    List.Nodup.sublist (List.filter_sublist.map Prod.fst) style.distinct
  have removedDistinct : (((previous.entries.filter fun entry =>
      style.get? entry.1 != some entry.2 && !own.contains entry.1).map
        fun entry => (entry.1, "unset")).map Prod.fst).Nodup := by
    rw [List.map_map]
    exact List.Nodup.sublist (List.filter_sublist.map Prod.fst) previous.distinct
  rw [OrderedMap.get?_ofList, List.reverse_append, List.lookup_append,
    lookup_reverse keptDistinct, lookup_reverse removedDistinct, lookup_filter style.distinct,
    lookup_map_values _ (fun _ => "unset"), lookup_filter previous.distinct]
  change ((style.get? property).filter _).or (((previous.get? property).filter _).map _) = _
  cases declared : style.get? property with
  | some value =>
      by_cases same : previous.get? property = some value
      · simp [same, declared]
      · simp [same, Option.filter]
  | none =>
      cases earlier : previous.get? property with
      | none => simp [Option.filter]
      | some value =>
          cases stated : own.get? property <;>
            simp [Option.filter, OrderedMap.contains, declared, stated]

/-! ## A whole chain of subtractions -/

/-- Subtract the styles of a chain, nearest first. -/
def subtractAll (own : Style) (chain : List Style) : Style :=
  chain.foldl (fun style previous => style.difference own previous) own

/-- What a chain of subtractions has left of a property, from the values that the
node and the chain give it. -/
def remaining (own : Option String) (chain : List (Option String)) : Option String :=
  match own with
  | some value => if some value ∈ chain then none else some value
  | none => if forall given, given ∈ chain -> given = none then none else some "unset"

theorem remaining_nil (own : Option String) : remaining own [] = own := by
  cases own <;> simp [remaining]

/-- One more subtraction at the end of a chain. -/
theorem remaining_concat (own previous : Option String) (chain : List (Option String))
    (plain : previous ≠ some "unset") :
    remaining own (chain ++ [previous]) =
      match remaining own chain with
      | some value => if previous = some value then none else some value
      | none => if previous ≠ none ∧ own = none then some "unset" else none := by
  cases own with
  | some value =>
      by_cases dropped : some value ∈ chain
      · simp [remaining, dropped]
      · by_cases same : previous = some value
        · simp [remaining, dropped, same]
        · simp [remaining, dropped, same, Ne.symm same]
  | none =>
      by_cases untouched : forall given, given ∈ chain -> given = none
      · cases previous with
        | none =>
            have still : forall given, given ∈ chain ++ [none] -> given = none := by
              intro given member
              rcases List.mem_append.mp member with before | last
              · exact untouched given before
              · exact List.mem_singleton.mp last
            rw [remaining, remaining, if_pos untouched, if_pos still]
            rfl
        | some value =>
            have touched : ¬ forall given, given ∈ chain ++ [some value] -> given = none := by
              intro all
              cases all (some value) (List.mem_append.mpr (Or.inr (List.mem_singleton.mpr rfl)))
            rw [remaining, remaining, if_pos untouched, if_neg touched]
            rfl
      · have touched : ¬ forall given, given ∈ chain ++ [previous] -> given = none :=
          fun all => untouched fun given member => all given (List.mem_append.mpr (Or.inl member))
        simp only [remaining, if_neg untouched, if_neg touched, if_neg plain]

/-- A rule declares of each property what the values along the chain leave. -/
theorem get?_subtractAll (own : Style) (chain : List Style) (property : String)
    (plain : forall style, style ∈ chain -> style.get? property ≠ some "unset") :
    (own.subtractAll chain).get? property =
      remaining (own.get? property) (chain.map fun style => style.get? property) := by
  induction chain using List.reverseRecOn with
  | nil => exact (remaining_nil _).symm
  | append_singleton before last ih =>
      have step : own.subtractAll (before ++ [last]) =
          (own.subtractAll before).difference own last := by
        simp [subtractAll, List.foldl_append]
      have earlier := ih fun style member => plain style (List.mem_append.mpr (Or.inl member))
      have lastPlain := plain last (List.mem_append.mpr (Or.inr (List.mem_singleton.mpr rfl)))
      rw [step, get?_difference, earlier, List.map_append, List.map_singleton,
        remaining_concat _ _ _ lastPlain]

/-- What a node states itself is never reset.  It is declared as it is stated, or
not at all. -/
theorem get?_subtractAll_of_stated {own : Style} {property value : String}
    (stated : own.get? property = some value) (chain : List Style) :
    (own.subtractAll chain).get? property = some value ∨
      (own.subtractAll chain).get? property = none := by
  induction chain using List.reverseRecOn with
  | nil => exact Or.inl stated
  | append_singleton before last ih =>
      rw [subtractAll, List.foldl_append, List.foldl_cons, List.foldl_nil, get?_difference]
      rw [subtractAll] at ih
      rcases ih with kept | dropped
      · rw [kept]
        dsimp only
        split
        · exact Or.inr rfl
        · exact Or.inl rfl
      · rw [dropped]
        refine Or.inr (if_neg ?_)
        rw [stated]
        exact fun both => nomatch both.2

end Style

namespace Project

theorem styleOver_eq_subtractAll (project : Project) (key : NodeKey) (chain : List NodeKey) :
    project.styleOver key chain =
      (project.nodeStyle key).subtractAll (chain.map project.nodeStyle) := by
  rw [styleOver, Style.subtractAll, List.foldl_map]

/-- The rule of a node declares of each property what the styles of the node and
of those it overrides leave. -/
theorem get?_styleOver (project : Project) (key : NodeKey) (chain : List NodeKey)
    (property : String)
    (plain : forall node, node ∈ chain ->
      (project.nodeStyle node).get? property ≠ some "unset") :
    (project.styleOver key chain).get? property =
      Style.remaining ((project.nodeStyle key).get? property)
        (chain.map fun node => (project.nodeStyle node).get? property) := by
  have plainStyles : forall style, style ∈ chain.map project.nodeStyle ->
      style.get? property ≠ some "unset" := by
    intro style member
    rcases List.mem_map.mp member with ⟨node, inChain, same⟩
    rw [← same]
    exact plain node inChain
  rw [styleOver_eq_subtractAll, Style.get?_subtractAll _ _ _ plainStyles, List.map_map]
  rfl

end Project
end SceneMarkup
