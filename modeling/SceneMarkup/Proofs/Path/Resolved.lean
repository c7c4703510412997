import Mathlib.Data.List.Chain
import SceneMarkup.Proofs.Path.Steps

namespace SceneMarkup
namespace Path

/-!
# Resolved paths

Dots are resolved one segment after the other.  What one segment does to the parts
before it is said once, and what holds of all segments together follows by going
through them.  The parts are kept in reverse, since a segment only ever changes the
last ones.

Two facts carry everything else.  The root stands below all parts and is never taken
away, so rooted paths need no laws of their own.  And steps that resolve to names only
leave alone whatever stands before them.
-/

/-! ## One segment after the other -/

/-- What a segment does to the parts before it, the last of which stands first. -/
def advance (parts : List String) : Segment -> List String
  | .root => "" :: parts
  | .here => parts
  | .name text => text :: parts
  | .up =>
      match parts with
      | [] => [".."]
      | last :: rest => if last = ".." ∨ last = "" then ".." :: last :: rest else rest

theorem normalizeFrom_eq (parts : List String) (segments : List Segment) :
    normalizeFrom parts segments = (segments.foldl advance parts).reverse := by
  fun_induction normalizeFrom parts segments with
  | case1 parts => rfl
  | case2 parts rest ih => exact ih
  | case3 parts rest ih => exact ih
  | case4 parts text rest ih => exact ih
  | case5 last parts rest stays ih => rw [List.foldl_cons, advance, if_pos stays, ih]
  | case6 last parts rest taken ih => rw [List.foldl_cons, advance, if_neg taken, ih]
  | case7 rest ih => exact ih

theorem normalize_eq (segments : List Segment) :
    normalize segments = (segments.foldl advance []).reverse :=
  normalizeFrom_eq [] segments

/-- The root below everything else is never taken away. -/
theorem foldl_advance_onRoot (parts : List String) (segments : List Segment) :
    segments.foldl advance (parts ++ [""]) = segments.foldl advance parts ++ [""] := by
  induction segments generalizing parts with
  | nil => rfl
  | cons segment rest ih =>
      have one : advance (parts ++ [""]) segment = advance parts segment ++ [""] := by
        cases segment with
        | root | here | name text => rfl
        | up =>
            cases parts with
            | nil => rfl
            | cons last others =>
                simp only [advance, List.cons_append]
                split <;> rfl
      rw [List.foldl_cons, List.foldl_cons, one, ih]

theorem up_mem_advance {parts : List String} (member : ".." ∈ parts) (segment : Segment) :
    ".." ∈ advance parts segment := by
  cases segment with
  | here => exact member
  | root | name text => exact List.mem_cons_of_mem _ member
  | up =>
      cases parts with
      | nil => cases member
      | cons last others =>
          rw [advance]
          split
          · exact List.mem_cons_self
          · rename_i taken
            refine (List.mem_cons.mp member).resolve_left ?_
            exact fun same => taken (Or.inl same.symm)

/-- A step up that could not be taken stays. -/
theorem up_mem_foldl_advance {parts : List String} (member : ".." ∈ parts)
    (segments : List Segment) : ".." ∈ segments.foldl advance parts := by
  induction segments generalizing parts with
  | nil => exact member
  | cons segment rest ih => exact ih (up_mem_advance member segment)

/-- Segments after which no step up is left do not touch what stands before them. -/
theorem foldl_advance_over (before : List String) {parts : List String} {segments : List Segment}
    (down : ".." ∉ segments.foldl advance parts) :
    segments.foldl advance (parts ++ before) = segments.foldl advance parts ++ before := by
  induction segments generalizing parts with
  | nil => rfl
  | cons segment rest ih =>
      have soFar : ".." ∉ advance parts segment :=
        fun member => down (up_mem_foldl_advance member rest)
      have one : advance (parts ++ before) segment = advance parts segment ++ before := by
        cases segment with
        | root | here | name text => rfl
        | up =>
            cases parts with
            | nil => exact absurd List.mem_cons_self soFar
            | cons last others =>
                simp only [advance, List.cons_append]
                split <;> rfl
      rw [List.foldl_cons, List.foldl_cons, one, ih down]

/-- As many steps up as there are names lead back to where these began. -/
theorem foldl_advance_ups {names : List String}
    (real : forall name, name ∈ names -> name ≠ ".." ∧ name ≠ "") (parts : List String) :
    (List.replicate names.length Segment.up).foldl advance (names ++ parts) = parts := by
  induction names with
  | nil => rfl
  | cons name rest ih =>
      rw [List.forall_mem_cons] at real
      rw [List.length_cons, List.replicate_succ, List.foldl_cons, List.cons_append, advance,
        if_neg (not_or.mpr real.1), ih real.2]

/-! ## Resolved parts -/

/-- Parts that resolving leaves as they are: a step up stands only where there is no
name that it could take away. -/
structure IsResolved (parts : List String) : Prop where
  areParts : forall part, part ∈ parts -> IsPart part
  upsFirst : parts.IsChain fun before part => part = ".." -> before = ".."

theorem isResolved_advance {parts : List String} (resolved : IsResolved parts.reverse)
    {segment : Segment} (isStep : IsStep segment) : IsResolved (advance parts segment).reverse := by
  rcases resolved with ⟨areParts, upsFirst⟩
  simp only [List.mem_reverse] at areParts
  rw [List.isChain_reverse] at upsFirst
  cases isStep with
  | name isPart notUp =>
      refine ⟨?_, List.isChain_reverse.mpr (upsFirst.cons ?_)⟩
      · simpa only [advance, List.mem_reverse, List.forall_mem_cons] using ⟨isPart, areParts⟩
      · exact fun _ _ impossible => absurd impossible notUp
  | up =>
      cases parts with
      | nil =>
          refine ⟨?_, List.IsChain.singleton _⟩
          exact List.forall_mem_singleton.mpr isPart_up
      | cons last rest =>
          rw [List.forall_mem_cons] at areParts
          rw [advance]
          split
          · rename_i stays
            have isUp : last = ".." := stays.resolve_right areParts.1.nonempty
            refine ⟨?_, List.isChain_reverse.mpr (upsFirst.cons ?_)⟩
            · simpa only [List.mem_reverse, List.forall_mem_cons] using
                ⟨isPart_up, areParts.1, areParts.2⟩
            · intro next first _
              rw [← Option.some.inj first]
              exact isUp
          · refine ⟨?_, List.isChain_reverse.mpr upsFirst.tail⟩
            simpa only [List.mem_reverse] using areParts.2

theorem isResolved_foldl_advance {parts : List String} (resolved : IsResolved parts.reverse)
    {segments : List Segment} (areSteps : forall segment, segment ∈ segments -> IsStep segment) :
    IsResolved (segments.foldl advance parts).reverse := by
  induction segments generalizing parts with
  | nil => exact resolved
  | cons segment rest ih =>
      rw [List.forall_mem_cons] at areSteps
      exact ih (isResolved_advance resolved areSteps.1) areSteps.2

theorem isResolved_normalize {segments : List Segment}
    (areSteps : forall segment, segment ∈ segments -> IsStep segment) :
    IsResolved (normalize segments) := by
  rw [normalize_eq]
  exact isResolved_foldl_advance ⟨fun _ none => (List.not_mem_nil none).elim, .nil⟩ areSteps

theorem isResolved_steps (path : String) : IsResolved (normalize (steps path)) :=
  isResolved_normalize fun _ => isStep_of_mem_steps

/-- Resolved parts are what they stand for resolves to. -/
theorem foldl_advance_segmentOf {before parts : List String}
    (resolved : IsResolved (before ++ parts)) :
    (parts.map segmentOf).foldl advance before.reverse = (before ++ parts).reverse := by
  induction parts generalizing before with
  | nil => rw [List.append_nil]; rfl
  | cons part rest ih =>
      have one : advance before.reverse (segmentOf part) = (before ++ [part]).reverse := by
        rw [segmentOf, List.reverse_append, List.reverse_singleton, List.singleton_append]
        split
        · rename_i isUp
          rw [isUp]
          rcases before.eq_nil_or_concat with empty | ⟨front, last, split⟩
          · rw [empty]
            rfl
          · have link := (List.isChain_append.mp resolved.upsFirst).2.2 last
              (by rw [split, List.concat_eq_append, List.getLast?_concat]; rfl) part rfl isUp
            rw [split, List.concat_eq_append, List.reverse_append, link]
            rfl
        · rfl
      rw [List.map_cons, List.foldl_cons, one, ih (by rwa [List.append_assoc]), List.append_assoc]
      rfl

/-! ## Rooted and relative paths -/

/-- Parts behind the root, or on their own. -/
def onRoot (rooted : Bool) (parts : List String) : List String :=
  if rooted then "" :: parts else parts

theorem normalize_origin_append (path : String) (segments : List Segment) :
    normalize (origin path ++ segments) = onRoot (isRooted path) (normalize segments) := by
  rw [normalize_eq, normalize_eq, origin, onRoot]
  split
  · rw [List.singleton_append, List.foldl_cons]
    exact (congrArg List.reverse (foldl_advance_onRoot [] segments)).trans List.reverse_append
  · split <;> rfl

theorem normalize_segments (path : String) :
    normalize (segments path) = onRoot (isRooted path) (normalize (steps path)) := by
  rw [segments_eq, normalize_origin_append]

theorem normalize_segments_join {right : String} (relative : isRooted right = false)
    (left : String) :
    normalize (segments (join left right)) =
      onRoot (isRooted left)
        ((steps right).foldl advance (normalize (steps left)).reverse).reverse := by
  rw [normalize_segments, isRooted_join relative, steps_join relative, normalize_eq,
    List.foldl_append, normalize_eq, List.reverse_reverse]

theorem normalize_segments_directoryText (path : String) :
    normalize (segments (directoryText path)) =
      onRoot (isRooted path && hasParent path) (normalize (steps path).dropLast) := by
  rw [normalize_segments, isRooted_directoryText, steps_directoryText]

/-- The directory of a path resolves to the same parts, as text and as segments. -/
theorem normalize_directorySegments (path : String) :
    normalize (directorySegments path) = normalize (segments (directoryText path)) := by
  rw [normalize_segments_directoryText, directorySegments]
  cases parent : hasParent path with
  | false =>
      rw [if_neg (by decide), Bool.and_false, steps_of_hasParent_eq_false parent]
      rfl
  | true =>
      rw [if_pos rfl, Bool.and_true, segments_eq]
      by_cases none : steps path = []
      · have unrooted : isRooted path = false := by
          by_contra rooted
          rw [Bool.not_eq_false] at rooted
          rw [hasParent, segments_eq, none, origin, if_pos rooted] at parent
          cases parent
        rw [none, unrooted, origin, unrooted, if_neg (by decide)]
        split <;> rfl
      · rw [List.dropLast_append_of_ne_nil none, normalize_origin_append]

end Path
end SceneMarkup
