import SceneMarkup.Proofs.Path.Resolved

namespace SceneMarkup
namespace Path

/-!
# Imports lead back to their target

An import names its target by way of the place where the two paths part: as many steps
up as the directory has parts from there on, and then the rest of the target.  The steps
up undo exactly the names of the directory below that place, provided that these are
names; a step up among them, which resolving had to leave, cannot be undone.

The root lies in no directory.  An import from it is written as if from the empty path,
so all of the target is in it, and the part that stands for the root means nothing
behind the dot.  Such an import leads to the target behind the root, but behind the
empty path it does not.
-/

/-- From where two paths part, the first one takes no step up. -/
def PartsDownward (directory target : List String) : Prop :=
  Exists fun shared => Exists fun below => Exists fun beyond =>
    directory = shared ++ below ∧ target = shared ++ beyond ∧ ".." ∉ below

/-! ## The place where two paths part -/

theorem take_sharedCount (left right : List String) :
    left.take (sharedCount left right) = right.take (sharedCount left right) := by
  fun_induction sharedCount left right with
  | case1 last lefts rights ih => rw [List.take_succ_cons, List.take_succ_cons, ih]
  | case2 left lefts right rights different => rfl
  | case3 lefts rights apart => rfl

theorem length_le_sharedCount (shared left right : List String) :
    shared.length <= sharedCount (shared ++ left) (shared ++ right) := by
  induction shared with
  | nil => exact Nat.zero_le _
  | cons part rest ih =>
      rw [List.cons_append, List.cons_append, sharedCount, if_pos rfl]
      exact Nat.succ_le_succ ih

theorem PartsDownward.not_mem_drop {directory target : List String}
    (down : PartsDownward directory target) :
    ".." ∉ directory.drop (sharedCount directory target) := by
  rcases down with ⟨shared, below, beyond, ofDirectory, ofTarget, noUp⟩
  intro member
  have within := length_le_sharedCount shared below beyond
  rw [← ofDirectory, ← ofTarget] at within
  refine noUp (List.Sublist.subset ?_ member)
  have dropped : directory.drop shared.length = below := by
    rw [ofDirectory, List.drop_left]
  rw [← dropped]
  exact List.drop_sublist_drop_left directory within

theorem sharedCount_onRoot (rooted : Bool) (directory target : List String) :
    (onRoot rooted directory).drop (sharedCount (onRoot rooted directory) (onRoot rooted target)) =
      directory.drop (sharedCount directory target) := by
  cases rooted with
  | false => rfl
  | true => simp only [onRoot, if_true, sharedCount, List.drop_succ_cons]

theorem relativeParts_onRoot (rooted : Bool) (directory target : List String) :
    relativeParts (onRoot rooted directory) (onRoot rooted target) =
      relativeParts directory target := by
  cases rooted with
  | false => rfl
  | true =>
      simp only [onRoot, if_true, relativeParts, sharedCount, List.length_cons,
        Nat.add_sub_add_right, List.drop_succ_cons]

/-! ## Going there -/

/-- From the directory, the parts of an import lead to the target. -/
theorem foldl_advance_relativeParts {directory target : List String}
    (directoryResolved : IsResolved directory) (targetResolved : IsResolved target)
    (down : ".." ∉ directory.drop (sharedCount directory target)) :
    ((relativeParts directory target).map segmentOf).foldl advance directory.reverse =
      target.reverse := by
  let place := sharedCount directory target
  have names : forall name, name ∈ (directory.drop place).reverse -> name ≠ ".." ∧ name ≠ "" := by
    intro name member
    rw [List.mem_reverse] at member
    refine ⟨fun isUp => down (isUp ▸ member), ?_⟩
    exact (directoryResolved.areParts name (List.mem_of_mem_drop member)).nonempty
  have climbed := foldl_advance_ups names (directory.take place).reverse
  rw [List.length_reverse, List.length_drop, ← List.reverse_append,
    List.take_append_drop] at climbed
  have rest : ((target.drop place).map segmentOf).foldl advance (target.take place).reverse =
      (target.take place ++ target.drop place).reverse :=
    foldl_advance_segmentOf (by rwa [List.take_append_drop])
  rw [List.take_append_drop] at rest
  rw [relativeParts, List.map_append, List.map_replicate, List.foldl_append]
  change List.foldl advance
    (List.foldl advance _ (List.replicate (directory.length - place) .up)) _ = _
  rw [climbed, take_sharedCount, rest]

/-! ## The text of an import -/

theorem head?_relativeImport (source target : String) :
    (relativeImport source target).toList.head? = some '.' := by
  rw [relativeImport]
  split
  · assumption
  · rw [String.toList_append]
    rfl

theorem isRooted_relativeImport (source target : String) :
    isRooted (relativeImport source target) = false := by
  rw [isRooted, head?_relativeImport]
  decide

/-- The steps of an import are those of its parts, whether a dot was put in front or
not. -/
theorem steps_relativeImport {source target : String} {parts : List String}
    (made : relativeParts (normalize (directorySegments source))
      (normalize (segments target)) = parts)
    (plain : forall part, part ∈ parts -> '/' ∉ part.toList) :
    steps (relativeImport source target) = parts.filterMap segmentOfPiece? := by
  rw [relativeImport, made, ← steps_intercalate plain]
  split
  · rfl
  · exact steps_append_slash "." _

theorem isPart_of_mem_relativeParts {directory target : List String}
    (areParts : forall part, part ∈ target -> IsPart part) :
    forall part, part ∈ relativeParts directory target -> IsPart part := by
  intro part member
  rcases List.mem_append.mp member with up | rest
  · rw [List.eq_of_mem_replicate up]
    exact isPart_up
  · exact areParts part (List.mem_of_mem_drop rest)

/-! ## From a directory -/

/-- From anywhere but the root, the steps of an import are the parts that it is made of. -/
theorem steps_relativeImport_of_directory {source target : String}
    (onSameRoot : (isRooted source && hasParent source) = isRooted target) :
    steps (relativeImport source target) =
      (relativeParts (normalize (steps source).dropLast) (normalize (steps target))).map
        segmentOf := by
  have areParts : forall part, part ∈ relativeParts (normalize (steps source).dropLast)
      (normalize (steps target)) -> IsPart part :=
    isPart_of_mem_relativeParts (isResolved_steps target).areParts
  rw [← filterMap_segmentOfPiece? areParts]
  refine steps_relativeImport ?_ fun part member => (areParts part member).whole
  rw [normalize_directorySegments, normalize_segments_directoryText, onSameRoot,
    normalize_segments, relativeParts_onRoot]

/-- From a directory that takes no step up from where it parts from the target, an import
leads to the target. -/
theorem normalize_relativeImport {source target : String}
    (onSameRoot : (isRooted source && hasParent source) = isRooted target)
    (down : PartsDownward (normalize (segments (directoryText source)))
      (normalize (segments target))) :
    normalize (segments (join (directoryText source) (relativeImport source target))) =
      normalize (segments target) := by
  rw [normalize_segments_directoryText, onSameRoot, normalize_segments target] at down
  have apart := down.not_mem_drop
  rw [sharedCount_onRoot] at apart
  have resolved : IsResolved (normalize (steps source).dropLast) :=
    isResolved_normalize fun _ member =>
      isStep_of_mem_steps ((List.dropLast_sublist _).subset member)
  have reached := foldl_advance_relativeParts resolved (isResolved_steps target) apart
  rw [normalize_segments_join (isRooted_relativeImport source target), isRooted_directoryText,
    onSameRoot, steps_directoryText, steps_relativeImport_of_directory onSameRoot, reached,
    List.reverse_reverse, normalize_segments]

/-! ## From the root -/

/-- The root is the one rooted path that lies in no directory. -/
theorem segments_eq_root_iff (path : String) :
    segments path = [.root] ↔ isRooted path = true ∧ hasParent path = false := by
  constructor
  · intro isRoot
    refine ⟨?_, by rw [hasParent, isRoot]; rfl⟩
    by_contra relative
    have member : .root ∈ segments path := isRoot ▸ List.mem_cons_self
    rw [segments_eq, List.mem_append, origin, if_neg relative] at member
    rcases member with before | among
    · split at before <;> simp at before
    · cases isStep_of_mem_steps among
  · rintro ⟨rooted, noParent⟩
    rw [segments_eq, origin, if_pos rooted, steps_of_hasParent_eq_false noParent]
    rfl

/-- A relative path does not resolve to what a rooted one resolves to. -/
theorem normalize_ne_of_rooted {path target : String} (relative : isRooted path = false)
    (rooted : isRooted target = true) :
    normalize (segments path) ≠ normalize (segments target) := by
  intro same
  rw [normalize_segments, normalize_segments, relative, rooted] at same
  have listed : "" ∈ normalize (steps path) := by
    rw [onRoot, if_neg (by decide)] at same
    exact same ▸ List.mem_cons_self
  exact ((isResolved_steps path).areParts "" listed).nonempty rfl

/-- An import from the root takes the steps of the target from there. -/
theorem steps_relativeImport_of_root {source target : String} (noParent : hasParent source = false)
    (rooted : isRooted target = true) :
    steps (relativeImport source target) = (normalize (steps target)).map segmentOf := by
  have areParts := (isResolved_steps target).areParts
  have made : relativeParts (normalize (directorySegments source)) (normalize (segments target)) =
      "" :: normalize (steps target) := by
    rw [directorySegments, noParent, if_neg (by decide), normalize_segments, rooted]
    rfl
  rw [steps_relativeImport made, List.filterMap_cons_none (by decide),
    filterMap_segmentOfPiece? areParts]
  exact List.forall_mem_cons.mpr ⟨by decide, fun part member => (areParts part member).whole⟩

/-- Behind the root, an import from it leads to the target, but not behind the empty path
that the root has for its directory. -/
theorem normalize_relativeImport_of_root {source target : String} (rooted : isRooted source = true)
    (noParent : hasParent source = false) (alike : isRooted source = isRooted target) :
    normalize (segments (join source (relativeImport source target))) =
        normalize (segments target) ∧
      normalize (segments (join (directoryText source) (relativeImport source target))) ≠
        normalize (segments target) := by
  have relative := isRooted_relativeImport source target
  constructor
  · have restored : ((normalize (steps target)).map segmentOf).foldl advance [].reverse =
        (normalize (steps target)).reverse :=
      foldl_advance_segmentOf (isResolved_steps target)
    rw [normalize_segments_join relative, steps_relativeImport_of_root noParent (alike ▸ rooted),
      steps_of_hasParent_eq_false noParent, alike, normalize_segments target]
    change onRoot _ (List.foldl advance [].reverse _).reverse = _
    rw [restored, List.reverse_reverse]
  · rw [directoryText, noParent, if_neg (by decide)]
    refine normalize_ne_of_rooted ?_ (alike ▸ rooted)
    rw [isRooted_join relative]
    decide

/-! ## From any file -/

/-- An import begins with a dot.  If the target is rooted or relative as the file is,
and the directory of the file takes no step up from where it parts from the target, then
the import, put behind the directory, resolves to what the target resolves to, exactly
if the file is not the root itself.  The root lies in no directory, and what is imported
from there is found behind the root. -/
theorem relativeImport_leads_back (source target : String) :
    (relativeImport source target).toList.head? = some '.' ∧
    (isRooted source = isRooted target ->
      PartsDownward (normalize (segments (directoryText source))) (normalize (segments target)) ->
        (normalize (segments (join (directoryText source) (relativeImport source target))) =
          normalize (segments target) ↔ segments source ≠ [.root]) ∧
        (segments source = [.root] ->
          normalize (segments (join source (relativeImport source target))) =
            normalize (segments target))) := by
  refine ⟨head?_relativeImport source target, fun alike down => ?_⟩
  rw [Ne, segments_eq_root_iff]
  by_cases isRoot : isRooted source = true ∧ hasParent source = false
  · have fromRoot := normalize_relativeImport_of_root isRoot.1 isRoot.2 alike
    exact ⟨iff_of_false fromRoot.2 (not_not.mpr isRoot), fun _ => fromRoot.1⟩
  · have onSameRoot : (isRooted source && hasParent source) = isRooted target := by
      rw [← alike]
      cases rooted : isRooted source with
      | false => rfl
      | true =>
          rw [Bool.true_and, ← Bool.not_eq_false]
          exact fun noParent => isRoot ⟨rooted, noParent⟩
    exact ⟨iff_of_true (normalize_relativeImport onSameRoot down) isRoot,
      fun impossible => absurd impossible isRoot⟩

/-- Dots in the paths make no difference to where an import leads. -/
theorem dotted_import_leads_back :
    let source := "pages/../src/./ui/app.pc"
    let target := "./src/lib/../kit.pc"
    isRooted source = isRooted target ∧
      PartsDownward (normalize (segments (directoryText source))) (normalize (segments target)) ∧
      segments source ≠ [.root] ∧
      normalize (segments (join (directoryText source) (relativeImport source target))) =
        normalize (segments target) := by
  intro source target
  have alike : isRooted source = isRooted target := by decide +kernel
  have down : PartsDownward (normalize (segments (directoryText source)))
      (normalize (segments target)) :=
    ⟨["src"], ["ui"], ["kit.pc"], by decide +kernel, by decide +kernel, by decide⟩
  have notRoot : segments source ≠ [.root] := by decide +kernel
  exact ⟨alike, down, notRoot,
    ((relativeImport_leads_back source target).2 alike down).1.mpr notRoot⟩

/-- From the root itself, an import of a rooted path leads elsewhere behind the empty path
that counts as its directory. -/
theorem root_import_leads_astray :
    ¬ forall source target : String, isRooted source = isRooted target ->
      PartsDownward (normalize (segments (directoryText source))) (normalize (segments target)) ->
        normalize (segments (join (directoryText source) (relativeImport source target))) =
            normalize (segments target) ∧
          (relativeImport source target).toList.head? = some '.' := by
  intro always
  have down : PartsDownward (normalize (segments (directoryText "/")))
      (normalize (segments "/x")) :=
    ⟨[], [], ["", "x"], by decide +kernel, by decide +kernel, List.not_mem_nil⟩
  have back := (always "/" "/x" (by decide +kernel) down).1
  have astray : normalize (segments (join (directoryText "/") (relativeImport "/" "/x"))) =
      ["x"] := by
    decide +kernel
  rw [astray] at back
  exact absurd back (by decide +kernel)

end Path
end SceneMarkup
