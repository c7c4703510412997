import SceneMarkup.Path
import SceneMarkup.Proofs.Path.Resolved

namespace SceneMarkup

/-!
# Where generated files can end up

A generated file is meant to lie below a destination.  The names of its project and of
its design file are put behind the destination as paths, and writing a name in another
casing keeps its slashes and dots.  A rooted name replaces what stands before it, and a
name with steps up can take back the parts of the destination.

Whether this happens shows in the names alone.  The file lies below every destination
exactly if neither name is rooted and the steps of both, one after the other, never
climb above where they begin.  Names without slashes do no harm, except for a project
that is called like a step up.
-/

namespace Path

/-- A path resolves to where a destination does, followed by names only. -/
def StaysBelow (destination path : String) : Prop :=
  Exists fun names => (forall name, name ∈ names -> name ≠ "" ∧ name ≠ "..") ∧
    normalize (segments path) = normalize (segments destination) ++ names

/-- No beginning of a walk takes more steps up than it has other steps. -/
def NeverClimbs (walk : List Segment) : Prop :=
  forall front, front <+: walk -> front.countP (· = .up) <= front.countP (· ≠ .up)

/-! ## Climbing -/

theorem forall_prefix_cons_iff {Kind : List Segment -> Prop} (segment : Segment)
    (rest : List Segment) :
    (forall front, front <+: segment :: rest -> Kind front) ↔
      Kind [] ∧ forall front, front <+: rest -> Kind (segment :: front) := by
  constructor
  · intro all
    refine ⟨all [] List.nil_prefix, fun front begins => ?_⟩
    exact all _ (List.cons_prefix_cons.mpr ⟨rfl, begins⟩)
  · rintro ⟨empty, longer⟩ front begins
    rcases List.prefix_cons_iff.mp begins with none | ⟨tail, split, later⟩
    · exact none ▸ empty
    · exact split ▸ longer tail later

/-- A step up is left over exactly where a walk takes more of them than it has names,
those included that stand before it. -/
theorem up_not_mem_foldl_advance_iff {names : List String}
    (real : forall name, name ∈ names -> name ≠ "" ∧ name ≠ "..") {walk : List Segment}
    (areSteps : forall segment, segment ∈ walk -> IsStep segment) :
    ".." ∉ walk.foldl advance names ↔
      forall front, front <+: walk ->
        front.countP (· = .up) <= names.length + front.countP (· ≠ .up) := by
  induction walk generalizing names with
  | nil =>
      refine iff_of_true (fun member => (real ".." member).2 rfl) ?_
      intro front begins
      rw [List.prefix_nil.mp begins]
      exact Nat.zero_le _
  | cons segment rest ih =>
      rw [List.forall_mem_cons] at areSteps
      rw [forall_prefix_cons_iff, List.countP_nil, and_iff_right (Nat.zero_le _), List.foldl_cons]
      cases areSteps.1 with
      | @name text isPart notUp =>
          rw [advance, ih (List.forall_mem_cons.mpr ⟨⟨isPart.nonempty, notUp⟩, real⟩) areSteps.2]
          apply forall₂_congr
          intro front _
          rw [List.length_cons, List.countP_cons_of_neg (by simp),
            List.countP_cons_of_pos (by simp)]
          omega
      | up =>
          cases names with
          | nil =>
              refine iff_of_false (not_not.mpr (up_mem_foldl_advance List.mem_cons_self rest)) ?_
              intro all
              have first := all [] List.nil_prefix
              exact absurd first (by decide)
          | cons name others =>
              rw [List.forall_mem_cons] at real
              rw [advance, if_neg (not_or.mpr real.1.symm), ih real.2 areSteps.2]
              apply forall₂_congr
              intro front _
              rw [List.length_cons, List.countP_cons_of_pos (by simp),
                List.countP_cons_of_neg (by simp)]
              omega

theorem up_not_mem_normalize_iff {walk : List Segment}
    (areSteps : forall segment, segment ∈ walk -> IsStep segment) :
    ".." ∉ normalize walk ↔ NeverClimbs walk := by
  have counted : ".." ∉ walk.foldl advance [] ↔ _ :=
    up_not_mem_foldl_advance_iff (fun _ none => (List.not_mem_nil none).elim) areSteps
  simpa only [normalize_eq, List.mem_reverse, NeverClimbs, List.length_nil, Nat.zero_add]
    using counted

/-- A walk without steps up never climbs. -/
theorem neverClimbs_of_not_mem {walk : List Segment} (level : .up ∉ walk) : NeverClimbs walk := by
  intro front begins
  have none : front.countP (· = .up) = 0 := by
    rw [List.countP_eq_zero]
    rintro segment member isUp
    exact level (begins.subset (of_decide_eq_true isUp ▸ member))
  rw [none]
  exact Nat.zero_le _

/-! ## Staying below a destination -/

/-- A path of one piece takes a step up only if the piece is one. -/
theorem up_not_mem_steps {path : String} (plain : '/' ∉ path.toList) (notUp : path ≠ "..") :
    .up ∉ steps path := by
  have whole := steps_intercalate (List.forall_mem_singleton.mpr plain)
  rw [String.intercalate_singleton] at whole
  rw [whole]
  intro member
  rcases List.mem_filterMap.mp member with ⟨piece, listed, stands⟩
  rw [List.mem_singleton.mp listed, segmentOfPiece?, if_neg notUp] at stands
  split at stands <;> cases stands

theorem isRooted_append_extension (name : String) : isRooted (name ++ ".pc") = isRooted name := by
  by_cases empty : name = ""
  · rw [empty]
    decide +kernel
  · exact isRooted_append empty ".pc"

/-- Where two relative paths lead that are put behind a destination one after the
other. -/
theorem normalize_segments_join_join {first second : String}
    (firstRelative : isRooted first = false) (secondRelative : isRooted second = false) (destination : String) :
    normalize (segments (join (join destination first) second)) =
      onRoot (isRooted destination)
        (normalize (steps destination ++ (steps first ++ steps second))) := by
  rw [normalize_segments, isRooted_join secondRelative, isRooted_join firstRelative,
    steps_join secondRelative, steps_join firstRelative, List.append_assoc]

theorem normalize_append_of_neverClimbs (before : List Segment) {walk : List Segment}
    (areSteps : forall segment, segment ∈ walk -> IsStep segment) (level : NeverClimbs walk) :
    normalize (before ++ walk) = normalize before ++ normalize walk := by
  have down := (up_not_mem_normalize_iff areSteps).mpr level
  rw [normalize_eq, List.mem_reverse] at down
  have added := foldl_advance_over (before.foldl advance []) down
  rw [List.nil_append] at added
  rw [normalize_eq, List.foldl_append, added, List.reverse_append, ← normalize_eq, ← normalize_eq]

/-- A rooted path does not lie below a relative destination. -/
theorem not_staysBelow_of_isRooted {path : String} (rooted : isRooted path = true) :
    ¬ StaysBelow "out" path := by
  rintro ⟨names, _, same⟩
  have destination : normalize (segments "out") = ["out"] := by decide +kernel
  rw [normalize_segments, rooted, destination] at same
  exact absurd (List.cons.inj same).1 (by decide)

end Path

open SceneMarkup.Path

/-- The steps that a generated file takes from its destination. -/
def namedSteps (project file : String) (naming : FileNaming) : List Segment :=
  steps (naming.apply project) ++ steps (naming.apply file ++ ".pc")

variable {project file : String} {naming : FileNaming}

theorem isStep_of_mem_namedSteps {segment : Segment}
    (member : segment ∈ namedSteps project file naming) : IsStep segment :=
  (List.mem_append.mp member).elim isStep_of_mem_steps isStep_of_mem_steps

/-- Relative names that never climb keep a file below whatever they are put behind. -/
theorem staysBelow_of_neverClimbs (projectRelative : isRooted (naming.apply project) = false)
    (fileRelative : isRooted (naming.apply file) = false)
    (level : NeverClimbs (namedSteps project file naming)) (destination : String) :
    StaysBelow destination (sourceFilePath destination project file naming) := by
  have areSteps := fun segment (member : segment ∈ namedSteps project file naming) =>
    isStep_of_mem_namedSteps member
  rw [← isRooted_append_extension] at fileRelative
  refine ⟨normalize (namedSteps project file naming), ?_, ?_⟩
  · intro name member
    refine ⟨((isResolved_normalize areSteps).areParts name member).nonempty, ?_⟩
    rintro rfl
    exact (up_not_mem_normalize_iff areSteps).mpr level member
  · rw [sourceFilePath, normalize_segments_join_join projectRelative fileRelative, ← namedSteps,
      normalize_append_of_neverClimbs _ areSteps level, normalize_segments, onRoot, onRoot]
    split <;> rfl

/-- Without slashes in them, names keep a file below every destination, unless the project
is called like a step up. -/
theorem staysBelow_of_no_slash (projectPlain : '/' ∉ (naming.apply project).toList)
    (notUp : naming.apply project ≠ "..") (filePlain : '/' ∉ (naming.apply file).toList)
    (destination : String) :
    StaysBelow destination (sourceFilePath destination project file naming) := by
  have filePiece : '/' ∉ (naming.apply file ++ ".pc").toList := by
    rw [String.toList_append, List.mem_append]
    exact not_or.mpr ⟨filePlain, by decide⟩
  have extended : naming.apply file ++ ".pc" ≠ ".." := by
    intro same
    have last := congrArg (·.toList.getLast?) same
    rw [String.toList_append, List.getLast?_append_of_ne_nil _ (by decide)] at last
    exact absurd last (by decide)
  refine staysBelow_of_neverClimbs (isRooted_of_no_slash projectPlain)
    (isRooted_of_no_slash filePlain) (neverClimbs_of_not_mem ?_) destination
  rw [namedSteps, List.mem_append, not_or]
  exact ⟨up_not_mem_steps projectPlain notUp, up_not_mem_steps filePiece extended⟩

/-- Only relative names keep a file below a relative destination. -/
theorem relative_of_staysBelow
    (below : StaysBelow "out" (sourceFilePath "out" project file naming)) :
    isRooted (naming.apply project) = false ∧ isRooted (naming.apply file) = false := by
  have fileRelative : isRooted (naming.apply file ++ ".pc") = false := by
    by_contra rooted
    rw [Bool.not_eq_false] at rooted
    refine not_staysBelow_of_isRooted ?_ below
    rw [sourceFilePath, join, if_pos rooted]
    exact rooted
  refine ⟨?_, isRooted_append_extension _ ▸ fileRelative⟩
  by_contra rooted
  rw [Bool.not_eq_false] at rooted
  refine not_staysBelow_of_isRooted ?_ below
  rw [sourceFilePath, isRooted_join fileRelative, join, if_pos rooted]
  exact rooted

/-- A generated file lies below every destination exactly if the names of the project and
of the design file, as they are cased, are both relative and never climb above where they
begin. -/
theorem sourceFilePath_staysBelow_iff (project file : String) (naming : FileNaming) :
    (forall destination, StaysBelow destination (sourceFilePath destination project file naming)) ↔
      isRooted (naming.apply project) = false ∧ isRooted (naming.apply file) = false ∧
        NeverClimbs (namedSteps project file naming) := by
  constructor
  · intro below
    rcases relative_of_staysBelow (below "out") with ⟨projectRelative, fileRelative⟩
    refine ⟨projectRelative, fileRelative, ?_⟩
    -- Behind the empty destination the file resolves to what its own steps come to.
    rcases below "" with ⟨names, real, same⟩
    rw [← isRooted_append_extension] at fileRelative
    rw [sourceFilePath, normalize_segments_join_join projectRelative fileRelative] at same
    have whole : normalize (namedSteps project file naming) = names := same
    refine (up_not_mem_normalize_iff fun _ => isStep_of_mem_namedSteps).mp fun climbs => ?_
    exact (real ".." (whole ▸ climbs)).2 rfl
  · rintro ⟨projectRelative, fileRelative, level⟩ destination
    exact staysBelow_of_neverClimbs projectRelative fileRelative level destination

/-- The name of a design file can lead out of the destination. -/
theorem sourceFilePath_leaves_destination :
    ¬ forall (destination project file : String) (naming : FileNaming),
      StaysBelow destination (sourceFilePath destination project file naming) := by
  intro below
  rcases below "out" "design" "../../kit" .preserved with ⟨names, _, same⟩
  have outside : normalize (segments (sourceFilePath "out" "design" "../../kit" .preserved)) =
      ["kit.pc"] := by
    decide +kernel
  have destination : normalize (segments "out") = ["out"] := by decide +kernel
  rw [outside, destination] at same
  exact absurd (List.cons.inj same).1 (by decide)

end SceneMarkup
