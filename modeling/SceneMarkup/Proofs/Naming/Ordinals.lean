import Mathlib.Order.Bounds.Basic
import SceneMarkup.Index.Scene
import SceneMarkup.Proofs.Naming.Turns

namespace SceneMarkup
namespace Allocation

/-!
# Ordinals are no larger than they have to be

A number can collide with the identifier of another group and with a number that was
given in another group, so it is searched for among the names in use.  Within a group
the search goes on where it ended the last time.  Nothing is skipped by that: names in
use stay in use, so whatever the search has passed is still not free.  Each member is
therefore numbered as if the search started at two every time, and this is the form
in which the names are followed through the turns.
-/

/-! ## The search -/

/-- The search from an ordinal upwards, which knows no bound: it ends at the first
ordinal whose name is free. -/
inductive Searches (base : String) (taken : List String) : Nat -> Nat -> Prop where
  | free {ordinal : Nat} (unused : ¬ numbered base ordinal ∈ taken) :
      Searches base taken ordinal ordinal
  | used {ordinal last : Nat} (inUse : numbered base ordinal ∈ taken)
      (onwards : Searches base taken (ordinal + 1) last) : Searches base taken ordinal last

theorem searches_of_not_mem (base : String) (taken : List String) (tries : Nat) :
    forall ordinal, ¬ numbered base (freeOrdinal base taken tries ordinal) ∈ taken ->
      Searches base taken ordinal (freeOrdinal base taken tries ordinal) := by
  induction tries with
  | zero =>
      intro ordinal unused
      exact .free unused
  | succ tries ih =>
      intro ordinal
      rw [freeOrdinal]
      by_cases inUse : numbered base ordinal ∈ taken
      · rw [if_pos inUse]
        exact fun unused => .used inUse (ih (ordinal + 1) unused)
      · rw [if_neg inUse]
        exact .free

/-- Every search ends, and the bound on the number of tries does not cut it off. -/
theorem searches_freeOrdinal (base : String) (taken : List String) (ordinal : Nat) :
    Searches base taken ordinal (freeOrdinal base taken (taken.length + 1) ordinal) :=
  searches_of_not_mem base taken _ ordinal (numbered_freeOrdinal_not_mem base taken ordinal)

/-- The ordinals from `start` upwards whose names are free. -/
def freeFrom (base : String) (taken : List String) (start : Nat) : Set Nat :=
  { ordinal | start <= ordinal ∧ ¬ numbered base ordinal ∈ taken }

theorem Searches.isLeast {base : String} {taken : List String} {ordinal last : Nat}
    (ends : Searches base taken ordinal last) : IsLeast (freeFrom base taken ordinal) last := by
  induction ends with
  | free unused => exact ⟨⟨Nat.le_refl _, unused⟩, fun _ other => other.1⟩
  | @used ordinal last inUse _ ih =>
      refine ⟨⟨Nat.le_of_succ_le ih.1.1, ih.1.2⟩, ?_⟩
      rintro other ⟨lower, unused⟩
      -- The ordinal that was passed is not free, so nothing below the rest is.
      have passed : ordinal ≠ other := fun same => unused (same ▸ inUse)
      exact ih.2 ⟨Nat.lt_of_le_of_ne lower passed, unused⟩

theorem isLeast_freeOrdinal (base : String) (taken : List String) (ordinal : Nat) :
    IsLeast (freeFrom base taken ordinal) (freeOrdinal base taken (taken.length + 1) ordinal) :=
  (searches_freeOrdinal base taken ordinal).isLeast

/-! ## Going on where the search ended -/

/-- The least free ordinal of an identifier. -/
def leastFree (base : String) (taken : List String) : Nat :=
  freeOrdinal base taken (taken.length + 1) 2

/-- All ordinals that the search has passed are in use. -/
structure Passed (base : String) (taken : List String) (ordinal : Nat) : Prop where
  lower : 2 <= ordinal
  inUse : forall tried, 2 <= tried -> tried < ordinal -> numbered base tried ∈ taken

/-- Going on from there finds what a search from the start finds. -/
theorem Passed.freeOrdinal_eq {base : String} {taken : List String} {ordinal : Nat}
    (passed : Passed base taken ordinal) :
    freeOrdinal base taken (taken.length + 1) ordinal = leastFree base taken := by
  have same : freeFrom base taken ordinal = freeFrom base taken 2 := by
    ext tried
    constructor
    · rintro ⟨lower, unused⟩
      exact ⟨Nat.le_trans passed.lower lower, unused⟩
    · rintro ⟨lower, unused⟩
      refine ⟨?_, unused⟩
      by_contra notReached
      exact unused (passed.inUse tried lower (Nat.lt_of_not_le notReached))
  have onwards := isLeast_freeOrdinal base taken ordinal
  rw [same] at onwards
  exact onwards.unique (isLeast_freeOrdinal base taken 2)

/-- The name found is in use from then on, and so is everything before it. -/
theorem passed_leastFree (base : String) (taken : List String) :
    Passed base (numbered base (leastFree base taken) :: taken) (leastFree base taken + 1) := by
  have least := isLeast_freeOrdinal base taken 2
  refine ⟨Nat.le_succ_of_le least.1.1, ?_⟩
  intro tried lower upper
  by_cases found : tried = leastFree base taken
  · rw [found]
    exact List.mem_cons_self
  · apply List.mem_cons_of_mem
    by_contra unused
    have bound : leastFree base taken <= tried := least.2 ⟨lower, unused⟩
    omega

/-- Give a position the least free number of an identifier. -/
def number (assignment : Assignment) (turn : String × Nat) : Assignment :=
  let name := numbered turn.1 (leastFree turn.1 assignment.taken)
  ⟨(turn.2, name) :: assignment.given, name :: assignment.taken⟩

theorem numberMembers_eq (base : String) (positions : List Nat) :
    forall {ordinal : Nat} {assignment : Assignment}, Passed base assignment.taken ordinal ->
      numberMembers base ordinal positions assignment =
        (positions.map (Prod.mk base)).foldl number assignment := by
  induction positions with
  | nil =>
      intro ordinal assignment _
      rfl
  | cons position rest ih =>
      intro ordinal assignment passed
      rw [numberMembers, passed.freeOrdinal_eq]
      exact ih (passed_leastFree base assignment.taken)

/-- The turns in which numbers are given: the group and the position served. -/
def turns (groups : List (String × List Nat)) : List (String × Nat) :=
  groups.flatMap fun group => (group.2.drop 1).map (Prod.mk group.1)

theorem numberGroups_eq (groups : List (String × List Nat)) :
    forall assignment, numberGroups groups assignment = (turns groups).foldl number assignment := by
  induction groups with
  | nil =>
      intro assignment
      rfl
  | cons group rest ih =>
      intro assignment
      have start : Passed group.1 assignment.taken 2 :=
        ⟨Nat.le_refl 2, fun tried lower upper => absurd upper (Nat.not_lt_of_le lower)⟩
      rw [numberGroups, ih, numberMembers_eq group.1 _ start, turns, turns, List.flatMap_cons,
        List.foldl_append]

/-! ## What is given in turn -/

/-- Serving turns adds a name for each of them, and what was given before stays. -/
theorem exists_added (served : List (String × Nat)) :
    forall assignment : Assignment, Exists fun added : List (Nat × String) =>
      (served.foldl number assignment).given = added ++ assignment.given ∧
        (served.foldl number assignment).taken = added.map Prod.snd ++ assignment.taken ∧
          added.map Prod.fst = (served.map Prod.snd).reverse := by
  induction served with
  | nil =>
      intro assignment
      exact ⟨[], rfl, rfl, rfl⟩
  | cons turn rest ih =>
      intro assignment
      rcases ih (number assignment turn) with ⟨added, given, taken, positions⟩
      refine ⟨added ++ [(turn.2, numbered turn.1 (leastFree turn.1 assignment.taken))], ?_, ?_, ?_⟩
      · rw [List.foldl_cons, given, number, List.append_assoc, List.singleton_append]
      · rw [List.foldl_cons, taken, number, List.map_append, List.append_assoc]
        rfl
      · rw [List.map_append, positions, List.map_singleton, List.map_cons, List.reverse_cons]

theorem mem_given_foldl {served : List (String × Nat)} {assignment : Assignment}
    {entry : Nat × String} (given : entry ∈ assignment.given) :
    entry ∈ (served.foldl number assignment).given := by
  rcases exists_added served assignment with ⟨added, whole, _, _⟩
  rw [whole]
  exact List.mem_append_right added given

/-- A group without its first member is served in turn, the first members have their
names from the start. -/
theorem turns_append_bareNames_perm (groups : List (String × List Nat)) :
    ((turns groups).map Prod.snd ++ (bareNames groups).map Prod.fst).Perm
      (groups.flatMap Prod.snd) := by
  induction groups with
  | nil => exact List.Perm.refl _
  | cons group rest ih =>
      rcases group with ⟨base, positions⟩
      cases positions with
      | nil => exact ih
      | cons position others =>
          have served : (turns ((base, position :: others) :: rest)).map Prod.snd =
              others ++ (turns rest).map Prod.snd := by
            rw [turns, List.flatMap_cons, List.map_append, List.map_map]
            exact congrArg (· ++ _) (List.map_id others)
          have bare : (bareNames ((base, position :: others) :: rest)).map Prod.fst =
              position :: (bareNames rest).map Prod.fst := rfl
          rw [served, bare, List.flatMap_cons, List.cons_append]
          refine List.perm_middle.trans (List.Perm.cons position ?_)
          rw [List.append_assoc]
          exact ih.append_left others

theorem turns_sublist (groups : List (String × List Nat)) :
    ((turns groups).map Prod.snd).Sublist (groups.flatMap Prod.snd) := by
  induction groups with
  | nil => exact List.Sublist.refl _
  | cons group rest ih =>
      rw [turns, List.flatMap_cons, List.map_append, List.map_map, List.flatMap_cons]
      apply List.Sublist.append _ ih
      have positions : (group.2.drop 1).map (Prod.snd ∘ Prod.mk group.1) = group.2.drop 1 :=
        List.map_id _
      rw [positions]
      exact List.drop_sublist 1 group.2

section Served

variable {candidates : List Candidate}

/-- The bare identifiers, given before the first turn. -/
def start (candidates : List Candidate) : Assignment :=
  ⟨bareNames (positionGroups candidates), bases candidates⟩

theorem assigned_eq (candidates : List Candidate) :
    assigned candidates = (turns (positionGroups candidates)).foldl number (start candidates) :=
  numberGroups_eq _ _

/-- No position is served twice. -/
theorem nodup_given (candidates : List Candidate) :
    ((assigned candidates).given.map Prod.fst).Nodup := by
  rcases exists_added (turns (positionGroups candidates)) (start candidates) with
    ⟨added, given, _, positions⟩
  have served := turns_append_bareNames_perm (positionGroups candidates)
  rw [assigned_eq, given, List.map_append, positions]
  exact (((List.reverse_perm _).append_right _).trans served).nodup_iff.mpr (nodup_queue candidates)

theorem getElem?_names_iff (candidates : List Candidate) (position : Nat) (name : String) :
    (names candidates)[position]? = some name ↔ (position, name) ∈ (assigned candidates).given := by
  constructor
  · exact mem_given_of_names
  · intro given
    rcases spelled_of_mem_assigned given with ⟨candidate, found, _⟩
    rcases getElem?_names found with ⟨other, read, otherGiven⟩
    have same := List.inj_on_of_nodup_map (nodup_given candidates) given otherGiven rfl
    rw [read, (Prod.mk.inj same).2]

theorem given_of_names {position : Nat} {name : String}
    (read : (names candidates)[position]? = some name) :
    name ∈ bases candidates ∨ position ∈ (turns (positionGroups candidates)).map Prod.snd := by
  have given := mem_given_of_names read
  rcases exists_added (turns (positionGroups candidates)) (start candidates) with
    ⟨added, whole, _, positions⟩
  rw [assigned_eq, whole, List.mem_append] at given
  rcases given with number | bare
  · have served : position ∈ added.map Prod.fst := List.mem_map_of_mem number
    rw [positions, List.mem_reverse] at served
    exact Or.inr served
  · rcases (mem_bareNames_iff _ _).mp bare with ⟨members, member, _⟩
    exact Or.inl (List.mem_map_of_mem member)

/-- What is given by some turn is read in the end. -/
theorem names_of_given_before {before after : List (String × Nat)}
    (whole : turns (positionGroups candidates) = before ++ after) {position : Nat} {name : String}
    (given : (position, name) ∈ (before.foldl number (start candidates)).given) :
    (names candidates)[position]? = some name := by
  rw [getElem?_names_iff, assigned_eq, whole, List.foldl_append]
  exact mem_given_foldl given

/-- A name is in use when the turn of a position comes: it is an identifier, or it
was given in an earlier turn. -/
inductive InUse (candidates : List Candidate) (names : List String) (position : Nat)
    (name : String) : Prop where
  | identifier {candidate : Candidate} (member : candidate ∈ candidates)
      (same : candidate.base = name)
  | given {earlier : Nat} (turn : TakesTurnBefore candidates earlier position)
      (named : names[earlier]? = some name)

/-- When the turn of a position comes, the names taken are the ones in use. -/
theorem mem_taken_iff {before after : List (String × Nat)} {base : String} {position : Nat}
    (whole : turns (positionGroups candidates) = before ++ (base, position) :: after)
    (name : String) :
    name ∈ (before.foldl number (start candidates)).taken ↔
      InUse candidates (names candidates) position name := by
  have served : (before.map Prod.snd ++ position :: after.map Prod.snd).Pairwise
      (TakesTurnBefore candidates) := by
    have sorted := (pairwise_queue candidates).sublist (turns_sublist (positionGroups candidates))
    rw [whole, List.map_append, List.map_cons] at sorted
    exact sorted
  rcases exists_added before (start candidates) with ⟨added, given, taken, positions⟩
  have read : forall place other, (place, other) ∈ added ->
      (names candidates)[place]? = some other := by
    intro place other member
    apply names_of_given_before whole
    rw [given]
    exact List.mem_append_left _ member
  have numbered_iff : forall place, place ∈ added.map Prod.fst ↔ place ∈ before.map Prod.snd := by
    intro place
    rw [positions, List.mem_reverse]
  rw [taken, List.mem_append]
  constructor
  · rintro (number | bare)
    · rcases List.mem_map.mp number with ⟨⟨place, other⟩, member, same⟩
      have earlier := (numbered_iff place).mp (List.mem_map_of_mem member)
      rw [← same]
      have turn := (List.pairwise_append.mp served).2.2 place earlier position List.mem_cons_self
      exact .given turn (read place other member)
    · rcases (mem_bases_iff candidates name).mp bare with ⟨candidate, member, same⟩
      exact .identifier member same
  · rintro (⟨member, same⟩ | ⟨turn, named⟩)
    · exact Or.inr ((mem_bases_iff candidates name).mpr ⟨_, member, same⟩)
    · rename_i earlier
      rcases given_of_names named with bare | later
      · exact Or.inr bare
      · rw [whole, List.map_append, List.map_cons] at later
        have inFront := mem_before_of_turn served later turn
        rcases List.mem_map.mp ((numbered_iff earlier).mpr inFront) with ⟨entry, member, same⟩
        have again := read entry.1 entry.2 member
        rw [same, named] at again
        exact Or.inl (List.mem_map.mpr ⟨entry, member, (Option.some.inj again).symm⟩)

/-- A candidate that keeps its identifier is called by it. -/
theorem names_of_keepsBare {position : Nat} {candidate : Candidate}
    (found : candidates[position]? = some candidate)
    (keeps : KeepsBare candidates position candidate) :
    (names candidates)[position]? = some candidate.base := by
  have leads := (head?_membersOf_iff found).mpr keeps
  rw [getElem?_names_iff, assigned_eq]
  apply mem_given_foldl
  exact (mem_bareNames_iff _ _).mpr ⟨_, mem_positionGroups found, leads⟩

/-- Everyone else is served in a turn. -/
theorem mem_turns_of_not_keepsBare {position : Nat} {candidate : Candidate}
    (found : candidates[position]? = some candidate)
    (other : ¬ KeepsBare candidates position candidate) :
    (candidate.base, position) ∈ turns (positionGroups candidates) := by
  have inside := (mem_membersOf_iff candidates candidate.base position).mpr ⟨candidate, found, rfl⟩
  rw [← head?_membersOf_iff found] at other
  have later : position ∈ (membersOf candidates candidate.base).drop 1 := by
    cases whole : membersOf candidates candidate.base with
    | nil =>
        rw [whole] at inside
        cases inside
    | cons first others =>
        rw [whole] at inside other
        rcases List.mem_cons.mp inside with here | behind
        · exact absurd (congrArg some here.symm) other
        · exact behind
  exact List.mem_flatMap.mpr ⟨_, mem_positionGroups found, List.mem_map_of_mem later⟩

/-- Everyone else gets the least number, from two on, whose name is not in use. -/
theorem names_of_not_keepsBare {position : Nat} {candidate : Candidate}
    (found : candidates[position]? = some candidate)
    (other : ¬ KeepsBare candidates position candidate) :
    Exists fun ordinal =>
      (names candidates)[position]? = some (numbered candidate.base ordinal) ∧
        IsLeast { tried | 2 <= tried ∧
          ¬ InUse candidates (names candidates) position (numbered candidate.base tried) }
          ordinal := by
  rcases List.append_of_mem (mem_turns_of_not_keepsBare found other) with ⟨before, after, whole⟩
  refine ⟨leastFree candidate.base (before.foldl number (start candidates)).taken, ?_, ?_⟩
  · rw [getElem?_names_iff, assigned_eq, whole, List.foldl_append, List.foldl_cons]
    exact mem_given_foldl List.mem_cons_self
  · have least := isLeast_freeOrdinal candidate.base (before.foldl number (start candidates)).taken 2
    simp only [freeFrom, mem_taken_iff whole] at least
    exact least

/-- The names that candidates are to have: each group leaves its identifier to one
candidate, and the others are numbered in turn. -/
structure Allocated (candidates : List Candidate) (names : List String) : Prop where
  length : names.length = candidates.length
  distinct : names.Nodup
  bare : forall (position : Nat) (candidate : Candidate), candidates[position]? = some candidate ->
    KeepsBare candidates position candidate -> names[position]? = some candidate.base
  numbered : forall (position : Nat) (candidate : Candidate),
    candidates[position]? = some candidate -> ¬ KeepsBare candidates position candidate ->
      Exists fun ordinal => names[position]? = some (numbered candidate.base ordinal) ∧
        IsLeast { tried | 2 <= tried ∧
          ¬ InUse candidates names position (numbered candidate.base tried) } ordinal

theorem allocated_names (candidates : List Candidate) :
    Allocated candidates (names candidates) where
  length := length_names candidates
  distinct := by
    rw [List.nodup_iff_getElem?_ne_getElem?]
    intro first second before inside same
    have read := List.getElem?_eq_getElem inside
    exact Nat.ne_of_lt before (names_injective (same.trans read) read)
  bare := fun _ _ => names_of_keepsBare
  numbered := fun _ _ => names_of_not_keepsBare

/-- Names that agree in all earlier turns are in use together. -/
theorem InUse.of_agree {first second : List String} {position : Nat} {name : String}
    (agree : forall earlier, TakesTurnBefore candidates earlier position ->
      first[earlier]? = second[earlier]?)
    (inUse : InUse candidates first position name) : InUse candidates second position name := by
  cases inUse with
  | identifier member same => exact .identifier member same
  | given turn named => exact .given turn ((agree _ turn).symm.trans named)

/-- What happened in earlier turns decides the name of a position. -/
theorem Allocated.getElem?_eq {first second : List String}
    (firstAllocated : Allocated candidates first) (secondAllocated : Allocated candidates second)
    {position : Nat} {candidate : Candidate} (found : candidates[position]? = some candidate)
    (agree : forall earlier, TakesTurnBefore candidates earlier position ->
      first[earlier]? = second[earlier]?) : first[position]? = second[position]? := by
  by_cases keeps : KeepsBare candidates position candidate
  · rw [firstAllocated.bare position candidate found keeps,
      secondAllocated.bare position candidate found keeps]
  · rcases firstAllocated.numbered position candidate found keeps with ⟨ordinal, named, least⟩
    rcases secondAllocated.numbered position candidate found keeps with
      ⟨otherOrdinal, otherNamed, otherLeast⟩
    have same : forall name,
        InUse candidates first position name ↔ InUse candidates second position name :=
      fun _ => ⟨.of_agree agree, .of_agree fun earlier turn => (agree earlier turn).symm⟩
    simp only [same] at least
    rw [named, otherNamed, least.unique otherLeast]

/-- Nothing is left open: there is only one way to allocate names. -/
theorem Allocated.unique {first second : List String} (firstAllocated : Allocated candidates first)
    (secondAllocated : Allocated candidates second) : first = second := by
  -- The names agree position by position, in the order in which positions are served.
  have served : forall before after, queue candidates = before ++ after ->
      forall position, position ∈ before -> first[position]? = second[position]? := by
    intro before
    induction before using List.reverseRecOn with
    | nil =>
        intro after _ position impossible
        cases impossible
    | append_singleton before last ih =>
        intro after whole position member
        rw [List.append_assoc, List.singleton_append] at whole
        rcases List.mem_append.mp member with inFront | itself
        · exact ih (last :: after) whole position inFront
        · rw [List.mem_singleton.mp itself]
          have inside : last ∈ queue candidates :=
            whole ▸ List.mem_append_right before List.mem_cons_self
          rcases (mem_queue_iff candidates last).mp inside with ⟨candidate, found⟩
          apply firstAllocated.getElem?_eq secondAllocated found
          intro earlier turn
          have sorted := pairwise_queue candidates
          have there := (mem_queue_iff candidates earlier).mpr turn.exists_candidate
          rw [whole] at sorted there
          exact ih (last :: after) whole earlier (mem_before_of_turn sorted there turn)
  apply List.ext_getElem?
  intro position
  by_cases valid : position < candidates.length
  · apply served (queue candidates) [] (List.append_nil _).symm
    exact (mem_queue_iff candidates position).mpr ⟨_, List.getElem?_eq_getElem valid⟩
  · rw [List.getElem?_eq_none (firstAllocated.length ▸ Nat.le_of_not_lt valid),
      List.getElem?_eq_none (secondAllocated.length ▸ Nat.le_of_not_lt valid)]

example : names [⟨"card", false⟩, ⟨"card", true⟩, ⟨"card2", false⟩, ⟨"card", false⟩] =
    ["card3", "card", "card2", "card4"] := by decide

end Served
end Allocation

/-- The nodes of a document as far as their names are concerned. -/
def Document.candidates (document : Document) : List Allocation.Candidate :=
  document.nodes.map fun node => ⟨Identifier.base node, node.isComponent⟩

/-- The names of a document are allocated as they should be, and no search for a
number goes on forever. -/
theorem Document.ownNames_allocated (document : Document) :
    Allocation.Allocated document.candidates document.ownNames ∧
      forall base taken ordinal, Allocation.Searches base taken ordinal
        (Allocation.freeOrdinal base taken (taken.length + 1) ordinal) :=
  ⟨Allocation.allocated_names document.candidates, Allocation.searches_freeOrdinal⟩

end SceneMarkup
