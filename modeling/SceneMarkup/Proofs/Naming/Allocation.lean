import Mathlib.Data.List.Nodup
import Mathlib.Data.List.Perm.Subperm
import SceneMarkup.Naming.Identifier
import SceneMarkup.Proofs.OrderedMap

namespace SceneMarkup
namespace Allocation

/-!
# Allocated names are distinct

The search for an ordinal is bounded by the number of names in use.  The bound
loses nothing: one more try than there are names in use cannot fail every time,
because different ordinals write different names.

Whether two names collide is decided at the moment the second one is given, so
the invariant speaks of the assignment alone: every name given is in use, and no
two of them agree.  It holds of the bare identifiers because a group has its
identifier to itself, and it survives numbering because a number is only given
when its name is free.  That every node gets a name at all is a separate
question, answered by following each node into its group.
-/

/-! ## Ordinals -/

/-- An identifier with an ordinal tells which ordinal it is. -/
theorem numbered_injective (base : String) {first second : Nat}
    (same : numbered base first = numbered base second) : first = second := by
  have letters := congrArg String.toList same
  rw [numbered, numbered, String.toList_append, String.toList_append,
    List.append_cancel_left_eq] at letters
  rw [Number.digitString, Number.digitString, String.toList_ofList, String.toList_ofList] at letters
  have values := congrArg (Nat.ofDigitChars 10 · 0) letters
  simp only [Nat.ofDigitChars_ten_toDigits] at values
  exact values

/-- A search that ends at a name in use has found every name on its way in
use. -/
theorem numbered_mem_of_freeOrdinal_mem (base : String) (taken : List String) (tries : Nat) :
    forall ordinal, numbered base (freeOrdinal base taken tries ordinal) ∈ taken ->
      forall tried, ordinal <= tried -> tried < ordinal + tries -> numbered base tried ∈ taken := by
  induction tries with
  | zero =>
      intro ordinal _ tried lower upper
      omega
  | succ tries ih =>
      intro ordinal ends tried lower upper
      rw [freeOrdinal] at ends
      by_cases used : numbered base ordinal ∈ taken
      · rw [if_pos used] at ends
        by_cases here : tried = ordinal
        · rw [here]
          exact used
        · exact ih (ordinal + 1) ends tried (by omega) (by omega)
      · rw [if_neg used] at ends
        exact absurd ends used

/-- The search always ends at a free name: the names it tries are distinct, and
they are more than the names in use. -/
theorem numbered_freeOrdinal_not_mem (base : String) (taken : List String) (ordinal : Nat) :
    ¬ numbered base (freeOrdinal base taken (taken.length + 1) ordinal) ∈ taken := by
  intro ends
  have distinct : ((List.range' ordinal (taken.length + 1)).map (numbered base)).Nodup := by
    refine List.Pairwise.map _ ?_ (List.nodup_range' (s := ordinal) (n := taken.length + 1))
    intro first second different same
    exact different (numbered_injective base same)
  have used : (List.range' ordinal (taken.length + 1)).map (numbered base) ⊆ taken := by
    intro name member
    rcases List.mem_map.mp member with ⟨tried, inside, spelled⟩
    rw [List.mem_range'_1] at inside
    rw [← spelled]
    exact numbered_mem_of_freeOrdinal_mem base taken (taken.length + 1) ordinal ends tried
      inside.1 inside.2
  have bound := (List.subperm_of_subset distinct used).length_le
  rw [List.length_map, List.length_range'] at bound
  exact Nat.not_succ_le_self _ bound

theorem le_freeOrdinal (base : String) (taken : List String) (tries : Nat) :
    forall ordinal, ordinal <= freeOrdinal base taken tries ordinal := by
  induction tries with
  | zero => exact Nat.le_refl
  | succ tries ih =>
      intro ordinal
      rw [freeOrdinal]
      split
      · exact Nat.le_of_succ_le (ih (ordinal + 1))
      · exact Nat.le_refl _

/-! ## Groups -/

/-- The members that the group of an identifier gains from candidates numbered
from a position on. -/
def membersFrom (base : String) : Nat -> List Candidate -> List Member
  | _, [] => []
  | position, candidate :: rest =>
      if candidate.base = base then
        ⟨position, candidate.isComponent⟩ :: membersFrom base (position + 1) rest
      else membersFrom base (position + 1) rest

theorem lookup_groupsFrom (base : String) (candidates : List Candidate) :
    forall position groups,
      ((groupsFrom position groups candidates).lookup base).getD [] =
        (groups.lookup base).getD [] ++ membersFrom base position candidates := by
  induction candidates with
  | nil =>
      intro position groups
      rw [groupsFrom, membersFrom, List.append_nil]
  | cons candidate rest ih =>
      intro position groups
      rw [groupsFrom, ih, membersFrom, addMember, lookup_insertEntry]
      by_cases same : base = candidate.base
      · rw [if_pos same, if_pos same.symm, same, Option.getD_some, List.append_assoc,
          List.singleton_append]
      · rw [if_neg same, if_neg (Ne.symm same)]

/-- Every identifier has one group. -/
theorem nodup_groupsFrom (candidates : List Candidate) :
    forall position (groups : List (String × List Member)), (groups.map Prod.fst).Nodup ->
      ((groupsFrom position groups candidates).map Prod.fst).Nodup := by
  induction candidates with
  | nil =>
      intro position groups distinct
      exact distinct
  | cons candidate rest ih =>
      intro position groups distinct
      exact ih (position + 1) _ (nodup_insertEntry _ _ distinct)

/-- The members of a group are the candidates with its identifier, at their
positions. -/
theorem mem_membersFrom_iff (base : String) (member : Member) (candidates : List Candidate) :
    forall position, member ∈ membersFrom base position candidates ↔
      position <= member.position ∧
        candidates[member.position - position]? = some ⟨base, member.isComponent⟩ := by
  induction candidates with
  | nil =>
      intro position
      rw [membersFrom]
      constructor
      · intro impossible
        cases impossible
      · rintro ⟨_, impossible⟩
        cases impossible
  | cons candidate rest ih =>
      intro position
      -- Either the member is the first candidate, or it is counted from the next one on.
      have later : position + 1 <= member.position ->
          (candidate :: rest)[member.position - position]? =
            rest[member.position - (position + 1)]? := by
        intro behind
        have place : member.position - position = member.position - (position + 1) + 1 := by omega
        rw [place, List.getElem?_cons_succ]
      have tail : member ∈ membersFrom base (position + 1) rest ↔
          position + 1 <= member.position ∧
            (candidate :: rest)[member.position - position]? =
              some ⟨base, member.isComponent⟩ := by
        rw [ih (position + 1)]
        constructor
        · rintro ⟨behind, found⟩
          exact ⟨behind, (later behind).trans found⟩
        · rintro ⟨behind, found⟩
          exact ⟨behind, (later behind).symm.trans found⟩
      have head : member.position = position ->
          (candidate :: rest)[member.position - position]? = some candidate := by
        intro here
        rw [here, Nat.sub_self, List.getElem?_cons_zero]
      rw [membersFrom]
      by_cases same : candidate.base = base
      · rw [if_pos same, List.mem_cons, tail]
        constructor
        · rintro (first | ⟨behind, found⟩)
          · rw [first] at head ⊢
            refine ⟨Nat.le_refl _, (head rfl).trans ?_⟩
            rw [← same]
          · exact ⟨Nat.le_of_succ_le behind, found⟩
        · rintro ⟨lower, found⟩
          by_cases here : member.position = position
          · rw [head here] at found
            have equal := Option.some.inj found
            left
            rw [equal, ← here]
          · exact Or.inr ⟨by omega, found⟩
      · rw [if_neg same, tail]
        constructor
        · rintro ⟨behind, found⟩
          exact ⟨Nat.le_of_succ_le behind, found⟩
        · rintro ⟨lower, found⟩
          refine ⟨Nat.lt_of_le_of_ne lower ?_, found⟩
          intro here
          rw [head here.symm] at found
          exact same (congrArg Candidate.base (Option.some.inj found))

theorem mem_componentsFirst_iff (members : List Member) (position : Nat) :
    position ∈ componentsFirst members ↔
      Exists fun isComponent => (⟨position, isComponent⟩ : Member) ∈ members := by
  rw [componentsFirst, List.mem_map]
  constructor
  · rintro ⟨⟨place, isComponent⟩, member, same⟩
    subst same
    rcases List.mem_append.mp member with found | found
    · exact ⟨isComponent, (List.mem_filter.mp found).1⟩
    · exact ⟨isComponent, (List.mem_filter.mp found).1⟩
  · rintro ⟨isComponent, member⟩
    refine ⟨⟨position, isComponent⟩, List.mem_append.mpr ?_, rfl⟩
    cases isComponent with
    | true => exact Or.inl (List.mem_filter.mpr ⟨member, rfl⟩)
    | false => exact Or.inr (List.mem_filter.mpr ⟨member, rfl⟩)

/-! ## Assignments -/

/-- Every name given is in use, and no two of them agree. -/
structure Assignment.Distinct (assignment : Assignment) : Prop where
  distinct : (assignment.given.map Prod.snd).Nodup
  used : forall name, name ∈ assignment.given.map Prod.snd -> name ∈ assignment.taken

/-- Giving a free name keeps names distinct. -/
theorem Assignment.Distinct.give {assignment : Assignment} (sound : assignment.Distinct)
    (position : Nat) {name : String} (free : ¬ name ∈ assignment.taken) :
    Assignment.Distinct ⟨(position, name) :: assignment.given, name :: assignment.taken⟩ where
  distinct := by
    rw [List.map_cons, List.nodup_cons]
    exact ⟨fun given => free (sound.used name given), sound.distinct⟩
  used := by
    intro other given
    rcases List.mem_cons.mp given with same | earlier
    · exact List.mem_cons.mpr (Or.inl same)
    · exact List.mem_cons_of_mem _ (sound.used other earlier)

theorem numberMembers_distinct (base : String) (positions : List Nat) :
    forall ordinal {assignment : Assignment}, assignment.Distinct ->
      (numberMembers base ordinal positions assignment).Distinct := by
  induction positions with
  | nil =>
      intro ordinal assignment sound
      exact sound
  | cons position rest ih =>
      intro ordinal assignment sound
      have free := numbered_freeOrdinal_not_mem base assignment.taken ordinal
      exact ih _ (sound.give position free)

theorem numberGroups_distinct (groups : List (String × List Nat)) :
    forall {assignment : Assignment}, assignment.Distinct ->
      (numberGroups groups assignment).Distinct := by
  induction groups with
  | nil =>
      intro assignment sound
      exact sound
  | cons group rest ih =>
      intro assignment sound
      exact ih (numberMembers_distinct group.1 (group.2.drop 1) 2 sound)

theorem map_snd_bareNames_sublist (groups : List (String × List Nat)) :
    ((bareNames groups).map Prod.snd).Sublist (groups.map Prod.fst) := by
  induction groups with
  | nil => exact List.Sublist.refl _
  | cons group rest ih =>
      rcases group with ⟨base, positions⟩
      cases positions with
      | nil => exact List.Sublist.cons _ ih
      | cons position others => exact List.Sublist.cons_cons _ ih

/-- The bare identifiers are distinct because the groups are. -/
theorem bareNames_distinct {groups : List (String × List Nat)}
    (distinct : (groups.map Prod.fst).Nodup) :
    Assignment.Distinct ⟨bareNames groups, groups.map Prod.fst⟩ where
  distinct := List.Sublist.nodup (map_snd_bareNames_sublist groups) distinct
  used := fun _ given => (map_snd_bareNames_sublist groups).subset given

/-! ## What is given, and to whom -/

theorem mem_given_numberMembers (base : String) (positions : List Nat) :
    forall ordinal (assignment : Assignment) entry,
      entry ∈ (numberMembers base ordinal positions assignment).given ->
        entry ∈ assignment.given ∨ (entry.1 ∈ positions ∧
          Exists fun free => ordinal <= free ∧ entry.2 = numbered base free) := by
  induction positions with
  | nil =>
      intro ordinal assignment entry given
      exact Or.inl given
  | cons position rest ih =>
      intro ordinal assignment entry given
      rw [numberMembers] at given
      have start := le_freeOrdinal base assignment.taken (assignment.taken.length + 1) ordinal
      rcases ih _ _ entry given with earlier | ⟨member, free, lower, spelled⟩
      · rcases List.mem_cons.mp earlier with here | before
        · exact Or.inr ⟨here ▸ List.mem_cons_self, _, start, here ▸ rfl⟩
        · exact Or.inl before
      · exact Or.inr ⟨List.mem_cons_of_mem _ member, free, by omega, spelled⟩

theorem mem_given_numberGroups (groups : List (String × List Nat)) :
    forall (assignment : Assignment) entry, entry ∈ (numberGroups groups assignment).given ->
      entry ∈ assignment.given ∨ Exists fun group => group ∈ groups ∧ entry.1 ∈ group.2 ∧
        Exists fun ordinal => 2 <= ordinal ∧ entry.2 = numbered group.1 ordinal := by
  induction groups with
  | nil =>
      intro assignment entry given
      exact Or.inl given
  | cons group rest ih =>
      intro assignment entry given
      rcases ih _ entry given with earlier | ⟨other, member, spelled⟩
      · rcases mem_given_numberMembers _ _ _ _ entry earlier with before | ⟨inside, spelled⟩
        · exact Or.inl before
        · exact Or.inr ⟨group, List.mem_cons_self, List.mem_of_mem_drop inside, spelled⟩
      · exact Or.inr ⟨other, List.mem_cons_of_mem _ member, spelled⟩

theorem position_mem_numberMembers (base : String) (position : Nat) (positions : List Nat) :
    forall ordinal (assignment : Assignment),
      position ∈ positions ∨ position ∈ assignment.given.map Prod.fst ->
        position ∈ (numberMembers base ordinal positions assignment).given.map Prod.fst := by
  induction positions with
  | nil =>
      rintro ordinal assignment (impossible | before)
      · cases impossible
      · exact before
  | cons first rest ih =>
      intro ordinal assignment served
      rw [numberMembers]
      apply ih
      rw [List.map_cons, List.mem_cons]
      rcases served with member | before
      · rcases List.mem_cons.mp member with here | later
        · exact Or.inr (Or.inl here)
        · exact Or.inl later
      · exact Or.inr (Or.inr before)

theorem position_mem_numberGroups (position : Nat) (groups : List (String × List Nat)) :
    forall assignment : Assignment,
      (Exists fun group => group ∈ groups ∧ position ∈ group.2.drop 1) ∨
          position ∈ assignment.given.map Prod.fst ->
        position ∈ (numberGroups groups assignment).given.map Prod.fst := by
  induction groups with
  | nil =>
      rintro assignment (⟨_, impossible, _⟩ | before)
      · cases impossible
      · exact before
  | cons first rest ih =>
      intro assignment served
      rw [numberGroups]
      apply ih
      rcases served with ⟨group, member, inside⟩ | before
      · rcases List.mem_cons.mp member with here | later
        · exact Or.inr (position_mem_numberMembers _ _ _ _ _ (Or.inl (here ▸ inside)))
        · exact Or.inl ⟨group, later, inside⟩
      · exact Or.inr (position_mem_numberMembers _ _ _ _ _ (Or.inr before))

theorem mem_bareNames_iff (groups : List (String × List Nat)) (entry : Nat × String) :
    entry ∈ bareNames groups ↔
      Exists fun positions => (entry.2, positions) ∈ groups ∧ positions.head? = some entry.1 := by
  rw [bareNames, List.mem_filterMap]
  constructor
  · rintro ⟨⟨base, positions⟩, member, first⟩
    rcases Option.map_eq_some_iff.mp first with ⟨position, head, same⟩
    subst same
    exact ⟨positions, member, head⟩
  · rintro ⟨positions, member, head⟩
    exact ⟨_, member, Option.map_eq_some_iff.mpr ⟨entry.1, head, rfl⟩⟩

/-! ## The names of all candidates -/

/-- The positions of every group, the one that keeps the bare identifier first. -/
def positionGroups (candidates : List Candidate) : List (String × List Nat) :=
  (groupsFrom 0 [] candidates).map fun group => (group.1, componentsFirst group.2)

/-- The assignment from which the names of all candidates are read. -/
def assigned (candidates : List Candidate) : Assignment :=
  numberGroups (positionGroups candidates)
    ⟨bareNames (positionGroups candidates), (positionGroups candidates).map Prod.fst⟩

theorem nodup_positionGroups (candidates : List Candidate) :
    ((positionGroups candidates).map Prod.fst).Nodup := by
  have bases : (positionGroups candidates).map Prod.fst =
      (groupsFrom 0 [] candidates).map Prod.fst := by
    rw [positionGroups, List.map_map]
    rfl
  rw [bases]
  exact nodup_groupsFrom candidates 0 [] List.nodup_nil

theorem assigned_distinct (candidates : List Candidate) : (assigned candidates).Distinct :=
  numberGroups_distinct _ (bareNames_distinct (nodup_positionGroups candidates))

theorem lookup_positionGroups (candidates : List Candidate) (base : String) :
    ((positionGroups candidates).lookup base).getD [] =
      componentsFirst (membersFrom base 0 candidates) := by
  have members := lookup_groupsFrom base candidates 0 []
  rw [List.lookup_nil, Option.getD_none, List.nil_append] at members
  rw [positionGroups, lookup_map_values, ← members]
  cases (groupsFrom 0 [] candidates).lookup base with
  | none => rfl
  | some group => rfl

/-- A group holds the positions of the candidates with its identifier. -/
theorem mem_group_iff (candidates : List Candidate) (base : String) (position : Nat) :
    position ∈ ((positionGroups candidates).lookup base).getD [] ↔
      Exists fun candidate => candidates[position]? = some candidate ∧ candidate.base = base := by
  rw [lookup_positionGroups, mem_componentsFirst_iff]
  constructor
  · rintro ⟨isComponent, member⟩
    exact ⟨_, ((mem_membersFrom_iff _ _ _ _).mp member).2, rfl⟩
  · rintro ⟨⟨own, isComponent⟩, found, same⟩
    subst same
    exact ⟨isComponent, (mem_membersFrom_iff _ _ _ _).mpr ⟨Nat.zero_le _, found⟩⟩

/-- Every candidate is given a name. -/
theorem position_mem_assigned {candidates : List Candidate} {position : Nat}
    {candidate : Candidate} (found : candidates[position]? = some candidate) :
    position ∈ (assigned candidates).given.map Prod.fst := by
  have inside := (mem_group_iff candidates candidate.base position).mpr ⟨candidate, found, rfl⟩
  cases group : (positionGroups candidates).lookup candidate.base with
  | none =>
      rw [group] at inside
      cases inside
  | some positions =>
      rw [group, Option.getD_some] at inside
      have member :=
        (lookup_eq_some_iff_mem (nodup_positionGroups candidates) _ _).mp group
      apply position_mem_numberGroups
      cases positions with
      | nil => cases inside
      | cons first others =>
          rcases List.mem_cons.mp inside with here | later
          · have bare := (mem_bareNames_iff (positionGroups candidates)
              (position, candidate.base)).mpr ⟨_, member, here ▸ rfl⟩
            exact Or.inr (List.mem_map.mpr ⟨_, bare, rfl⟩)
          · exact Or.inl ⟨_, member, later⟩

/-- A name that is given is the identifier of its candidate, alone or with an
ordinal. -/
theorem spelled_of_mem_assigned {candidates : List Candidate} {position : Nat} {name : String}
    (given : (position, name) ∈ (assigned candidates).given) :
    Exists fun candidate => candidates[position]? = some candidate ∧
      (name = candidate.base ∨ Exists fun ordinal => name = numbered candidate.base ordinal) := by
  -- Whatever group a position stands in, its candidate has the identifier of that group.
  have owner : forall base positions, (base, positions) ∈ positionGroups candidates ->
      position ∈ positions ->
        Exists fun candidate => candidates[position]? = some candidate ∧ candidate.base = base := by
    intro base positions member inside
    have group := (lookup_eq_some_iff_mem (nodup_positionGroups candidates) _ _).mpr member
    apply (mem_group_iff candidates base position).mp
    rw [group]
    exact inside
  rcases mem_given_numberGroups _ _ _ given with bare | ⟨group, member, inside, ordinal, _, spelled⟩
  · rcases (mem_bareNames_iff _ _).mp bare with ⟨positions, member, head⟩
    rcases owner _ positions member (List.mem_of_mem_head? head) with ⟨candidate, found, same⟩
    exact ⟨candidate, found, Or.inl same.symm⟩
  · rcases owner group.1 group.2 member inside with ⟨candidate, found, same⟩
    exact ⟨candidate, found, Or.inr ⟨ordinal, same ▸ spelled⟩⟩

theorem length_names (candidates : List Candidate) :
    (names candidates).length = candidates.length := by
  rw [names, List.length_map, List.length_range]

theorem getElem?_names {candidates : List Candidate} {position : Nat} {candidate : Candidate}
    (found : candidates[position]? = some candidate) :
    Exists fun name => (names candidates)[position]? = some name ∧
      (position, name) ∈ (assigned candidates).given := by
  have inside : position < candidates.length := (List.getElem?_eq_some_iff.mp found).1
  rcases List.mem_map.mp (position_mem_assigned found) with ⟨entry, member, same⟩
  have served : ((assigned candidates).given.lookup position).isSome = true := by
    rw [List.lookup_isSome_iff]
    exact ⟨entry, member, by rw [same, beq_self_eq_true]⟩
  rcases Option.isSome_iff_exists.mp served with ⟨name, looked⟩
  refine ⟨name, ?_, ?_⟩
  · have read : (names candidates)[position]? =
        some (((assigned candidates).given.lookup position).getD "") := by
      rw [names, List.getElem?_map, List.getElem?_range inside]
      rfl
    rw [read, looked, Option.getD_some]
  · rcases List.lookup_eq_some_iff.mp looked with ⟨before, after, whole, _⟩
    rw [whole]
    exact List.mem_append_right _ List.mem_cons_self

/-- Every name that is read was given. -/
theorem mem_given_of_names {candidates : List Candidate} {position : Nat} {name : String}
    (read : (names candidates)[position]? = some name) :
    (position, name) ∈ (assigned candidates).given := by
  have inside := (List.getElem?_eq_some_iff.mp read).1
  rw [length_names] at inside
  rcases getElem?_names (List.getElem?_eq_getElem inside) with ⟨other, spelled, member⟩
  rw [read] at spelled
  rw [Option.some.inj spelled]
  exact member

/-- Positions with one name are one position. -/
theorem names_injective {candidates : List Candidate} {first second : Nat} {name : String}
    (firstName : (names candidates)[first]? = some name)
    (secondName : (names candidates)[second]? = some name) : first = second := by
  have distinct := (assigned_distinct candidates).distinct
  have same := List.inj_on_of_nodup_map distinct (mem_given_of_names firstName)
    (mem_given_of_names secondName) rfl
  exact congrArg Prod.fst same

end Allocation
end SceneMarkup
