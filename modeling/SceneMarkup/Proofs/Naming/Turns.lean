import Mathlib.Data.List.Induction
import Mathlib.Data.List.Nodup
import SceneMarkup.Proofs.Naming.Allocation

namespace SceneMarkup
namespace Allocation

/-!
# Whose turn it is

Names are given one after another, and a name that was given is not given again, so
the order matters.  Groups are served in the order in which their identifiers first
appear in the document, components before the other members of a group, and
otherwise whoever stands first.

The order is stated for positions of candidates, without mention of groups.  The
list in which names are really given is then shown to be sorted by it.
-/

variable {candidates : List Candidate}

/-- An identifier is in use before another one first appears. -/
def AppearsBefore (candidates : List Candidate) (base other : String) : Prop :=
  Exists fun position : Nat => Exists fun candidate : Candidate =>
    candidates[position]? = some candidate ∧ candidate.base = base ∧
      forall (place : Nat) (later : Candidate), candidates[place]? = some later ->
        later.base = other -> position < place

/-- The candidate at one position is served before the candidate at another. -/
inductive TakesTurnBefore (candidates : List Candidate) (first second : Nat) : Prop where
  | earlierGroup {candidate other : Candidate} (found : candidates[first]? = some candidate)
      (otherFound : candidates[second]? = some other)
      (appears : AppearsBefore candidates candidate.base other.base)
  | component {candidate other : Candidate} (found : candidates[first]? = some candidate)
      (otherFound : candidates[second]? = some other) (same : candidate.base = other.base)
      (isComponent : candidate.isComponent = true) (isOther : other.isComponent = false)
  | position {candidate other : Candidate} (found : candidates[first]? = some candidate)
      (otherFound : candidates[second]? = some other) (same : candidate.base = other.base)
      (alike : candidate.isComponent = other.isComponent) (earlier : first < second)

/-- A candidate keeps its identifier as it is if it is the first component with this
identifier, or the first candidate at all where no component has it. -/
inductive KeepsBare (candidates : List Candidate) (position : Nat) (candidate : Candidate) :
    Prop where
  | firstComponent (isComponent : candidate.isComponent = true)
      (first : forall (place : Nat) (other : Candidate), candidates[place]? = some other ->
        other.base = candidate.base -> other.isComponent = true -> position <= place)
  | firstMember
      (first : forall (place : Nat) (other : Candidate), candidates[place]? = some other ->
        other.base = candidate.base -> other.isComponent = false ∧ position <= place)

/-! ## An order -/

theorem AppearsBefore.irrefl (base : String) : ¬ AppearsBefore candidates base base := by
  rintro ⟨position, candidate, found, same, before⟩
  exact Nat.lt_irrefl position (before position candidate found same)

theorem AppearsBefore.asymm {base other : String} (first : AppearsBefore candidates base other)
    (second : AppearsBefore candidates other base) : False := by
  rcases first with ⟨position, candidate, found, same, before⟩
  rcases second with ⟨place, later, laterFound, laterSame, behind⟩
  have forth := before place later laterFound laterSame
  have back := behind position candidate found same
  omega

/-- No criterion puts two candidates in both orders, and neither do two different
ones. -/
theorem TakesTurnBefore.asymm {first second : Nat}
    (forth : TakesTurnBefore candidates first second)
    (back : TakesTurnBefore candidates second first) : False := by
  cases forth <;> cases back <;> grind [AppearsBefore.irrefl, AppearsBefore.asymm]

theorem TakesTurnBefore.exists_candidate {first second : Nat}
    (turn : TakesTurnBefore candidates first second) :
    Exists fun candidate => candidates[first]? = some candidate := by
  cases turn with
  | earlierGroup found => exact ⟨_, found⟩
  | component found => exact ⟨_, found⟩
  | position found => exact ⟨_, found⟩

/-- Between candidates with one identifier, components come first and positions
decide the rest. -/
theorem TakesTurnBefore.within_group {first second : Nat} {candidate other : Candidate}
    (turn : TakesTurnBefore candidates first second)
    (found : candidates[first]? = some candidate) (otherFound : candidates[second]? = some other)
    (same : candidate.base = other.base) :
    candidate.isComponent = true ∧ other.isComponent = false ∨
      candidate.isComponent = other.isComponent ∧ first < second := by
  cases turn with
  | earlierGroup foundAgain otherAgain appears =>
      cases Option.some.inj (found.symm.trans foundAgain)
      cases Option.some.inj (otherFound.symm.trans otherAgain)
      rw [same] at appears
      exact absurd appears (AppearsBefore.irrefl _)
  | component foundAgain otherAgain _ isComponent isOther =>
      cases Option.some.inj (found.symm.trans foundAgain)
      cases Option.some.inj (otherFound.symm.trans otherAgain)
      exact Or.inl ⟨isComponent, isOther⟩
  | position foundAgain otherAgain _ alike earlier =>
      cases Option.some.inj (found.symm.trans foundAgain)
      cases Option.some.inj (otherFound.symm.trans otherAgain)
      exact Or.inr ⟨alike, earlier⟩

/-! ## The order of the groups -/

theorem groupsFrom_concat (last : Candidate) (candidates : List Candidate) :
    forall position groups, groupsFrom position groups (candidates ++ [last]) =
      addMember (groupsFrom position groups candidates) last.base
        ⟨position + candidates.length, last.isComponent⟩ := by
  induction candidates with
  | nil =>
      intro position groups
      rfl
  | cons candidate rest ih =>
      intro position groups
      rw [List.cons_append, groupsFrom, ih, groupsFrom, List.length_cons]
      rw [Nat.add_assoc, Nat.add_comm 1]

/-- The identifiers of all groups. -/
def bases (candidates : List Candidate) : List String :=
  (positionGroups candidates).map Prod.fst

theorem bases_eq (candidates : List Candidate) :
    bases candidates = (groupsFrom 0 [] candidates).map Prod.fst := by
  rw [bases, positionGroups, List.map_map]
  rfl

/-- One more candidate adds its identifier at the end, unless it is there. -/
theorem bases_concat (candidates : List Candidate) (last : Candidate) :
    bases (candidates ++ [last]) =
      if last.base ∈ bases candidates then bases candidates
      else bases candidates ++ [last.base] := by
  rw [bases_eq, groupsFrom_concat, addMember, names_insertEntry, ← bases_eq]

theorem mem_bases_iff (candidates : List Candidate) (base : String) :
    base ∈ bases candidates ↔
      Exists fun candidate : Candidate => candidate ∈ candidates ∧ candidate.base = base := by
  induction candidates using List.reverseRecOn with
  | nil => simp [bases_eq, groupsFrom]
  | append_singleton candidates last ih =>
      have grown : base ∈ bases (candidates ++ [last]) ↔
          base ∈ bases candidates ∨ last.base = base := by
        rw [bases_concat]
        split
        · rename_i there
          constructor
          · exact Or.inl
          · rintro (before | same)
            · exact before
            · exact same ▸ there
        · rw [List.mem_append, List.mem_singleton, eq_comm]
      rw [grown, ih]
      constructor
      · rintro (⟨candidate, member, same⟩ | same)
        · exact ⟨candidate, List.mem_append_left _ member, same⟩
        · exact ⟨last, List.mem_append_right _ List.mem_cons_self, same⟩
      · rintro ⟨candidate, member, same⟩
        rcases List.mem_append.mp member with before | itself
        · exact Or.inl ⟨candidate, before, same⟩
        · rw [List.mem_singleton.mp itself] at same
          exact Or.inr same

/-- More candidates at the end change nothing about identifiers that are in use
before. -/
theorem AppearsBefore.concat {base other : String} (last : Candidate)
    (appears : AppearsBefore candidates base other) :
    AppearsBefore (candidates ++ [last]) base other := by
  rcases appears with ⟨position, candidate, found, same, before⟩
  have inside := (List.getElem?_eq_some_iff.mp found).1
  refine ⟨position, candidate, (List.getElem?_append_left inside).trans found, same, ?_⟩
  intro place later laterFound laterSame
  by_cases old : place < candidates.length
  · rw [List.getElem?_append_left old] at laterFound
    exact before place later laterFound laterSame
  · omega

/-- Groups stand in the order in which their identifiers first appear. -/
theorem pairwise_bases (candidates : List Candidate) :
    (bases candidates).Pairwise (AppearsBefore candidates) := by
  induction candidates using List.reverseRecOn with
  | nil => exact List.Pairwise.nil
  | append_singleton candidates last ih =>
      have old := ih.imp fun appears => AppearsBefore.concat last appears
      rw [bases_concat]
      split
      · exact old
      · rename_i new
        rw [List.pairwise_append]
        refine ⟨old, List.pairwise_singleton _ _, ?_⟩
        intro base used other itself
        rw [List.mem_singleton.mp itself]
        rcases (mem_bases_iff candidates base).mp used with ⟨candidate, member, same⟩
        rcases List.getElem?_of_mem member with ⟨position, found⟩
        have inside := (List.getElem?_eq_some_iff.mp found).1
        refine ⟨position, candidate, (List.getElem?_append_left inside).trans found, same, ?_⟩
        -- The new identifier is at no old position.
        intro place later laterFound laterSame
        by_contra notBehind
        rw [List.getElem?_append_left (by omega)] at laterFound
        exact new ((mem_bases_iff candidates last.base).mpr
          ⟨later, List.mem_of_getElem? laterFound, laterSame⟩)

/-! ## The order within a group -/

theorem pairwise_membersFrom (base : String) (candidates : List Candidate) :
    forall position, (membersFrom base position candidates).Pairwise
      fun first second => first.position < second.position := by
  induction candidates with
  | nil =>
      intro position
      exact List.Pairwise.nil
  | cons candidate rest ih =>
      intro position
      rw [membersFrom]
      split
      · rw [List.pairwise_cons]
        refine ⟨?_, ih (position + 1)⟩
        intro member later
        exact ((mem_membersFrom_iff _ _ _ _).mp later).1
      · exact ih (position + 1)

/-- The positions with an identifier, in the order in which they are served. -/
def membersOf (candidates : List Candidate) (base : String) : List Nat :=
  componentsFirst (membersFrom base 0 candidates)

theorem eq_membersOf_of_mem {base : String} {positions : List Nat}
    (member : (base, positions) ∈ positionGroups candidates) :
    positions = membersOf candidates base := by
  have found := (lookup_eq_some_iff_mem (nodup_positionGroups candidates) _ _).mpr member
  rw [membersOf, ← lookup_positionGroups, found, Option.getD_some]

theorem mem_membersOf_iff (candidates : List Candidate) (base : String) (position : Nat) :
    position ∈ membersOf candidates base ↔
      Exists fun candidate => candidates[position]? = some candidate ∧ candidate.base = base := by
  rw [membersOf, ← lookup_positionGroups, mem_group_iff]

/-- The identifier of a candidate has its group. -/
theorem mem_positionGroups {position : Nat} {candidate : Candidate}
    (found : candidates[position]? = some candidate) :
    (candidate.base, membersOf candidates candidate.base) ∈ positionGroups candidates := by
  have used := (mem_bases_iff candidates candidate.base).mpr
    ⟨candidate, List.mem_of_getElem? found, rfl⟩
  rcases List.mem_map.mp used with ⟨⟨base, positions⟩, member, same⟩
  dsimp only at same
  subst same
  exact eq_membersOf_of_mem member ▸ member

theorem pairwise_membersOf (candidates : List Candidate) (base : String) :
    (membersOf candidates base).Pairwise (TakesTurnBefore candidates) := by
  have found : forall member, member ∈ membersFrom base 0 candidates ->
      candidates[member.position]? = some ⟨base, member.isComponent⟩ := by
    intro member inside
    exact ((mem_membersFrom_iff _ _ _ _).mp inside).2
  have sorted := pairwise_membersFrom base candidates 0
  -- Among candidates of one kind, the positions decide.
  have alike : forall kind : Member -> Bool,
      (forall first second, kind first = true -> kind second = true ->
        first.isComponent = second.isComponent) ->
      ((membersFrom base 0 candidates).filter kind).Pairwise fun first second =>
        TakesTurnBefore candidates first.position second.position := by
    intro kind same
    apply (sorted.filter kind).imp_of_mem
    intro first second firstIn secondIn earlier
    rcases List.mem_filter.mp firstIn with ⟨firstMember, firstKind⟩
    rcases List.mem_filter.mp secondIn with ⟨secondMember, secondKind⟩
    exact .position (found first firstMember) (found second secondMember) rfl
      (same first second firstKind secondKind) earlier
  rw [membersOf, componentsFirst, List.pairwise_map, List.pairwise_append]
  refine ⟨alike _ ?_, alike _ ?_, ?_⟩
  · intro first second firstKind secondKind
    rw [firstKind, secondKind]
  · intro first second firstKind secondKind
    simp only [Bool.not_eq_true'] at firstKind secondKind
    rw [firstKind, secondKind]
  · intro first firstIn second secondIn
    rcases List.mem_filter.mp firstIn with ⟨firstMember, firstKind⟩
    rcases List.mem_filter.mp secondIn with ⟨secondMember, secondKind⟩
    simp only [Bool.not_eq_true'] at secondKind
    exact .component (found first firstMember) (found second secondMember) rfl firstKind secondKind

/-! ## The order of all candidates -/

/-- All positions in the order in which they are served. -/
def queue (candidates : List Candidate) : List Nat :=
  (positionGroups candidates).flatMap Prod.snd

theorem pairwise_queue (candidates : List Candidate) :
    (queue candidates).Pairwise (TakesTurnBefore candidates) := by
  rw [queue, List.pairwise_flatMap]
  constructor
  · rintro ⟨base, positions⟩ member
    rw [eq_membersOf_of_mem member]
    exact pairwise_membersOf candidates base
  · have sorted := pairwise_bases candidates
    rw [bases, List.pairwise_map] at sorted
    apply sorted.imp_of_mem
    rintro ⟨base, positions⟩ ⟨other, others⟩ member otherMember appears
    intro first firstIn second secondIn
    rw [eq_membersOf_of_mem member, mem_membersOf_iff] at firstIn
    rw [eq_membersOf_of_mem otherMember, mem_membersOf_iff] at secondIn
    rcases firstIn with ⟨candidate, found, same⟩
    rcases secondIn with ⟨later, laterFound, laterSame⟩
    rw [← same, ← laterSame] at appears
    exact .earlierGroup found laterFound appears

theorem nodup_queue (candidates : List Candidate) : (queue candidates).Nodup := by
  refine (pairwise_queue candidates).imp ?_
  intro first second before same
  rw [same] at before
  exact before.asymm before

theorem mem_queue_iff (candidates : List Candidate) (position : Nat) :
    position ∈ queue candidates ↔
      Exists fun candidate => candidates[position]? = some candidate := by
  rw [queue, List.mem_flatMap]
  constructor
  · rintro ⟨⟨base, positions⟩, member, inside⟩
    rw [eq_membersOf_of_mem member, mem_membersOf_iff] at inside
    rcases inside with ⟨candidate, found, _⟩
    exact ⟨candidate, found⟩
  · rintro ⟨candidate, found⟩
    refine ⟨_, mem_positionGroups found, ?_⟩
    exact (mem_membersOf_iff candidates candidate.base position).mpr ⟨candidate, found, rfl⟩

/-- In a list that is sorted by turns, whoever is served before a position stands in
front of it. -/
theorem mem_before_of_turn {before after : List Nat} {position earlier : Nat}
    (sorted : (before ++ position :: after).Pairwise (TakesTurnBefore candidates))
    (member : earlier ∈ before ++ position :: after)
    (turn : TakesTurnBefore candidates earlier position) : earlier ∈ before := by
  rw [List.pairwise_append, List.pairwise_cons] at sorted
  rw [List.mem_append, List.mem_cons] at member
  rcases member with inFront | itself | behind
  · exact inFront
  · rw [itself] at turn
    exact absurd turn turn.asymm
  · exact absurd (sorted.2.1.1 earlier behind) turn.asymm

/-- The first of a group is the one that keeps the identifier. -/
theorem head?_membersOf_iff {position : Nat} {candidate : Candidate}
    (found : candidates[position]? = some candidate) :
    (membersOf candidates candidate.base).head? = some position ↔
      KeepsBare candidates position candidate := by
  have sorted := pairwise_membersOf candidates candidate.base
  have inside := (mem_membersOf_iff candidates candidate.base position).mpr ⟨candidate, found, rfl⟩
  cases whole : membersOf candidates candidate.base with
  | nil =>
      rw [whole] at inside
      cases inside
  | cons first others =>
      rw [whole, List.pairwise_cons] at sorted
      rw [whole, List.mem_cons] at inside
      rw [List.head?_cons, Option.some.injEq]
      constructor
      · intro here
        subst here
        have before : forall (place : Nat) (other : Candidate), candidates[place]? = some other ->
            other.base = candidate.base ->
              place = first ∨ candidate.isComponent = true ∧ other.isComponent = false ∨
                candidate.isComponent = other.isComponent ∧ first < place := by
          intro place other otherFound same
          have member := (mem_membersOf_iff candidates candidate.base place).mpr
            ⟨other, otherFound, same⟩
          rw [whole, List.mem_cons] at member
          exact member.imp_right fun later =>
            (sorted.1 place later).within_group found otherFound same.symm
        cases kind : candidate.isComponent with
        | true =>
            apply KeepsBare.firstComponent kind
            intro place other otherFound same otherKind
            rcases before place other otherFound same with itself | ⟨_, isOther⟩ | ⟨_, later⟩
            · exact Nat.le_of_eq itself.symm
            · rw [otherKind] at isOther
              cases isOther
            · exact Nat.le_of_lt later
        | false =>
            apply KeepsBare.firstMember
            intro place other otherFound same
            rcases before place other otherFound same with itself | ⟨isComponent, _⟩ | ⟨alike, later⟩
            · rw [itself, found] at otherFound
              exact ⟨Option.some.inj otherFound ▸ kind, Nat.le_of_eq itself.symm⟩
            · rw [kind] at isComponent
              cases isComponent
            · exact ⟨alike.symm.trans kind, Nat.le_of_lt later⟩
      · intro keeps
        rcases inside with here | behind
        · exact here.symm
        · rcases (mem_membersOf_iff candidates candidate.base first).mp
            (whole ▸ List.mem_cons_self) with ⟨leader, leaderFound, same⟩
          have turn := (sorted.1 position behind).within_group leaderFound found same
          cases keeps with
          | firstComponent isComponent least =>
              rw [isComponent] at turn
              rcases turn with ⟨_, impossible⟩ | ⟨alike, earlier⟩
              · cases impossible
              · exact absurd (least first leader leaderFound same alike) (Nat.not_le_of_lt earlier)
          | firstMember least =>
              rcases least first leader leaderFound same with ⟨isOther, notBefore⟩
              rw [isOther] at turn
              rcases turn with ⟨impossible, _⟩ | ⟨_, earlier⟩
              · cases impossible
              · exact absurd notBefore (Nat.not_le_of_lt earlier)

end Allocation
end SceneMarkup
