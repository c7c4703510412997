import SceneMarkup.Proofs.FirstPlaces
import SceneMarkup.Proofs.Report

namespace SceneMarkup

/-!
# Computations that agree

Two computations over nearly the same scene are compared step by step: how they
end, and which warnings they leave behind.  Comparing their notices one by one
would ask too much.  One of the two may look at a node once more than the other
and raise again what both have raised before.  A warning counts once, at its
first place, so nobody can tell the difference.

The comparison therefore takes the known warnings into account.  Two
computations agree after some warnings if they end alike and if, whatever has
been raised before, those warnings included, both make the same list of
it.  Agreement in this sense passes from the steps of a computation to the
whole, and every step may rely on what the steps before it have raised.
-/

/-! ## The first places of warnings -/

namespace Warning

theorem distinct_eq_eraseDups (warnings : List Warning) : distinct warnings = warnings.eraseDups := by
  induction warnings with
  | nil => rfl
  | cons warning rest ih => rw [distinct, ih, eraseDups_cons_eq]

/-- Of later warnings only the new ones count. -/
theorem distinct_append (first second : List Warning) :
    distinct (first ++ second) = distinct first ++ distinct (second.removeAll first) := by
  simp only [distinct_eq_eraseDups, List.eraseDups_append]

/-- Warnings that are all known already change nothing. -/
theorem distinct_append_of_subset {first second : List Warning} (included : second ⊆ first) :
    distinct (first ++ second) = distinct first := by
  have nothing : second.removeAll first = [] := by
    rw [List.removeAll, List.filter_eq_nil_iff]
    intro warning member
    simpa using included member
  rw [distinct_append, nothing, distinct, List.append_nil]

/-- What comes later counts alike after lists with the same first places. -/
theorem distinct_append_congr {first second : List Warning}
    (same : distinct first = distinct second) (later : List Warning) :
    distinct (first ++ later) = distinct (second ++ later) := by
  have members : forall warning, warning ∈ first ↔ warning ∈ second := by
    intro warning
    rw [← List.mem_eraseDups, ← distinct_eq_eraseDups, same, distinct_eq_eraseDups,
      List.mem_eraseDups]
  have news : later.removeAll first = later.removeAll second := by
    apply List.filter_congr
    intro warning _
    rw [List.elem_eq_contains, List.elem_eq_contains, Bool.eq_iff_iff]
    simp [members]
  rw [distinct_append, distinct_append, same, news]

end Warning

/-! ## What a computation raises -/

/-- The warning in a notice, if it holds one. -/
def Notice.warning? : Notice -> Option Warning
  | .warning raised => some raised
  | .milestone _ => none

namespace Reported

/-- The warnings that a computation raises, as often as it raises them. -/
def raised (computation : Reported Value) : List Warning :=
  computation.notices.filterMap Notice.warning?

theorem warnings_notices (computation : Reported Value) :
    Notice.warnings computation.notices = Warning.distinct computation.raised := rfl

@[simp] theorem raised_pure (value : Value) : (Pure.pure value : Reported Value).raised = [] := rfl

theorem raised_bind_of_ok {first : Reported First} {value : First}
    (done : first.outcome = .ok value) (next : First -> Reported Second) :
    (first >>= next).raised = first.raised ++ (next value).raised := by
  change (Reported.bind first next).raised = _
  rw [Reported.bind, done]
  exact List.filterMap_append

theorem raised_bind_of_error {first : Reported First} {fault : Fault}
    (ended : first.outcome = .error fault) (next : First -> Reported Second) :
    (first >>= next).raised = first.raised := by
  change (Reported.bind first next).raised = _
  rw [Reported.bind, ended]
  rfl

theorem outcome_bind_of_error {first : Reported First} {fault : Fault}
    (ended : first.outcome = .error fault) (next : First -> Reported Second) :
    (first >>= next).outcome = .error fault := by
  change (Reported.bind first next).outcome = _
  rw [Reported.bind, ended]

@[simp] theorem outcome_map (rewrite : First -> Second) (computation : Reported First) :
    (rewrite <$> computation).outcome = computation.outcome.map rewrite := by
  rw [map_eq_pure_bind]
  cases ended : computation.outcome with
  | error fault => exact outcome_bind_of_error ended _
  | ok value => exact outcome_bind_of_ok ended _

@[simp] theorem raised_map (rewrite : First -> Second) (computation : Reported First) :
    (rewrite <$> computation).raised = computation.raised := by
  rw [map_eq_pure_bind]
  cases ended : computation.outcome with
  | error fault => exact raised_bind_of_error ended _
  | ok value =>
      rw [raised_bind_of_ok ended]
      exact List.append_nil _

/-- A step raises part of what the whole raises. -/
theorem raised_subset_bind (first : Reported First) (next : First -> Reported Second) :
    first.raised ⊆ (first >>= next).raised := by
  cases ended : first.outcome with
  | error fault =>
      rw [raised_bind_of_error ended]
      exact List.Subset.refl _
  | ok value =>
      rw [raised_bind_of_ok ended]
      exact List.subset_append_left _ _

end Reported

/-! ## Agreement -/

/-- Two outcomes are alike: the same fault, or values that are related. -/
def Fault.Alike (Related : First -> Second -> Prop) :
    Except Fault First -> Except Fault Second -> Prop
  | .ok first, .ok second => Related first second
  | .error first, .error second => first = second
  | _, _ => False

theorem Fault.Alike.refl (outcome : Except Fault Value) : Fault.Alike Eq outcome outcome := by
  cases outcome with
  | error fault => rfl
  | ok value => rfl

namespace Reported

/-- Two computations agree after the known warnings: they end alike, and after
anything that includes those warnings they make the same list of warnings. -/
structure AgreeAfter (known : List Warning) (Related : First -> Second -> Prop)
    (first : Reported First) (second : Reported Second) : Prop where
  outcome : Fault.Alike Related first.outcome second.outcome
  news : forall before, known ⊆ before ->
    Warning.distinct (before ++ first.raised) = Warning.distinct (before ++ second.raised)

namespace AgreeAfter

variable {known : List Warning} {Related : First -> Second -> Prop}
  {RelatedNext : FirstNext -> SecondNext -> Prop}
  {first : Reported First} {second : Reported Second}
  {firstNext : First -> Reported FirstNext} {secondNext : Second -> Reported SecondNext}

/-- A computation agrees with itself. -/
theorem refl (computation : Reported Value) : AgreeAfter known Eq computation computation :=
  ⟨Fault.Alike.refl _, fun _ _ => rfl⟩

/-- A computation agrees with the same one whose value is rewritten. -/
theorem map (rewrite : First -> Second) (computation : Reported First) :
    AgreeAfter known (fun value other => other = rewrite value) computation
      (rewrite <$> computation) where
  outcome := by
    rw [outcome_map]
    cases computation.outcome <;> rfl
  news before _ := by rw [raised_map]

theorem pure {value : First} {other : Second} (related : Related value other) :
    AgreeAfter known Related (Pure.pure value : Reported First) (Pure.pure other) :=
  ⟨related, fun _ _ => rfl⟩

/-- Computations that raise nothing agree as soon as they end alike. -/
theorem of_silent (alike : Fault.Alike Related first.outcome second.outcome)
    (firstSilent : first.raised = []) (secondSilent : second.raised = []) :
    AgreeAfter known Related first second :=
  ⟨alike, fun _ _ => by rw [firstSilent, secondSilent]⟩

/-- Computations agree if they end alike and raise nothing that is not known. -/
theorem of_subset (alike : Fault.Alike Related first.outcome second.outcome)
    (firstKnown : first.raised ⊆ known) (secondKnown : second.raised ⊆ known) :
    AgreeAfter known Related first second where
  outcome := alike
  news before included := by
    rw [Warning.distinct_append_of_subset (List.Subset.trans firstKnown included),
      Warning.distinct_append_of_subset (List.Subset.trans secondKnown included)]

/-- Agreement of the first steps, and of the second steps after what the first
have raised, is agreement of the whole. -/
theorem bind (start : AgreeAfter known Related first second)
    (goOn : forall value other, first.outcome = .ok value -> second.outcome = .ok other ->
      Related value other ->
        AgreeAfter (known ++ first.raised) RelatedNext (firstNext value) (secondNext other)) :
    AgreeAfter known RelatedNext (first >>= firstNext) (second >>= secondNext) := by
  have alike := start.outcome
  cases firstEnd : first.outcome with
  | error fault =>
      cases secondEnd : second.outcome with
      | ok other =>
          rw [firstEnd, secondEnd] at alike
          exact alike.elim
      | error other =>
          rw [firstEnd, secondEnd] at alike
          refine ⟨?_, ?_⟩
          · rw [outcome_bind_of_error firstEnd, outcome_bind_of_error secondEnd]
            exact alike
          · intro before included
            rw [raised_bind_of_error firstEnd, raised_bind_of_error secondEnd]
            exact start.news before included
  | ok value =>
      cases secondEnd : second.outcome with
      | error fault =>
          rw [firstEnd, secondEnd] at alike
          exact alike.elim
      | ok other =>
          rw [firstEnd, secondEnd] at alike
          have rest := goOn value other firstEnd secondEnd alike
          refine ⟨?_, ?_⟩
          · rw [outcome_bind_of_ok firstEnd, outcome_bind_of_ok secondEnd]
            exact rest.outcome
          · intro before included
            have both : known ++ first.raised ⊆ before ++ first.raised :=
              List.append_subset.mpr ⟨List.subset_append_of_subset_left _ included,
                List.subset_append_right _ _⟩
            rw [raised_bind_of_ok firstEnd, raised_bind_of_ok secondEnd, ← List.append_assoc,
              ← List.append_assoc, rest.news _ both]
            exact Warning.distinct_append_congr (start.news before included) _

/-- Computations that begin alike agree if they agree from there on. -/
theorem bind_same (computation : Reported Value)
    {firstNext : Value -> Reported FirstNext} {secondNext : Value -> Reported SecondNext}
    (goOn : forall value, computation.outcome = .ok value ->
      AgreeAfter (known ++ computation.raised) RelatedNext (firstNext value) (secondNext value)) :
    AgreeAfter known RelatedNext (computation >>= firstNext) (computation >>= secondNext) := by
  apply (refl computation).bind
  intro value other done _ same
  subst same
  exact goOn value done

/-- It does not matter what is announced. -/
theorem announce (first second : Milestone) :
    AgreeAfter known (fun _ _ => True) (Reported.announce first) (Reported.announce second) :=
  ⟨trivial, fun _ _ => rfl⟩

/-- Computations that agree from the start leave the same warnings behind. -/
theorem warnings_eq (agree : AgreeAfter [] Related first second) :
    Notice.warnings first.notices = Notice.warnings second.notices := by
  rw [warnings_notices, warnings_notices]
  exact agree.news [] (List.Subset.refl _)

end AgreeAfter
end Reported
end SceneMarkup
