import SceneMarkup.Proofs.Agreement

namespace SceneMarkup

/-!
# Confined faults

Which faults a computation can end with is settled step by step: they are those
of its steps.  A set of allowed faults is fixed, and every combinator keeps within
it if its parts do.  A later step needs to keep within the set only for values
that the earlier steps really hand on.

No fault at all is allowed by the empty set.  A computation that keeps within it
ends with a value, so that a statement about faults and a statement about success
have one proof.
-/

/-- If an outcome is a fault, then an allowed one. -/
def Fault.Confined (allowed : Fault -> Prop) (outcome : Except Fault Value) : Prop :=
  forall fault, outcome = .error fault -> allowed fault

namespace Fault.Confined

variable {allowed : Fault -> Prop}

theorem ok (value : Value) : Confined allowed (.ok value) :=
  fun _ impossible => nomatch impossible

theorem error {fault : Fault} (within : allowed fault) :
    Confined allowed (.error fault : Except Fault Value) := by
  intro other same
  cases same
  exact within

/-- Where no fault is allowed there is a value. -/
theorem exists_ok {outcome : Except Fault Value} (confined : Confined (fun _ => False) outcome) :
    Exists fun value => outcome = .ok value := by
  cases outcome with
  | error fault => exact (confined fault rfl).elim
  | ok value => exact ⟨value, rfl⟩

theorem bind {first : Except Fault First} {next : First -> Except Fault Second}
    (start : Confined allowed first)
    (goOn : forall value, first = .ok value -> Confined allowed (next value)) :
    Confined allowed (first >>= next) := by
  cases first with
  | error fault => exact error (start fault rfl)
  | ok value => exact goOn value rfl

theorem map {outcome : Except Fault First} (rewrite : First -> Second)
    (confined : Confined allowed outcome) : Confined allowed (outcome.map rewrite) := by
  cases outcome with
  | error fault => exact error (confined fault rfl)
  | ok value => exact ok (rewrite value)

theorem mapM {work : Item -> Except Fault Value} {items : List Item}
    (each : forall item, item ∈ items -> Confined allowed (work item)) :
    Confined allowed (items.mapM work) := by
  induction items with
  | nil => exact ok []
  | cons item rest ih =>
      rw [List.mapM_cons]
      refine (each item List.mem_cons_self).bind fun value _ => ?_
      refine bind (ih fun other member => each other (List.mem_cons_of_mem _ member)) ?_
      exact fun others _ => ok (value :: others)

end Fault.Confined

/-- A reported computation keeps within a set of faults if its steps do. -/
theorem Reported.confined_bind {allowed : Fault -> Prop} {first : Reported First}
    {next : First -> Reported Second} (start : Fault.Confined allowed first.outcome)
    (goOn : forall value, first.outcome = .ok value ->
      Fault.Confined allowed (next value).outcome) :
    Fault.Confined allowed (first >>= next).outcome := by
  cases ended : first.outcome with
  | error fault =>
      rw [outcome_bind_of_error ended]
      exact .error (start fault ended)
  | ok value =>
      rw [outcome_bind_of_ok ended]
      exact goOn value ended

end SceneMarkup
