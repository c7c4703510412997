import SceneMarkup.Proofs.Report

namespace SceneMarkup
namespace Fault

/-!
# The first fault

Work on a row of items ends with the fault of the first item at which it fails, and
succeeds if there is no such item.  A computation need not look like work on a row to
behave like that.  The laws here build such computations from smaller ones: what is
done one after the other goes through the items one after the other.
-/

/-- A fault is that of the first item at which the work fails. -/
def FailsFirst (work : Item -> Except Fault Value) (items : List Item) (fault : Fault) : Prop :=
  Exists fun before => Exists fun item => Exists fun after =>
    items = before ++ item :: after ∧
      (forall earlier, earlier ∈ before -> Exists fun value => work earlier = .ok value) ∧
      work item = .error fault

variable {work : Item -> Except Fault Value}

theorem not_failsFirst_nil (fault : Fault) : ¬ FailsFirst work [] fault := by
  rintro ⟨before, item, after, split, _⟩
  cases before <;> cases split

theorem failsFirst_cons_iff (item : Item) (rest : List Item) (fault : Fault) :
    FailsFirst work (item :: rest) fault ↔
      work item = .error fault ∨
        (Exists fun value => work item = .ok value) ∧ FailsFirst work rest fault := by
  constructor
  · rintro ⟨before, failing, after, split, done, failed⟩
    cases before with
    | nil =>
        rw [List.nil_append, List.cons.injEq] at split
        rw [split.1]
        exact Or.inl failed
    | cons first others =>
        rw [List.cons_append, List.cons.injEq] at split
        rw [split.1]
        refine Or.inr ⟨done first List.mem_cons_self, others, failing, after, split.2, ?_, failed⟩
        exact fun earlier member => done earlier (List.mem_cons_of_mem _ member)
  · rintro (failed | ⟨head, before, failing, after, split, done, failed⟩)
    · exact ⟨[], item, rest, rfl, nofun, failed⟩
    · refine ⟨item :: before, failing, after, by rw [split, List.cons_append], ?_, failed⟩
      exact List.forall_mem_cons.mpr ⟨head, done⟩

theorem failsFirst_append_iff (first second : List Item) (fault : Fault) :
    FailsFirst work (first ++ second) fault ↔
      FailsFirst work first fault ∨
        (forall item, item ∈ first -> Exists fun value => work item = .ok value) ∧
          FailsFirst work second fault := by
  induction first with
  | nil => simp [not_failsFirst_nil]
  | cons item rest ih =>
      rw [List.cons_append, failsFirst_cons_iff, failsFirst_cons_iff, ih, List.forall_mem_cons,
        and_or_left, or_assoc, and_assoc]

theorem failsFirst_map_iff (rewrite : Source -> Item) (items : List Source) (fault : Fault) :
    FailsFirst work (items.map rewrite) fault ↔
      FailsFirst (fun item => work (rewrite item)) items fault := by
  induction items with
  | nil => exact iff_of_false (not_failsFirst_nil fault) (not_failsFirst_nil fault)
  | cons item rest ih => rw [List.map_cons, failsFirst_cons_iff, failsFirst_cons_iff, ih]

/-- Work on the items of one kind fails like work that passes over all others. -/
theorem failsFirst_filter_iff (wanted : Item -> Bool) (items : List Item) (fault : Fault) :
    FailsFirst work (items.filter wanted) fault ↔
      FailsFirst (fun item => if wanted item then (work item).map some else .ok none) items
        fault := by
  induction items with
  | nil => exact iff_of_false (not_failsFirst_nil fault) (not_failsFirst_nil fault)
  | cons item rest ih =>
      rw [List.filter_cons, failsFirst_cons_iff, ← ih]
      by_cases kind : wanted item = true
      · rw [if_pos kind, if_pos kind, failsFirst_cons_iff]
        cases work item <;> simp [Except.map]
      · rw [if_neg kind, if_neg kind]
        simp

/-- Either the work fails at a first item, or it succeeds at all of them. -/
theorem exists_failsFirst_iff (work : Item -> Except Fault Value) (items : List Item) :
    (Exists fun fault => FailsFirst work items fault) ↔
      ¬ forall item, item ∈ items -> Exists fun value => work item = .ok value := by
  induction items with
  | nil => simp [not_failsFirst_nil]
  | cons item rest ih =>
      simp only [failsFirst_cons_iff, exists_or, exists_and_left, ih, List.forall_mem_cons]
      cases work item with
      | error fault => simp
      | ok value => simp

/-- The faults of a computation are those of the first item at which work fails. -/
def GoesThrough (outcome : Except Fault Result) (work : Item -> Except Fault Value)
    (items : List Item) : Prop :=
  forall fault, outcome = .error fault ↔ FailsFirst work items fault

namespace GoesThrough

variable {outcome : Except Fault First} {items : List Item}

theorem ok (result : First) : GoesThrough (.ok result) work [] :=
  fun fault => iff_of_false nofun (not_failsFirst_nil fault)

theorem item (work : Item -> Except Fault Value) (item : Item) :
    GoesThrough (work item) work [item] := by
  intro fault
  rw [failsFirst_cons_iff]
  exact ⟨Or.inl, fun failed => failed.resolve_right fun later => not_failsFirst_nil fault later.2⟩

/-- A computation succeeds exactly when the work does at all items. -/
theorem exists_ok_iff (through : GoesThrough outcome work items) :
    (Exists fun result => outcome = .ok result) ↔
      forall item, item ∈ items -> Exists fun value => work item = .ok value := by
  have failing := exists_failsFirst_iff work items
  cases outcome with
  | ok result =>
      refine iff_of_true ⟨result, rfl⟩ ?_
      by_contra missing
      rcases failing.mpr missing with ⟨fault, failed⟩
      cases (through fault).mpr failed
  | error fault =>
      refine iff_of_false (fun ⟨_, impossible⟩ => nomatch impossible) ?_
      exact failing.mp ⟨fault, (through fault).mp rfl⟩

/-- What is done next goes on with the next items. -/
theorem bind {next : First -> Except Fault Second} {later : List Item}
    (through : GoesThrough outcome work items)
    (rest : forall value, outcome = .ok value -> GoesThrough (next value) work later) :
    GoesThrough (outcome >>= next) work (items ++ later) := by
  intro fault
  rw [failsFirst_append_iff, ← through fault, ← through.exists_ok_iff]
  cases outcome with
  | ok value =>
      rw [ok_bind, rest value rfl fault]
      simp
  | error found =>
      change Except.error found = _ ↔ _
      simp

theorem map {next : First -> Second} (through : GoesThrough outcome work items) :
    GoesThrough (outcome >>= fun value => pure (next value)) work items := by
  have whole := through.bind fun value _ => GoesThrough.ok (next value)
  rw [List.append_nil] at whole
  exact whole

/-- Working through a list goes through its items. -/
theorem mapM (work : Item -> Except Fault Value) (items : List Item) :
    GoesThrough (items.mapM work) work items := by
  induction items with
  | nil => exact ok []
  | cons first rest ih =>
      rw [List.mapM_cons]
      exact (item work first).bind fun _ _ => ih.map

end GoesThrough

end Fault
end SceneMarkup
