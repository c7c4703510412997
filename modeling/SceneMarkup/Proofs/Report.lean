import Mathlib.Data.List.Forall2
import SceneMarkup.Report

namespace SceneMarkup

/-!
# Outcomes of reported computations

Notices never decide how a computation goes on, so its outcome can be followed
without them.  Each step of a computation has a law here that says when the whole
ends with a value; together they take a computation apart into the values of its
steps.
-/

namespace Reported

theorem bind_pure_self (computation : Reported Value) : computation.bind pure = computation := by
  rcases computation with ⟨notices, _ | value⟩
  · rfl
  · exact congrArg (mk · (.ok value)) (List.append_nil notices)

theorem bind_bind (first : Reported First) (next : First -> Reported Second)
    (last : Second -> Reported Third) :
    (first.bind next).bind last = first.bind fun value => (next value).bind last := by
  rcases first with ⟨notices, _ | value⟩
  · rfl
  · rcases middle : next value with ⟨later, _ | other⟩
    · simp only [bind, middle]
    · simp only [bind, middle, List.append_assoc]

instance : LawfulMonad Reported :=
  LawfulMonad.mk' Reported bind_pure_self (fun _ _ => rfl) bind_bind

@[simp] theorem outcome_pure (value : Value) :
    (Pure.pure value : Reported Value).outcome = .ok value := rfl

@[simp] theorem outcome_fail (fault : Fault) :
    (fail fault : Reported Value).outcome = .error fault := rfl

@[simp] theorem outcome_raise (warnings : List Warning) :
    (raise warnings).outcome = .ok () := rfl

@[simp] theorem outcome_announce (milestone : Milestone) :
    (announce milestone).outcome = .ok () := rfl

@[simp] theorem outcome_ofExcept (outcome : Except Fault Value) :
    (ofExcept outcome).outcome = outcome := rfl

theorem ofExcept_ok (value : Value) : ofExcept (.ok value) = Pure.pure value := rfl

theorem outcome_bind (first : Reported First) (next : First -> Reported Second) :
    (first >>= next).outcome = first.outcome >>= fun value => (next value).outcome := by
  rcases first with ⟨notices, _ | value⟩ <;> rfl

/-- A step that ends with a value hands it on. -/
theorem outcome_bind_of_ok {first : Reported First} {value : First}
    (done : first.outcome = .ok value) (next : First -> Reported Second) :
    (first >>= next).outcome = (next value).outcome := by
  change (Reported.bind first next).outcome = _
  rw [Reported.bind, done]

/-- A computation in two steps ends with a value exactly when both steps do. -/
theorem outcome_bind_eq_ok_iff (first : Reported First) (next : First -> Reported Second)
    (result : Second) :
    (first >>= next).outcome = .ok result ↔
      Exists fun value => first.outcome = .ok value ∧ (next value).outcome = .ok result := by
  constructor
  · intro ended
    cases done : first.outcome with
    | error fault =>
        change (Reported.bind first next).outcome = _ at ended
        rw [Reported.bind, done] at ended
        cases ended
    | ok value => exact ⟨value, rfl, (outcome_bind_of_ok done next).symm.trans ended⟩
  · rintro ⟨value, done, ended⟩
    rw [outcome_bind_of_ok done, ended]

end Reported

/-! ## Computations without notices -/

namespace Fault

theorem ok_bind (value : First) (next : First -> Except Fault Second) :
    (Except.ok value >>= next) = next value := rfl

theorem bind_eq_ok_iff (first : Except Fault First) (next : First -> Except Fault Second)
    (result : Second) :
    (first >>= next) = .ok result ↔
      Exists fun value => first = .ok value ∧ next value = .ok result := by
  cases first with
  | error fault =>
      constructor
      · intro impossible
        cases impossible
      · rintro ⟨value, impossible, _⟩
        cases impossible
  | ok value =>
      constructor
      · intro ended
        exact ⟨value, rfl, ended⟩
      · rintro ⟨same, equal, ended⟩
        cases equal
        exact ended

/-- Working through a list ends with values exactly when every item does, each
value in the place of its item. -/
theorem mapM_eq_ok_iff (work : Item -> Except Fault Value) (items : List Item)
    (results : List Value) :
    items.mapM work = .ok results ↔
      List.Forall₂ (fun item value => work item = .ok value) items results := by
  induction items generalizing results with
  | nil =>
      rw [List.mapM_nil, List.forall₂_nil_left_iff]
      exact ⟨fun equal => (Except.ok.inj equal).symm, fun equal => by rw [equal]; rfl⟩
  | cons item rest ih =>
      rw [List.mapM_cons, bind_eq_ok_iff, List.forall₂_cons_left_iff]
      constructor
      · rintro ⟨value, done, ended⟩
        rcases (bind_eq_ok_iff _ _ _).mp ended with ⟨others, remaining, whole⟩
        exact ⟨value, others, done, (ih others).mp remaining, (Except.ok.inj whole).symm⟩
      · rintro ⟨value, others, done, remaining, whole⟩
        refine ⟨value, done, (bind_eq_ok_iff _ _ _).mpr ⟨others, (ih others).mpr remaining, ?_⟩⟩
        rw [whole]
        rfl

/-- Where the value of every item is known, so are the results. -/
theorem eq_map_of_mapM_eq_ok {work : Item -> Except Fault Value} {items : List Item}
    {results : List Value}
    (done : List.Forall₂ (fun item value => work item = .ok value) items results)
    {value : Item -> Value} (known : forall item, item ∈ items -> work item = .ok (value item)) :
    results = items.map value := by
  induction done with
  | nil => rfl
  | cons made _ ih =>
      rw [List.map_cons, ← ih fun item member => known item (List.mem_cons_of_mem _ member),
        Except.ok.inj (made.symm.trans (known _ List.mem_cons_self))]

theorem mem_of_mapM_eq_ok {work : Item -> Except Fault Value} {items : List Item}
    {results : List Value}
    (done : List.Forall₂ (fun item value => work item = .ok value) items results)
    (value : Value) :
    value ∈ results ↔ Exists fun item => item ∈ items ∧ work item = .ok value := by
  induction done with
  | nil => simp
  | @cons item first items rest made _ ih =>
      simp only [List.mem_cons, ih, exists_eq_or_imp, made, Except.ok.injEq]
      rw [eq_comm]

theorem exists_of_mapM_eq_ok {work : Item -> Except Fault Value} {items : List Item}
    {results : List Value}
    (done : List.Forall₂ (fun item value => work item = .ok value) items results)
    {item : Item} (member : item ∈ items) :
    Exists fun value => value ∈ results ∧ work item = .ok value := by
  induction done with
  | nil => cases member
  | @cons first value rest values made _ ih =>
      rcases List.mem_cons.mp member with same | later
      · rw [same]
        exact ⟨value, List.mem_cons_self, made⟩
      · rcases ih later with ⟨other, listed, found⟩
        exact ⟨other, List.mem_cons_of_mem _ listed, found⟩

end Fault
end SceneMarkup
