import SceneMarkup.Proofs.Agreement
import SceneMarkup.Proofs.Export.Plan
import SceneMarkup.Proofs.Index.Depth
import SceneMarkup.Proofs.Index.DocumentOrder

namespace SceneMarkup

/-!
# Batches are groups

Exports are sorted into batches one at a time, each into the first batch that takes it.
Once there is a batch, what it takes of the exports behind it is settled: it gets them
all, and the batches behind it are made from the rest.  A list of batches is therefore
the grouping of the exports by format and size, in the order of the first places.

Sizes are doubles, and equality of doubles is symmetric and transitive, but a double
that is not a number does not equal itself.  An export of such a size, if there were
one, would be in a batch of its own.
-/

/-! ## Formats and sizes -/

section

open Float.Model (UnpackedFloat)

/-- The value of a double that has one.  Zero has no sign. -/
def Number.value? (number : Float) : Option Number.Binary64 :=
  match number.toModel.unpack with
  | .notANumber => none
  | .infinity sign => some (.infinite (sign matches .negative))
  | .zero _ => some (.finite false 0 0)
  | .finite sign mantissa exponent _ => some (.finite (sign matches .negative) mantissa exponent)

/-- Doubles are equal if they have the same value. -/
theorem Number.beq_iff (first second : Float) :
    (first == second) = true ↔ (value? first).isSome = true ∧ value? first = value? second := by
  have sign (which : UnpackedFloat.Sign) : compare which which = .eq := by cases which <;> rfl
  change (first.toModel.unpack.compare second.toModel.unpack == some Ordering.eq) = true ↔ _
  rw [value?, value?, beq_iff_eq]
  rcases first.toModel.unpack with (_ | _) | _ | (_ | _) | ⟨_ | _, mantissa, exponent, positive⟩ <;>
    rcases second.toModel.unpack with (_ | _) | _ | (_ | _) | ⟨_ | _, other, place, nonzero⟩ <;>
      dsimp only [UnpackedFloat.compare] <;> simp [Ordering.then_eq_eq, and_comm, sign]
  -- What is left compares zero with a value that has a mantissa.
  all_goals omega

end

/-- The format and the size of an export, which decide where it belongs. -/
def ExportSetting.kind (setting : ExportSetting) : ExportFormat × ExportConstraint :=
  (setting.format, setting.constraint)

/-- The format and the size of a batch. -/
def ExportBatch.kind (batch : ExportBatch) : ExportFormat × ExportConstraint :=
  (batch.format, batch.constraint)

theorem kind_beq_iff (first second : ExportFormat × ExportConstraint) :
    (first == second) = true ↔ first.1 = second.1 ∧ first.2.kind = second.2.kind ∧
      (Number.value? first.2.value).isSome = true ∧
        Number.value? first.2.value = Number.value? second.2.value := by
  have parts : (first == second) = (first.1 == second.1 &&
    (first.2.kind == second.2.kind && first.2.value == second.2.value)) := rfl
  rw [parts, Bool.and_eq_true, Bool.and_eq_true, beq_iff_eq, beq_iff_eq, Number.beq_iff]

instance : PartialEquivBEq (ExportFormat × ExportConstraint) where
  symm {first second} same := by
    rw [kind_beq_iff] at same ⊢
    rcases same with ⟨format, kind, number, value⟩
    exact ⟨format.symm, kind.symm, value ▸ number, value.symm⟩
  trans {first second third} same next := by
    rw [kind_beq_iff] at same next ⊢
    rcases same with ⟨format, kind, number, value⟩
    rcases next with ⟨nextFormat, nextKind, _, nextValue⟩
    exact ⟨format.trans nextFormat, kind.trans nextKind, number, value.trans nextValue⟩

namespace Project

variable {project : Project}

/-! ## Sorting -/

/-- The batches that exports are sorted into, after the batches that are there. -/
def sortInto (project : Project) (batches : List ExportBatch)
    (planned : List (NodeKey × ExportSetting)) : List ExportBatch :=
  planned.foldl
    (fun batches entry => ExportBatch.add entry.2 (project.exportedNode entry) batches) batches

/-- What the first batch takes it gets, and the rest is sorted into the other ones. -/
theorem sortInto_cons (batch : ExportBatch) (batches : List ExportBatch)
    (planned : List (NodeKey × ExportSetting)) :
    project.sortInto (batch :: batches) planned =
      ⟨batch.format, batch.constraint, batch.nodes ++
        (planned.filter fun entry => batch.takes entry.2).map project.exportedNode⟩ ::
          project.sortInto batches (planned.filter fun entry => !batch.takes entry.2) := by
  induction planned generalizing batch batches with
  | nil => simp [sortInto]
  | cons entry rest ih =>
      have first : project.sortInto (batch :: batches) (entry :: rest) = project.sortInto
        (ExportBatch.add entry.2 (project.exportedNode entry) (batch :: batches)) rest := rfl
      rw [first, ExportBatch.add]
      cases taken : batch.takes entry.2 with
      | true =>
          have same (setting : ExportSetting) :
              ExportBatch.takes { batch with nodes := batch.nodes ++ [project.exportedNode entry] }
                setting = batch.takes setting := rfl
          rw [if_pos rfl, ih]
          simp only [same, List.filter_cons, taken, if_true, Bool.not_true, Bool.false_eq_true,
            if_false, List.map_cons, List.append_assoc, List.singleton_append]
      | false =>
          rw [if_neg Bool.false_ne_true, ih]
          simp only [List.filter_cons, taken, Bool.false_eq_true, if_false, Bool.not_false, if_true]
          rfl

/-- The batch that is opened by an export, with what it takes of the exports behind. -/
def openedBatch (project : Project) (entry : NodeKey × ExportSetting)
    (rest : List (NodeKey × ExportSetting)) : ExportBatch :=
  ⟨entry.2.format, entry.2.constraint, project.exportedNode entry ::
    (rest.filter fun other => entry.2.kind == other.2.kind).map project.exportedNode⟩

/-- The first export opens a batch, and the other batches hold what that one leaves. -/
theorem sortInto_nil_cons (entry : NodeKey × ExportSetting)
    (rest : List (NodeKey × ExportSetting)) :
    project.sortInto [] (entry :: rest) = project.openedBatch entry rest ::
      project.sortInto [] (rest.filter fun other => !entry.2.kind == other.2.kind) :=
  sortInto_cons ⟨entry.2.format, entry.2.constraint, [project.exportedNode entry]⟩ [] rest

/-! ## Groups -/

/-- The formats and sizes of the batches are those of the exports, at their first
places. -/
theorem map_kind_sortInto (planned : List (NodeKey × ExportSetting)) :
    (project.sortInto [] planned).map (·.kind) = (planned.map (·.2.kind)).eraseDups := by
  induction planned using leaving_induction fun (entry other : NodeKey × ExportSetting) =>
    !entry.2.kind == other.2.kind with
  | nil => rfl
  | cons entry rest ih =>
      rw [sortInto_nil_cons, List.map_cons, ih, List.map_cons, List.eraseDups_cons, List.filter_map]
      simp only [Function.comp_def, BEq.comm (a := entry.2.kind)]
      rfl

/-- Every export is in one batch. -/
theorem length_nodes_sortInto (planned : List (NodeKey × ExportSetting)) :
    ((project.sortInto [] planned).flatMap (·.nodes)).length = planned.length := by
  induction planned using leaving_induction fun (entry other : NodeKey × ExportSetting) =>
    !entry.2.kind == other.2.kind with
  | nil => rfl
  | cons entry rest ih =>
      have parts := rest.length_eq_length_filter_add fun other => entry.2.kind == other.2.kind
      rw [sortInto_nil_cons, List.flatMap_cons, List.length_append, ih, openedBatch,
        List.length_cons, List.length_cons, List.length_map]
      omega

theorem nodes_ne_nil_of_mem_sortInto (planned : List (NodeKey × ExportSetting)) :
    forall batch, batch ∈ project.sortInto [] planned -> batch.nodes ≠ [] := by
  induction planned using leaving_induction fun (entry other : NodeKey × ExportSetting) =>
    !entry.2.kind == other.2.kind with
  | nil => exact nofun
  | cons entry rest ih =>
      rw [sortInto_nil_cons, List.forall_mem_cons]
      exact ⟨List.cons_ne_nil _ _, ih⟩

/-- What a batch holds of some exports: all those of its format and size, in their
order.  Where its size is not a number, there is nothing else of its size, and it holds
the one export that opened it. -/
def Gathers (project : Project) (planned : List (NodeKey × ExportSetting))
    (batch : ExportBatch) : Prop :=
  ((batch.kind == batch.kind) = true -> batch.nodes =
      (planned.filter fun entry => batch.kind == entry.2.kind).map project.exportedNode) ∧
    ((batch.kind == batch.kind) = false -> Exists fun entry => entry ∈ planned ∧
      entry.2.kind = batch.kind ∧ batch.nodes = [project.exportedNode entry])

theorem openedBatch_gathers (entry : NodeKey × ExportSetting)
    (rest : List (NodeKey × ExportSetting)) :
    project.Gathers (entry :: rest) (project.openedBatch entry rest) := by
  have kind : (project.openedBatch entry rest).kind = entry.2.kind := rfl
  rw [Gathers, kind, openedBatch]
  constructor
  · intro number
    simp only [List.filter_cons, number, if_true, List.map_cons]
  · intro undefined
    have alone : (rest.filter fun other => entry.2.kind == other.2.kind) = [] := by
      rw [List.filter_eq_nil_iff]
      intro other _ same
      rw [BEq.trans same (BEq.symm same)] at undefined
      cases undefined
    rw [alone]
    exact ⟨entry, List.mem_cons_self, rfl, rfl⟩

/-- What gathers the exports that are left gathers all exports, because none of its
format and size has been taken. -/
theorem gathers_cons {entry : NodeKey × ExportSetting} {rest : List (NodeKey × ExportSetting)}
    {batch : ExportBatch} (different : (batch.kind == entry.2.kind) = false)
    (gathers : project.Gathers (rest.filter fun other => !entry.2.kind == other.2.kind) batch) :
    project.Gathers (entry :: rest) batch := by
  constructor
  · intro number
    have left : forall other : NodeKey × ExportSetting, (batch.kind == other.2.kind) = true ->
        (entry.2.kind == other.2.kind) = false := by
      intro other same
      rw [Bool.eq_false_iff]
      intro taken
      rw [BEq.trans same (BEq.symm taken)] at different
      cases different
    rw [gathers.1 number, List.filter_filter, List.filter_cons_of_neg (by simp [different])]
    congr 1
    apply List.filter_congr
    intro other _
    cases same : batch.kind == other.2.kind with
    | true => rw [left other same, Bool.true_and, Bool.not_false]
    | false => rw [Bool.false_and]
  · intro undefined
    rcases gathers.2 undefined with ⟨other, member, sameKind, nodes⟩
    exact ⟨other, List.mem_cons_of_mem _ (List.mem_of_mem_filter member), sameKind, nodes⟩

/-- The exports of a format and a size are in the batch that is for them. -/
theorem gathers_of_mem_sortInto (planned : List (NodeKey × ExportSetting)) :
    forall batch, batch ∈ project.sortInto [] planned -> project.Gathers planned batch := by
  induction planned using leaving_induction fun (entry other : NodeKey × ExportSetting) =>
    !entry.2.kind == other.2.kind with
  | nil => exact nofun
  | cons entry rest ih =>
      rw [sortInto_nil_cons, List.forall_mem_cons]
      refine ⟨openedBatch_gathers entry rest, ?_⟩
      intro batch member
      refine gathers_cons ?_ (ih batch member)
      have kinds := List.mem_map_of_mem (f := ExportBatch.kind) member
      rw [map_kind_sortInto] at kinds
      rcases List.mem_map.mp ((eraseDups_sublist _).subset kinds) with ⟨other, left, sameKind⟩
      rw [← sameKind, BEq.comm]
      exact (Bool.not_eq_true' _).mp (List.mem_filter.mp left).2

/-! ## The exports of a document -/

/-- All exports that nodes inside components want, node by node in document order. -/
def wantedExports (project : Project) : List (NodeKey × ExportSetting) :=
  project.nodesInComponents.flatMap fun key =>
    (project.node key).exportSettings.map fun setting => (key, setting)

/-- Those of them that can be made. -/
def supportedExports (project : Project) : List (NodeKey × ExportSetting) :=
  project.wantedExports.filter fun wanted => wanted.2.isSupported

/-- The warnings about the others, as often as they are met. -/
def unsupportedExports (project : Project) : List Warning :=
  project.wantedExports.filterMap fun wanted =>
    wanted.2.obstacle?.map fun obstacle =>
      Warning.about (project.node wanted.1) (.ofObstacle obstacle)

/-- Component by component, nodes are met as in a single walk through the document. -/
theorem componentNodes_eq (project : Project) :
    project.componentNodes = project.nodesInComponents := by
  rw [componentNodes, distinctKeys_eq_eraseDups, eraseDups_componentSubtrees]

theorem plannedExports_eq (project : Project) :
    project.plannedExports = project.supportedExports := by
  rw [plannedExports, componentNodes_eq, supportedExports, wantedExports, List.filter_flatMap]
  simp only [List.filter_map, Function.comp_def]

theorem exportPlanWarnings_eq (project : Project) :
    project.exportPlanWarnings = project.unsupportedExports := by
  rw [exportPlanWarnings, componentNodes_eq, unsupportedExports, wantedExports,
    List.filterMap_flatMap]
  simp only [exportWarnings, List.map_filterMap, List.filterMap_map, Function.comp_def,
    Option.map_map]

/-- A document on its own, with the standard options. -/
def ofDocument (root : Node) : Project :=
  ⟨Scene.ofTrees root OrderedMap.empty, Options.standard, ""⟩

/-- Planning the exports of a document that is not too deep goes through.  The plan
sorts the exports that nodes inside components want and that can be made.  No batch is
empty and no two batches have the same format and size; a batch has all exports of its
format and size, in their order; and the batches are in the order in which their
formats and sizes are first met.  The exports that cannot be made are reported, each
once, in the order in which they are first met. -/
theorem planExports_groups {root : Node} (isDocument : root.type = .document)
    (fits : root.height <= Node.depthLimit) :
    Exists fun plan => (planExports root).outcome = .ok plan ∧
      (forall batch, batch ∈ plan.batches -> batch.nodes ≠ []) ∧
      (plan.batches.Pairwise fun first second => (first.kind == second.kind) = false) ∧
      (forall batch, batch ∈ plan.batches ->
        (ofDocument root).Gathers (ofDocument root).supportedExports batch) ∧
      plan.batches.map (·.kind) =
        ((ofDocument root).supportedExports.map (·.2.kind)).eraseDups ∧
      plan.fileCount = (ofDocument root).supportedExports.length ∧
      plan.warnings = (ofDocument root).unsupportedExports.eraseDups := by
  have indexable : Scene.Indexable root OrderedMap.empty :=
    ⟨isDocument, List.forall_mem_singleton.mpr fits⟩
  have built : build root OrderedMap.empty Options.standard "" = .ok (ofDocument root) :=
    (build_eq_ok_iff _ _ _ _ _).mpr ⟨indexable, rfl⟩
  have sorted : (ofDocument root).exportBatches =
      (ofDocument root).sortInto [] (ofDocument root).supportedExports := by
    rw [← plannedExports_eq]
    rfl
  have kinds : ((ofDocument root).sortInto [] (ofDocument root).supportedExports).map (·.kind) =
      ((ofDocument root).supportedExports.map (·.2.kind)).eraseDups := map_kind_sortInto _
  refine ⟨⟨(ofDocument root).exportBatches,
    Warning.distinct (ofDocument root).exportPlanWarnings⟩, ?_, ?_⟩
  · rw [planExports, built]
    rfl
  rw [exportPlanWarnings_eq, Warning.distinct_eq_eraseDups, sorted, ExportPlan.fileCount]
  refine ⟨nodes_ne_nil_of_mem_sortInto _, ?_, gathers_of_mem_sortInto _, kinds,
    length_nodes_sortInto _, rfl⟩
  have different := pairwise_eraseDups ((ofDocument root).supportedExports.map (·.2.kind))
  rw [← kinds, List.pairwise_map] at different
  exact different.imp fun apart => BEq.comm.trans apart

/-- A card with an icon, a photo that is a component of its own, and a dot; and an
icon outside. -/
def cardWithExports : Node :=
  .container "0:0" "Document" .document
    [ .container "1:1" "Card" (.component false .blank)
        [ .leaf "1:2" "Icon" (.shape .vector
            { Layer.blank with exportSettings := [.scaled .svg 1.0, .scaled .png 2.0] }),
          .container "2:1" "Frame" (.component false .blank)
            [ .leaf "2:2" "Photo" (.rectangle none
                { Layer.blank with exportSettings := [.scaled .png 2.0, .scaled .pdf 1.0] }) ],
          .leaf "1:3" "Dot" (.shape .ellipse
            { Layer.blank with exportSettings := [⟨.png, "", ⟨.width, 32.0⟩⟩] }) ],
      .leaf "3:1" "Loose" (.shape .vector
        { Layer.blank with exportSettings := [.scaled .svg 1.0] }) ]

/-- The photo is met twice and listed once, next to the icon. -/
theorem cardWithExports_groups :
    Exists fun plan => (planExports cardWithExports).outcome = .ok plan ∧
      (plan.batches.map fun batch => batch.nodes.map (·.nodeId)) = [["1:2"], ["1:2", "2:2"]] ∧
      plan.fileCount = 3 ∧
      plan.warnings =
        [⟨"2:2", "Photo", .pdfExport⟩, ⟨"1:3", "Dot", .nonScaleConstraint "WIDTH"⟩] := by
  have listed : (ofDocument cardWithExports).supportedExports.length = 3 := by decide +kernel
  have met : (ofDocument cardWithExports).unsupportedExports =
      [⟨"2:2", "Photo", .pdfExport⟩, ⟨"1:3", "Dot", .nonScaleConstraint "WIDTH"⟩] := by
    decide +kernel
  have evaluated : (planExports cardWithExports).outcome.toOption.any (fun plan =>
      (plan.batches.map fun batch => batch.nodes.map (·.nodeId)) ==
        [["1:2"], ["1:2", "2:2"]]) = true := by
    decide +kernel
  have isDocument : cardWithExports.type = .document := rfl
  have fits : cardWithExports.height <= Node.depthLimit := by decide
  rcases planExports_groups isDocument fits with ⟨plan, planned, _, _, _, _, count, warned⟩
  rw [planned] at evaluated
  refine ⟨plan, planned, eq_of_beq evaluated, count.trans listed, ?_⟩
  rw [warned, met]
  decide

end Project
end SceneMarkup
