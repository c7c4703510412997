import SceneMarkup.Proofs.Markup.Blocks

namespace SceneMarkup

/-!
# Fragments and calls

Whoever writes a line of markup hands it over in fragments, as they come: a tag, a
value, a bracket.  Where the cuts are must not show.  Indentation is decided when a
fragment begins a line, so the cuts do not show as long as no fragment ends a line that
is not the last with anything in it; empty fragments count for nothing.

A writer that is kept while calls are made on it only grows, whatever the calls are and
also where a block ends that was never begun: such a call fails and leaves no trace.
The depth of a writer is therefore an account of the blocks that were begun and the
blocks that were ended, and a text is finished exactly when the account is even.
-/

namespace Writer

/-! ## Cutting a text into fragments -/

/-- No fragment ends a line, except perhaps the last one that is not empty. -/
def IsSeamless (fragments : List String) : Prop :=
  forall fragment, fragment ∈ (fragments.filter fun other => decide (other ≠ "")).dropLast ->
    endsLine fragment = false

instance (fragments : List String) : Decidable (IsSeamless fragments) :=
  inferInstanceAs (Decidable
    (forall fragment, fragment ∈ (fragments.filter fun other => decide (other ≠ "")).dropLast ->
      endsLine fragment = false))

theorem append_empty (writer : Writer) : writer.append "" = writer :=
  if_pos rfl

theorem append_of_ne {fragment : String} (writer : Writer) (nonempty : fragment ≠ "") :
    writer.append fragment =
      ⟨writer.buffer
          ++ (if writer.atLineStart && ! beginsWithBreak fragment then indentation writer.depth
            else "")
          ++ fragment,
        writer.depth, endsLine fragment⟩ :=
  if_neg nonempty

theorem beginsWithBreak_append {first : String} (nonempty : first ≠ "") (second : String) :
    beginsWithBreak (first ++ second) = beginsWithBreak first := by
  rw [beginsWithBreak, beginsWithBreak, String.toList_append]
  cases letters : first.toList with
  | nil => exact absurd (String.toList_eq_nil_iff.mp letters) nonempty
  | cons char rest => rfl

theorem endsLine_append (first : String) {second : String} (nonempty : second ≠ "") :
    endsLine (first ++ second) = endsLine second := by
  have letters : second.toList ≠ [] := fun empty => nonempty (String.toList_eq_nil_iff.mp empty)
  rw [endsLine, endsLine, String.toList_append, List.getLast?_append]
  cases last : second.toList.getLast? with
  | none => exact absurd (List.getLast?_eq_none_iff.mp last) letters
  | some char => rfl

/-- Two fragments may be added as one where the first does not end a line. -/
theorem append_append (writer : Writer) {first second : String}
    (seam : endsLine first = false ∨ second = "") :
    (writer.append first).append second = writer.append (first ++ second) := by
  by_cases firstEmpty : first = ""
  · rw [firstEmpty, append_empty, String.empty_append]
  by_cases secondEmpty : second = ""
  · rw [secondEmpty, append_empty, String.append_empty]
  have inside : endsLine first = false := seam.resolve_right secondEmpty
  have whole : first ++ second ≠ "" := by simp [firstEmpty]
  simp only [append_of_ne _ firstEmpty, append_of_ne _ secondEmpty, append_of_ne _ whole,
    beginsWithBreak_append firstEmpty, endsLine_append _ secondEmpty, inside, Bool.false_and,
    Bool.false_eq_true, if_false, String.append_empty, String.append_assoc]

theorem join_eq_empty_of_filter {fragments : List String}
    (empty : (fragments.filter fun other => decide (other ≠ "")) = []) :
    String.join fragments = "" := by
  induction fragments with
  | nil => rfl
  | cons fragment rest ih =>
      rw [List.filter_eq_nil_iff, List.forall_mem_cons, ← List.filter_eq_nil_iff] at empty
      have blank : fragment = "" := by simpa using empty.1
      rw [String.join_cons, blank, ih empty.2, String.empty_append]

/-- What is known of fragments in a row: the first does not end a line unless nothing
comes behind it, and the others are seamless in turn. -/
theorem isSeamless_cons {fragment : String} {rest : List String}
    (seamless : IsSeamless (fragment :: rest)) :
    (endsLine fragment = false ∨ String.join rest = "") ∧ IsSeamless rest := by
  by_cases blank : fragment = ""
  · rw [IsSeamless, List.filter_cons_of_neg (by simp [blank])] at seamless
    exact ⟨Or.inl (blank ▸ rfl), seamless⟩
  · rw [IsSeamless, List.filter_cons_of_pos (by simp [blank])] at seamless
    cases others : rest.filter fun other => decide (other ≠ "") with
    | nil =>
        refine ⟨Or.inr (join_eq_empty_of_filter others), ?_⟩
        rw [IsSeamless, others]
        exact nofun
    | cons next later =>
        rw [others, List.dropLast_cons_of_ne_nil (List.cons_ne_nil _ _),
          List.forall_mem_cons] at seamless
        rw [IsSeamless, others]
        exact ⟨Or.inl seamless.1, seamless.2⟩

/-- Fragments without a seam may be added as one. -/
theorem foldl_append_of_isSeamless {fragments : List String} (seamless : IsSeamless fragments)
    (writer : Writer) :
    fragments.foldl append writer = writer.append (String.join fragments) := by
  induction fragments generalizing writer with
  | nil => exact (append_empty writer).symm
  | cons fragment rest ih =>
      rcases isSeamless_cons seamless with ⟨seam, others⟩
      rw [List.foldl_cons, ih others, String.join_cons, append_append writer seam]

/-- Pieces of text are added one after the other. -/
theorem putAll?_texts (writer : Writer) (fragments : List String) :
    writer.putAll? (Piece.texts fragments) = .ok (fragments.foldl append writer) := by
  induction fragments generalizing writer with
  | nil => rfl
  | cons fragment rest ih => exact ih (writer.append fragment)

/-! ## Calls on a writer that is kept -/

/-- Make a call: whether it succeeds, and the writer as it stands afterwards. -/
def call (writer : Writer) (piece : Piece) : Except Fault Unit × Writer :=
  match writer.put? piece with
  | .ok after => (.ok (), after)
  | .error fault => (.error fault, writer)

/-- The writer after calls that are made one after the other. -/
def run (writer : Writer) (calls : List Piece) : Writer :=
  calls.foldl (fun between piece => (between.call piece).2) writer

/-- The calls that are made, each with whether it succeeds. -/
def log : Writer -> List Piece -> List (Piece × Bool)
  | _, [] => []
  | writer, piece :: rest =>
      (piece, (writer.call piece).1.isOk) :: log (writer.call piece).2 rest

/-- The calls that succeed. -/
def successes (writer : Writer) (calls : List Piece) : List Piece :=
  ((writer.log calls).filter (·.2)).map Prod.fst

theorem run_cons (writer : Writer) (piece : Piece) (rest : List Piece) :
    writer.run (piece :: rest) = (writer.call piece).2.run rest := rfl

theorem run_append (writer : Writer) (before behind : List Piece) :
    writer.run (before ++ behind) = (writer.run before).run behind :=
  List.foldl_append

/-- The only call that fails ends a block where none was begun, and it leaves the writer
as it is. -/
theorem call_eq_error {writer : Writer} {piece : Piece} {fault : Fault}
    (failed : (writer.call piece).1 = .error fault) :
    piece = .exit ∧ writer.depth = 0 ∧ fault = .unbalancedBlock (-1) ∧
      (writer.call piece).2 = writer := by
  cases piece with
  | text fragment => cases failed
  | enter => cases failed
  | exit =>
      cases depth : writer.depth with
      | zero =>
          have same : writer.call .exit = (.error (.unbalancedBlock (-1)), writer) := by
            simp only [call, put?, exit?, depth]
          rw [same] at failed ⊢
          exact ⟨rfl, rfl, (Except.error.inj failed).symm, rfl⟩
      | succ below =>
          simp only [call, put?, exit?, depth] at failed
          cases failed

/-- The text of a writer grows. -/
def Extends (later earlier : Writer) : Prop :=
  Exists fun added => later.buffer = earlier.buffer ++ added

theorem Extends.refl (writer : Writer) : writer.Extends writer :=
  ⟨"", String.append_empty.symm⟩

theorem Extends.trans {last between first : Writer} (later : last.Extends between)
    (earlier : between.Extends first) : last.Extends first := by
  rcases later with ⟨behind, grown⟩
  rcases earlier with ⟨before, begun⟩
  exact ⟨before ++ behind, by rw [grown, begun, String.append_assoc]⟩

theorem extends_append (writer : Writer) (fragment : String) :
    (writer.append fragment).Extends writer := by
  by_cases empty : fragment = ""
  · rw [empty, append_empty]
    exact .refl writer
  · rw [append_of_ne writer empty]
    exact ⟨_, String.append_assoc⟩

theorem extends_call (writer : Writer) (piece : Piece) :
    (writer.call piece).2.Extends writer := by
  cases piece with
  | text fragment => exact writer.extends_append fragment
  | enter => exact ⟨"", String.append_empty.symm⟩
  | exit =>
      cases depth : writer.depth with
      | zero =>
          simp only [call, put?, exit?, depth]
          exact .refl writer
      | succ below =>
          simp only [call, put?, exit?, depth]
          exact ⟨"", String.append_empty.symm⟩

theorem extends_run (writer : Writer) (calls : List Piece) :
    (writer.run calls).Extends writer := by
  induction calls generalizing writer with
  | nil => exact .refl writer
  | cons piece rest ih => exact (ih _).trans (writer.extends_call piece)

/-- What a call adds to the depth or takes from it. -/
theorem depth_call (writer : Writer) (piece : Piece) :
    (writer.call piece).2.depth + [(piece, (writer.call piece).1.isOk)].count (.exit, true) =
      writer.depth + [piece].count .enter := by
  cases piece with
  | text fragment => exact Piece.depth_append writer fragment
  | enter => rfl
  | exit =>
      cases depth : writer.depth with
      | zero =>
          simp only [call, put?, exit?, depth]
          rfl
      | succ below =>
          simp only [call, put?, exit?, depth]
          rfl

/-- The depth keeps account of the blocks that were begun and of those that were ended. -/
theorem depth_run (writer : Writer) (calls : List Piece) :
    (writer.run calls).depth + (writer.log calls).count (.exit, true) =
      writer.depth + calls.count .enter := by
  induction calls generalizing writer with
  | nil => rfl
  | cons piece rest ih =>
      have step := writer.depth_call piece
      have others := ih (writer.call piece).2
      simp only [run_cons, log, List.count_cons, List.count_nil] at step ⊢
      omega

theorem finish?_eq_ok_iff (writer : Writer) (text : String) :
    writer.finish? = .ok text ↔ writer.depth = 0 ∧ text = writer.buffer := by
  rw [finish?]
  split
  · rename_i even
    simp [even, eq_comm]
  · rename_i uneven
    simp [uneven]

/-- The calls that succeed lead to the same writer without any fault, so those that fail
might as well not have been made. -/
theorem putAll?_successes (writer : Writer) (calls : List Piece) :
    writer.putAll? (writer.successes calls) = .ok (writer.run calls) := by
  induction calls generalizing writer with
  | nil => rfl
  | cons piece rest ih =>
      have others := ih (writer.call piece).2
      rw [run_cons, ← others, successes, log]
      cases answer : (writer.call piece).1 with
      | error fault =>
          rw [(call_eq_error answer).2.2.2]
          rfl
      | ok done =>
          have put : writer.put? piece = .ok (writer.call piece).2 := by
            rw [call] at answer ⊢
            split at answer
            · rename_i after written
              rw [written]
            · cases answer
          rw [List.filter_cons_of_pos rfl, List.map_cons]
          change writer.put? piece >>= _ = _
          rw [put]
          rfl

/-- Where a text is cut into fragments makes no difference, to no part of the writer.
Over any calls on a writer that is kept, what is written stays and more comes behind it;
a call that fails, which only the end of a block can, changes nothing, and without it the
calls go the same way; and a new writer gives its text out exactly when as many blocks
were ended as were begun. -/
theorem cuts_and_failures_leave_no_trace :
    (forall (writer : Writer) (fragments : List String), IsSeamless fragments ->
      fragments.foldl append writer = writer.append (String.join fragments)) ∧
    (forall (writer : Writer) (before behind : List Piece), Exists fun added =>
      (writer.run (before ++ behind)).buffer = (writer.run before).buffer ++ added) ∧
    (forall (writer : Writer) (piece : Piece) (fault : Fault),
      (writer.call piece).1 = .error fault ->
        piece = .exit ∧ writer.depth = 0 ∧ (writer.call piece).2 = writer) ∧
    (forall (writer : Writer) (calls : List Piece),
      writer.putAll? (writer.successes calls) = .ok (writer.run calls)) ∧
    forall calls : List Piece,
      (Exists fun text => (empty.run calls).finish? = .ok text) ↔
        (empty.log calls).count (.exit, true) = calls.count .enter := by
  refine ⟨fun writer _ seamless => foldl_append_of_isSeamless seamless writer, ?_, ?_,
    putAll?_successes, ?_⟩
  · intro writer before behind
    rw [run_append]
    exact extends_run _ behind
  · intro writer piece fault failed
    rcases call_eq_error failed with ⟨ended, depth, _, same⟩
    exact ⟨ended, depth, same⟩
  · intro calls
    have account : (empty.run calls).depth + (empty.log calls).count (.exit, true) =
        0 + calls.count .enter := depth_run empty calls
    simp only [finish?_eq_ok_iff, exists_and_left, exists_eq, and_true]
    omega

/-- A declaration in a block that is ended once too often: cut into fragments it is the
same line, and the end that fails leaves the writer as it is. -/
theorem declaration_cut_and_ended_twice :
    IsSeamless ["", "left", ": ", "", "8px", ";\n", ""] ∧
    ["", "left", ": ", "", "8px", ";\n", ""].foldl append ⟨"div \x7b\n", 1, true⟩ =
      ⟨"div \x7b\n  left: 8px;\n", 1, true⟩ ∧
    (empty.call .exit).1 = .error (.unbalancedBlock (-1)) ∧
    (empty.call .exit).2 = empty := by
  have seamless : IsSeamless ["", "left", ": ", "", "8px", ";\n", ""] := by decide
  have failed : (empty.call .exit).1 = .error (.unbalancedBlock (-1)) := rfl
  rcases cuts_and_failures_leave_no_trace with ⟨cuts, _, failures, _, _⟩
  refine ⟨seamless, ?_, failed, (failures empty .exit _ failed).2.2⟩
  rw [cuts _ _ seamless]
  decide

end Writer
end SceneMarkup
