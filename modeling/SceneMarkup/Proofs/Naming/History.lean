import SceneMarkup.Naming.Register
import SceneMarkup.Proofs.Index.Flattening
import SceneMarkup.Proofs.Naming.ClassNames
import SceneMarkup.Proofs.Naming.Documents

namespace SceneMarkup

/-!
# Names do not depend on what was asked before

A register gives names from memory and builds the ones it does not remember behind
those that it does.  What it answers is nevertheless the name that the scene gives
to the node, after any history.  The invariant is that everything remembered is
true of the scene; it is empty at the start, and a name that is added is the own
name of a node behind the true name of its owner.

That is also why the way outwards may end early.  The name at which it ends
already contains the names of all owners beyond.
-/

/-! ## One owner at a time -/

/-- The owners of a position are those of its nearest owner, and this one. -/
theorem Document.ownerChain_eq_of_owner (document : Document) (index : Nat) :
    document.ownerChain index = match document.ownerComponent? index with
      | some owner => document.ownerChain owner ++ [owner]
      | none => [] := by
  have sought : document.ownerComponent? index =
      (document.ancestors index).find? fun ancestor => (document.node ancestor).isComponent := rfl
  rw [ownerChain, sought]
  cases nearest : (document.ancestors index).find? fun ancestor =>
      (document.node ancestor).isComponent with
  | none =>
      rw [List.filter_eq_nil_iff.mpr (List.find?_eq_none.mp nearest)]
      rfl
  | some owner =>
      rcases List.find?_eq_some_iff_append.mp nearest with ⟨component, nearer, beyond, leads, others⟩
      have skipped :
          nearer.filter (fun ancestor => (document.node ancestor).isComponent) = [] := by
        rw [List.filter_eq_nil_iff]
        intro other member typed
        have plain := others other member
        rw [typed] at plain
        cases plain
      have kept : (owner :: beyond).filter (fun ancestor => (document.node ancestor).isComponent) =
          owner :: beyond.filter fun ancestor => (document.node ancestor).isComponent :=
        List.filter_cons_of_pos component
      rw [leads, List.filter_append, skipped, List.nil_append, kept, List.reverse_cons,
        ancestors_of_split nearer index leads]
      rfl

namespace Scene

/-- The owners of a node are those of its nearest owner, and this one. -/
theorem ownerChain_eq_of_owner (scene : Scene) (key : NodeKey) :
    scene.ownerChain key = match scene.ownerComponent? key with
      | some owner => scene.ownerChain owner ++ [owner]
      | none => [] := by
  rcases key with ⟨file, index⟩
  rw [ownerChain_eq, ownerComponent?, Document.ownerChain_eq_of_owner]
  dsimp only
  cases (scene.document file).ownerComponent? index with
  | none => rfl
  | some owner =>
      dsimp only [Option.map_some]
      rw [ownerChain_eq, List.map_append, List.map_singleton]

/-- The name of a node is its own name behind the name of its nearest owner. -/
theorem uniqueName_eq_behind (scene : Scene) (key : NodeKey) :
    scene.uniqueName key =
      NameRegister.behind ((scene.ownerComponent? key).map scene.uniqueName)
        (scene.ownName key) := by
  rw [uniqueName, ownerChain_eq_of_owner]
  cases scene.ownerComponent? key with
  | none => rfl
  | some owner =>
      have named : (scene.ownerChain owner ++ [owner]).map scene.ownName ≠ [] := by
        rw [List.map_append]
        exact List.append_ne_nil_of_right_ne_nil _ (List.cons_ne_nil _ _)
      dsimp only
      rw [List.map_append, List.map_singleton,
        String.intercalate_append_of_ne_nil named (List.cons_ne_nil _ _),
        String.intercalate_singleton]
      rfl

end Scene

namespace NameRegister

variable {scene : Scene} {register : NameRegister}

/-- Everything that a register remembers is true of the scene. -/
structure Faithful (scene : Scene) (register : NameRegister) : Prop where
  given : forall key name, (key, name) ∈ register.given -> name = scene.uniqueName key
  tables : forall file names, (file, names) ∈ register.tables ->
    names = (scene.document file).ownNames

theorem empty_faithful (scene : Scene) : Faithful scene empty where
  given := fun _ _ impossible => nomatch impossible
  tables := fun _ _ impossible => nomatch impossible

/-! ## One name -/

theorem Faithful.name?_eq (faithful : Faithful scene register) {key : NodeKey} {name : String}
    (known : register.name? key = some name) : name = scene.uniqueName key :=
  faithful.given key name (mem_of_lookup known)

theorem Faithful.give (faithful : Faithful scene register) (key : NodeKey) :
    Faithful scene (register.give key (scene.uniqueName key)) where
  given := by
    intro other name member
    rcases List.mem_cons.mp member with here | before
    · rcases Prod.mk.inj here with ⟨sameKey, sameName⟩
      rw [sameKey, sameName]
    · exact faithful.given other name before
  tables := faithful.tables

theorem Faithful.table (faithful : Faithful scene register) (file : FileRef) :
    (register.table scene file).1 = (scene.document file).ownNames ∧
      Faithful scene (register.table scene file).2 := by
  rw [NameRegister.table]
  cases kept : register.tables.lookup file with
  | some names => exact ⟨faithful.tables file names (mem_of_lookup kept), faithful⟩
  | none =>
      refine ⟨rfl, faithful.given, ?_⟩
      intro other names member
      rcases List.mem_cons.mp member with here | before
      · rcases Prod.mk.inj here with ⟨sameFile, sameNames⟩
        rw [sameFile, sameNames]
      · exact faithful.tables other names before

theorem Faithful.ownName (faithful : Faithful scene register) (key : NodeKey) :
    (register.ownName scene key).1 = scene.ownName key ∧
      Faithful scene (register.ownName scene key).2 := by
  rcases faithful.table key.file with ⟨names, kept⟩
  rw [Scene.ownName_eq, ← names]
  exact ⟨rfl, kept⟩

/-- One step of the way back names a node, if the step before named its owner.
What the step before did does not matter for a node whose name is known. -/
theorem nameBehind_spec (key : NodeKey) {state : Option String × NameRegister}
    (faithful : Faithful scene state.2)
    (owner : state.2.name? key = none ->
      state.1 = (scene.ownerComponent? key).map scene.uniqueName) :
    (nameBehind scene key state).1 = some (scene.uniqueName key) ∧
      Faithful scene (nameBehind scene key state).2 := by
  rcases state with ⟨front, register⟩
  dsimp only at faithful owner
  rw [nameBehind]
  cases known : register.name? key with
  | some name => exact ⟨congrArg some (faithful.name?_eq known), faithful⟩
  | none =>
      rcases faithful.ownName key with ⟨own, kept⟩
      have built : behind front (register.ownName scene key).1 = scene.uniqueName key := by
        rw [own, owner known, ← Scene.uniqueName_eq_behind]
      dsimp only
      rw [built]
      exact ⟨rfl, kept.give key⟩

/-- The whole way back: the owner before a node is named when its turn comes. -/
theorem foldr_ownersToName_spec (faithful : Faithful scene register) (key : NodeKey) :
    let state := (register.ownersToName scene key).foldr (nameBehind scene) (none, register)
    state.1 = (scene.ownerComponent? key).map scene.uniqueName ∧ Faithful scene state.2 := by
  dsimp only
  induction key using ownersToName.induct scene register with
  | case1 key outermost =>
      rw [ownersToName_eq, outermost]
      exact ⟨rfl, faithful⟩
  | case2 key owner found known =>
      rw [ownersToName_eq, found]
      dsimp only
      rw [if_pos known]
      apply nameBehind_spec owner faithful
      intro unknown
      rw [List.foldr_nil] at unknown
      rw [unknown] at known
      cases known
  | case3 key owner found unknown ih =>
      rw [ownersToName_eq, found]
      dsimp only
      rw [if_neg unknown]
      exact nameBehind_spec owner ih.2 fun _ => ih.1

theorem Faithful.uniqueName (faithful : Faithful scene register) (key : NodeKey) :
    (register.uniqueName scene key).1 = scene.uniqueName key ∧
      Faithful scene (register.uniqueName scene key).2 := by
  rw [NameRegister.uniqueName]
  cases known : register.name? key with
  | some name => exact ⟨faithful.name?_eq known, faithful⟩
  | none =>
      rcases foldr_ownersToName_spec faithful key with ⟨owner, kept⟩
      rcases nameBehind_spec key kept fun _ => owner with ⟨name, after⟩
      exact ⟨congrArg (Option.getD · "") name, after⟩

/-! ## Histories -/

/-- One request: the answer is the name that the scene gives, and what is
remembered stays true. -/
theorem Faithful.answer (faithful : Faithful scene register) (request : NameRequest) :
    (register.answer scene request).1 = scene.nameFor request.key request.use ∧
      Faithful scene (register.answer scene request).2 := by
  rcases faithful.uniqueName request.key with ⟨name, after⟩
  exact ⟨congrArg (scene.spell request.key · request.use) name, after⟩

/-- Any number of requests. -/
theorem Faithful.answers (requests : List NameRequest) :
    forall {register : NameRegister}, Faithful scene register ->
      (register.answers scene requests).1 =
          requests.map (fun request => scene.nameFor request.key request.use) ∧
        Faithful scene (register.answers scene requests).2 := by
  induction requests with
  | nil =>
      intro register faithful
      exact ⟨rfl, faithful⟩
  | cons request rest ih =>
      intro register faithful
      rcases faithful.answer request with ⟨name, next⟩
      rcases ih next with ⟨names, last⟩
      exact ⟨congrArg₂ List.cons name names, last⟩

/-- What is answered to a request after a history of others. -/
def answerAfter (scene : Scene) (history : List NameRequest) (key : NodeKey) (use : NameUse) :
    String :=
  (((empty.answers scene history).2).answer scene ⟨key, use⟩).1

theorem answerAfter_eq (scene : Scene) (history : List NameRequest) (key : NodeKey)
    (use : NameUse) : answerAfter scene history key use = scene.nameFor key use :=
  ((empty_faithful scene).answers history |>.2.answer ⟨key, use⟩).1

/-- The answers about two nodes differ, each after a history of its own, whatever
the names are needed for. -/
structure ToldApart (scene : Scene) (history otherHistory : List NameRequest)
    (key other : NodeKey) : Prop where
  plain : answerAfter scene history key .plain ≠ answerAfter scene otherHistory other .plain
  tag : answerAfter scene history key .tag ≠ answerAfter scene otherHistory other .tag
  styleClass :
    answerAfter scene history key .styleClass ≠ answerAfter scene otherHistory other .styleClass
  exportFile : forall setting otherSetting,
    answerAfter scene history key (.exportFile setting) ≠
      answerAfter scene otherHistory other (.exportFile otherSetting)

/-- After any history a node is called by the own names of the components around it
and its own, and different nodes of one document are told apart. -/
theorem names_independent_of_history (scene : Scene) (history : List NameRequest)
    (key : NodeKey) :
    answerAfter scene history key .plain =
        "_".intercalate ((scene.ownerChain key ++ [key]).map scene.ownName) ∧
      (forall use, answerAfter scene history key use = scene.nameFor key use) ∧
      forall otherHistory other, scene.IsNode key -> scene.IsNode other ->
        key.file = other.file -> key ≠ other ->
          ToldApart scene history otherHistory key other := by
  refine ⟨answerAfter_eq scene history key .plain, answerAfter_eq scene history key, ?_⟩
  intro otherHistory other valid otherValid sameFile different
  constructor
  · rw [answerAfter_eq, answerAfter_eq]
    exact fun same => different (Scene.uniqueName_injective valid otherValid sameFile same)
  · rw [answerAfter_eq, answerAfter_eq]
    exact fun same => different (Scene.tagName_injective valid otherValid sameFile same)
  · rw [answerAfter_eq, answerAfter_eq]
    exact fun same => different (Scene.className_injective valid otherValid sameFile same)
  · intro setting otherSetting
    rw [answerAfter_eq, answerAfter_eq]
    exact fun same => different (Scene.eq_of_exportFileName_eq valid otherValid sameFile same)

/-- A card with a badge inside, in which two dots share an id. -/
def badges : Scene where
  main := .ofDocument <| .ofRoot <|
    .container "1:1" "Card" (.component false .blank)
      [ .container "1:2" "Badge" (.component false .blank)
          [.leaf "1:3" "Dot" (.shape .vector .blank), .leaf "1:3" "dot" (.shape .vector .blank)] ]
  imports := []

/-- What may have been asked before the second dot: the badge and the first dot. -/
def badgeRequests : List NameRequest :=
  [⟨⟨.main, 1⟩, .previewTag⟩, ⟨⟨.main, 2⟩, .styleClass⟩]

/-- The first dot is asked about when nothing is known, the second one when the badge
and the first dot have their names. -/
theorem badges_told_apart :
    (badges.node ⟨.main, 2⟩).id = (badges.node ⟨.main, 3⟩).id ∧
      answerAfter badges badgeRequests ⟨.main, 3⟩ .plain = "card_badge_dot2" ∧
      ToldApart badges [] badgeRequests ⟨.main, 2⟩ ⟨.main, 3⟩ := by
  refine ⟨by decide, by decide, ?_⟩
  exact (names_independent_of_history badges [] ⟨.main, 2⟩).2.2 badgeRequests ⟨.main, 3⟩
    (by decide) (by decide) rfl (by decide)

end NameRegister
end SceneMarkup
