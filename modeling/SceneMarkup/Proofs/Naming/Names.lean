import SceneMarkup.Naming.Names
import SceneMarkup.Proofs.Index.Scene
import SceneMarkup.Proofs.Naming.Allocation
import SceneMarkup.Proofs.Naming.Spelling

namespace SceneMarkup

/-!
# Derived names tell nodes apart

The own names of a document are distinct, and everything that appears in markup
is derived from them: the name with its owners in front, the capitalized name
under which a layer is declared, and the class.  Each of these derivations keeps
the own name as its last word, so each of them still tells nodes of one document
apart.  Neither the owners nor the id are needed for that, which is why repeated
ids do no harm.

The own name of a position exists for every position of the document.  Positions
outside have no name, so the statements ask that the nodes are there.
-/

/-! ## Own names -/

namespace Document

theorem length_ownNames (document : Document) : document.ownNames.length = document.size := by
  rw [ownNames, Allocation.length_names, List.length_map, nodes, List.length_map]
  exact Array.length_toList

/-- Every node has a name, which is spelled as an identifier. -/
theorem ownNames_isIdentifier {document : Document} {name : String}
    (member : name ∈ document.ownNames) : Identifier.IsIdentifier name := by
  rcases List.getElem?_of_mem member with ⟨position, read⟩
  have inside := (List.getElem?_eq_some_iff.mp read).1
  rw [ownNames, Allocation.length_names] at inside
  rcases Allocation.getElem?_names (List.getElem?_eq_getElem inside) with ⟨own, named, given⟩
  have same : name = own := Option.some.inj (read.symm.trans named)
  rw [same]
  rcases Allocation.spelled_of_mem_assigned given with ⟨candidate, found, spelled⟩
  rw [List.getElem?_map] at found
  rcases Option.map_eq_some_iff.mp found with ⟨node, _, made⟩
  have plain : Identifier.IsIdentifier candidate.base := by
    rw [← made]
    exact Identifier.base_isIdentifier node
  rcases spelled with bare | ⟨ordinal, bare⟩
  · rw [bare]
    exact plain
  · rw [bare]
    exact Identifier.numbered_isIdentifier plain ordinal

end Document

namespace Scene

variable {scene : Scene}

/-- The names that a document is kept with are those of its nodes. -/
theorem ownName_eq (scene : Scene) (key : NodeKey) :
    scene.ownName key = (scene.document key.file).ownNames[key.index]?.getD "" := by
  have stored : (scene.named key.file).names[key.index]? =
      (scene.document key.file).ownNames[key.index]? := by
    rw [(scene.named key.file).names_eq, List.getElem?_toArray]
    rfl
  rw [ownName, stored]
  cases (scene.document key.file).ownNames[key.index]? with
  | none => rfl
  | some name => rfl

theorem getElem?_ownName {key : NodeKey} (valid : scene.IsNode key) :
    (scene.document key.file).ownNames[key.index]? = some (scene.ownName key) := by
  have inside : key.index < (scene.document key.file).ownNames.length := by
    rw [Document.length_ownNames]
    exact valid
  have found := List.getElem?_eq_getElem inside
  rw [ownName_eq, found, Option.getD_some]

theorem ownName_isIdentifier {key : NodeKey} (valid : scene.IsNode key) :
    Identifier.IsIdentifier (scene.ownName key) :=
  Document.ownNames_isIdentifier (List.mem_of_getElem? (getElem?_ownName valid))

/-- Own names tell nodes of one document apart. -/
theorem ownName_injective {first second : NodeKey} (firstValid : scene.IsNode first)
    (secondValid : scene.IsNode second) (sameFile : first.file = second.file)
    (same : scene.ownName first = scene.ownName second) : first = second := by
  have firstName := getElem?_ownName firstValid
  have secondName := getElem?_ownName secondValid
  rw [← sameFile, ← same] at secondName
  exact NodeKey.eq_of_same_place sameFile (Allocation.names_injective firstName secondName)

/-! ## Owners -/

/-- The nodes that a name is made of are there. -/
theorem isNode_of_mem_ownerChain {key owner : NodeKey} (valid : scene.IsNode key)
    (member : owner ∈ scene.ownerChain key) : scene.IsNode owner := by
  rw [ownerChain, List.mem_reverse, List.mem_filter] at member
  rcases (mem_ancestors_iff valid owner).mp member.1 with ⟨sameFile, _, covers⟩
  rw [IsNode, sameFile]
  exact covers.valid

/-- The name of a node ends with its own name, behind an underscore where
anything stands before it. -/
theorem toList_uniqueName (scene : Scene) (key : NodeKey) :
    Exists fun front => Identifier.IsJoint front ∧
      (scene.uniqueName key).toList = front ++ (scene.ownName key).toList := by
  rw [uniqueName, List.map_append, List.map_singleton]
  by_cases empty : (scene.ownerChain key).map scene.ownName = []
  · rw [empty]
    exact ⟨[], Or.inl rfl, rfl⟩
  · rw [String.intercalate_append_of_ne_nil empty (List.cons_ne_nil _ _)]
    refine ⟨_, Or.inr ⟨("_".intercalate ((scene.ownerChain key).map scene.ownName)).toList, rfl⟩, ?_⟩
    rw [String.toList_append, String.toList_append, String.intercalate_singleton]
    rfl

/-- The name of a node begins with an identifier, its own or that of its
outermost owner. -/
theorem uniqueName_begins {key : NodeKey} (valid : scene.IsNode key) :
    Exists fun letters => Exists fun rest => Identifier.IsPlain letters ∧
      (scene.uniqueName key).toList = Identifier.guardDigit letters ++ rest := by
  have nodes : forall owner, owner ∈ scene.ownerChain key ++ [key] -> scene.IsNode owner := by
    intro owner member
    rcases List.mem_append.mp member with above | itself
    · exact isNode_of_mem_ownerChain valid above
    · rw [List.mem_singleton.mp itself]
      exact valid
  rw [uniqueName]
  cases chain : scene.ownerChain key ++ [key] with
  | nil => exact absurd chain (List.append_ne_nil_of_right_ne_nil _ (List.cons_ne_nil _ _))
  | cons first rest =>
      rcases ownName_isIdentifier (nodes first (chain ▸ List.mem_cons_self)) with
        ⟨letters, plain, spelled⟩
      rw [List.map_cons, String.toList_intercalate, List.map_cons, spelled, String.toList_ofList]
      cases (rest.map scene.ownName).map String.toList with
      | nil =>
          refine ⟨letters, [], plain, ?_⟩
          rw [List.intercalate_singleton, List.append_nil, String.toList_ofList]
      | cons next others =>
          refine ⟨letters, "_".toList ++ List.intercalate "_".toList (next :: others), plain, ?_⟩
          rw [List.intercalate_cons_cons, List.append_assoc, String.toList_ofList]
          rfl

/-! ## Names that tell nodes apart -/

/-- Nodes of one document are the same when something derived from their names
keeps the same letters of the last word. -/
theorem eq_of_same_letters {first second : NodeKey} (firstValid : scene.IsNode first)
    (secondValid : scene.IsNode second) (sameFile : first.file = second.file)
    (same : forall firstLetters secondLetters,
      Identifier.IsPlain firstLetters -> Identifier.IsPlain secondLetters ->
      (scene.ownName first).toList = Identifier.guardDigit firstLetters ->
      (scene.ownName second).toList = Identifier.guardDigit secondLetters ->
        firstLetters = secondLetters) : first = second := by
  rcases ownName_isIdentifier firstValid with ⟨firstLetters, firstPlain, firstSpelled⟩
  rcases ownName_isIdentifier secondValid with ⟨secondLetters, secondPlain, secondSpelled⟩
  have letters := same firstLetters secondLetters firstPlain secondPlain
    (by rw [firstSpelled, String.toList_ofList]) (by rw [secondSpelled, String.toList_ofList])
  apply ownName_injective firstValid secondValid sameFile
  rw [firstSpelled, secondSpelled, letters]

theorem lastWord_uniqueName {key : NodeKey} {letters : List Char}
    (plain : Identifier.IsPlain letters)
    (spelled : (scene.ownName key).toList = Identifier.guardDigit letters) (before : List Char)
    (joint : Identifier.IsJoint before) :
    Identifier.lastWord (before ++ (scene.uniqueName key).toList) = letters := by
  rcases toList_uniqueName scene key with ⟨front, frontJoint, whole⟩
  have boundary : Identifier.IsJoint (before ++ front) := by
    rcases frontJoint with empty | ⟨shorter, ends⟩
    · rw [empty, List.append_nil]
      exact joint
    · rw [ends, ← List.append_assoc]
      exact Or.inr ⟨_, rfl⟩
  rw [whole, spelled, ← List.append_assoc]
  exact Identifier.lastWord_append_guardDigit boundary plain.alphanumeric

theorem uniqueName_injective {first second : NodeKey} (firstValid : scene.IsNode first)
    (secondValid : scene.IsNode second) (sameFile : first.file = second.file)
    (same : scene.uniqueName first = scene.uniqueName second) : first = second := by
  apply eq_of_same_letters firstValid secondValid sameFile
  intro firstLetters secondLetters firstPlain secondPlain firstSpelled secondSpelled
  have firstWord := lastWord_uniqueName firstPlain firstSpelled [] (Or.inl rfl)
  have secondWord := lastWord_uniqueName secondPlain secondSpelled [] (Or.inl rfl)
  rw [← firstWord, ← secondWord, same]

/-- Layers of one document are declared under different names. -/
theorem tagName_injective {first second : NodeKey} (firstValid : scene.IsNode first)
    (secondValid : scene.IsNode second) (sameFile : first.file = second.file)
    (same : scene.tagName first = scene.tagName second) : first = second := by
  apply eq_of_same_letters firstValid secondValid sameFile
  intro firstLetters secondLetters firstPlain secondPlain firstSpelled secondSpelled
  -- The capitalized letters can be read off the tag.
  have word : forall key letters, Identifier.IsPlain letters ->
      (scene.ownName key).toList = Identifier.guardDigit letters ->
        Identifier.lastWord (scene.tagName key).toList = letters.modifyHead Char.toUpper := by
    intro key letters plain spelled
    rcases toList_uniqueName scene key with ⟨front, joint, whole⟩
    rw [tagName_eq, String.toList_ofList, whole, spelled]
    exact Identifier.lastWord_capitalizeParts joint plain.alphanumeric
  apply Identifier.modifyHead_toUpper_injective firstPlain secondPlain
  rw [← word first firstLetters firstPlain firstSpelled,
    ← word second secondLetters secondPlain secondSpelled, same]

/-- Nodes of one document have different classes, whatever their ids are. -/
theorem className_injective {first second : NodeKey} (firstValid : scene.IsNode first)
    (secondValid : scene.IsNode second) (sameFile : first.file = second.file)
    (same : scene.className first = scene.className second) : first = second := by
  apply eq_of_same_letters firstValid secondValid sameFile
  intro firstLetters secondLetters firstPlain secondPlain firstSpelled secondSpelled
  have word : forall key letters, Identifier.IsPlain letters ->
      (scene.ownName key).toList = Identifier.guardDigit letters ->
        Identifier.lastWord (scene.className key).toList = letters := by
    intro key letters plain spelled
    have joint : Identifier.IsJoint
        ("_" ++ Identifier.encodeId (scene.node key).id ++ "_").toList := by
      rw [String.toList_append]
      exact Or.inr ⟨_, rfl⟩
    rw [className_eq, String.toList_append]
    exact lastWord_uniqueName plain spelled _ joint
  rw [← word first firstLetters firstPlain firstSpelled,
    ← word second secondLetters secondPlain secondSpelled, same]

theorem ownPreviewTagName_injective {first second : NodeKey} (firstValid : scene.IsNode first)
    (secondValid : scene.IsNode second) (sameFile : first.file = second.file)
    (same : scene.ownPreviewTagName first = scene.ownPreviewTagName second) : first = second := by
  rw [ownPreviewTagName, ownPreviewTagName, String.append_right_inj] at same
  exact tagName_injective firstValid secondValid sameFile same

/-- No layer is declared under the name of a preview.  A name that begins with an
underscore continues with a digit. -/
theorem tagName_ne_ownPreviewTagName {layer : NodeKey} (valid : scene.IsNode layer)
    (component : NodeKey) : ¬ scene.tagName layer = scene.ownPreviewTagName component := by
  intro same
  rcases uniqueName_begins valid with ⟨letters, rest, plain, whole⟩
  have begins := congrArg String.toList same
  rw [tagName_eq, String.toList_ofList, whole, ownPreviewTagName, String.toList_append] at begins
  cases letters with
  | nil => exact plain.nonempty rfl
  | cons first others =>
      have letter := plain.alphanumeric first List.mem_cons_self
      rw [Identifier.guardDigit] at begins
      split at begins
      · rename_i digit
        have second : first.toUpper = 'P' := by
          have chars := congrArg (fun chars => chars[1]?) begins
          exact Option.some.inj chars
        have stays := Identifier.isDigit_toUpper first
        rw [second, digit] at stays
        cases stays
      · have head : first.toUpper = '_' := by
          have chars := congrArg List.head? begins
          exact Option.some.inj chars
        apply Identifier.ne_underscore_of_isAlphanum _ head
        rw [Identifier.isAlphanum_toUpper]
        exact letter

end Scene
end SceneMarkup
