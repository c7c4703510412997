import SceneMarkup.Proofs.Index.Depth
import SceneMarkup.Proofs.Naming.EncodedIds

namespace SceneMarkup

/-!
# Names across files

A name is computed within one document and tells its nodes apart there.  The markup
of a scene refers to nodes of several documents, though.  The tag of a preview has
the alias of an imported file in front, and no alias occurs twice, so these tags
tell the nodes of all files apart.

A class says nothing of the file.  It is made of the id and the name alone, and two
files may use the same of both.  The main result says when classes of different
files agree: in this case, and where the end of one id reads like the front of the
other name.
-/

namespace Scene

variable {scene : Scene}

/-! ## Tags -/

theorem moduleAlias_injective {first second : Nat}
    (same : moduleAlias first = moduleAlias second) : first = second :=
  Allocation.numbered_injective "module" same

/-- No colon occurs in an alias. -/
theorem bne_colon_of_mem_moduleAlias (place : Nat) (char : Char)
    (member : char ∈ (moduleAlias place).toList) : (char != ':') = true := by
  rw [moduleAlias, String.toList_append] at member
  rcases List.mem_append.mp member with word | digits
  · have letters : "module".toList.all (· != ':') = true := rfl
    exact List.all_eq_true.mp letters char word
  · rw [Number.digitString, String.toList_ofList] at digits
    have isDigit := Nat.isDigit_of_mem_toDigits (by decide) (by decide) digits
    rw [bne_iff_ne]
    intro colon
    rw [colon] at isDigit
    exact absurd isDigit (by decide)

theorem qualified_injective {first second : Nat} {firstTag secondTag : String}
    (same : moduleAlias first ++ ":" ++ firstTag = moduleAlias second ++ ":" ++ secondTag) :
    first = second ∧ firstTag = secondTag := by
  have letters := congrArg String.toList same
  simp only [String.toList_append, List.append_assoc] at letters
  rcases append_inj_of_takeWhile (bne_colon_of_mem_moduleAlias first)
    (bne_colon_of_mem_moduleAlias second) rfl rfl letters with ⟨aliases, tags⟩
  exact ⟨moduleAlias_injective (String.toList_inj.mp aliases),
    String.toList_inj.mp (List.cons.inj tags).2⟩

/-- A tag without an alias is none with an alias. -/
theorem ownPreviewTagName_ne_qualified (key : NodeKey) (place : Nat) (tag : String) :
    scene.ownPreviewTagName key ≠ moduleAlias place ++ ":" ++ tag := by
  intro same
  have heads := congrArg (fun text => text.toList.head?) same
  simp only [ownPreviewTagName, moduleAlias, String.toList_append] at heads
  cases heads

/-- The tags of previews tell the nodes of all files apart. -/
theorem previewTagName_injective {first second : NodeKey} (firstValid : scene.IsNode first)
    (secondValid : scene.IsNode second)
    (same : scene.previewTagName first = scene.previewTagName second) : first = second := by
  rw [previewTagName_eq, previewTagName_eq] at same
  cases firstFile : first.file with
  | main =>
      cases secondFile : second.file with
      | main =>
          rw [firstFile, secondFile] at same
          exact ownPreviewTagName_injective firstValid secondValid
            (firstFile.trans secondFile.symm) same
      | imported place =>
          rw [firstFile, secondFile] at same
          exact absurd same (ownPreviewTagName_ne_qualified first place _)
  | imported place =>
      cases secondFile : second.file with
      | main =>
          rw [firstFile, secondFile] at same
          exact absurd same.symm (ownPreviewTagName_ne_qualified second place _)
      | imported other =>
          rw [firstFile, secondFile] at same
          rcases qualified_injective same with ⟨places, tags⟩
          have sameFile : first.file = second.file := by
            rw [firstFile, secondFile, places]
          exact ownPreviewTagName_injective firstValid secondValid sameFile tags

/-! ## Classes -/

/-- Two nodes have one id and one name. -/
def Alike (scene : Scene) (first second : NodeKey) : Prop :=
  (scene.node first).id = (scene.node second).id ∧
    scene.uniqueName first = scene.uniqueName second

/-- What the encoded id of the second node has behind that of the first, the name of
the first has in front of that of the second. -/
def BorrowsFront (scene : Scene) (first second : NodeKey) : Prop :=
  Exists fun front =>
    Identifier.encodeId (scene.node second).id =
        Identifier.encodeId (scene.node first).id ++ "_" ++ front ∧
      scene.uniqueName first = front ++ "_" ++ scene.uniqueName second

theorem className_eq_of_alike {first second : NodeKey} (alike : scene.Alike first second) :
    scene.className first = scene.className second := by
  rw [className_eq, className_eq, alike.1, alike.2]

theorem className_eq_of_borrowsFront {first second : NodeKey}
    (borrows : scene.BorrowsFront first second) :
    scene.className first = scene.className second := by
  rcases borrows with ⟨front, ids, names⟩
  rw [className_eq, className_eq, ids, names]
  simp only [String.append_assoc]

theorem toList_underscore_append (text : String) : ("_" ++ text).toList = '_' :: text.toList := by
  rw [String.toList_append]
  rfl

theorem toList_className (key : NodeKey) :
    (scene.className key).toList = '_' :: ((Identifier.encodeId (scene.node key).id).toList ++
      '_' :: (scene.uniqueName key).toList) := by
  rw [className_eq, String.append_assoc, String.append_assoc, toList_underscore_append,
    String.toList_append, toList_underscore_append]

/-- In one class read in two ways, both ids end at the same place, or the second one
reaches into the name behind the first. -/
theorem alike_or_borrowsFront {first second : NodeKey} {more : List Char}
    (ids : (Identifier.encodeId (scene.node second).id).toList =
      (Identifier.encodeId (scene.node first).id).toList ++ more)
    (names : '_' :: (scene.uniqueName first).toList =
      more ++ '_' :: (scene.uniqueName second).toList) :
    scene.Alike first second ∨ scene.BorrowsFront first second := by
  cases more with
  | nil =>
      rw [List.append_nil] at ids
      have encoded := String.toList_inj.mp ids
      exact Or.inl ⟨(Identifier.encodeId_injective encoded).symm,
        String.toList_inj.mp (List.cons.inj names).2⟩
  | cons char front =>
      rw [List.cons_append, List.cons.injEq] at names
      rcases names with ⟨underscore, rest⟩
      refine Or.inr ⟨String.ofList front, ?_, ?_⟩
      · apply String.toList_inj.mp
        rw [ids, ← underscore, String.append_assoc, String.toList_append,
          toList_underscore_append, String.toList_ofList]
      · apply String.toList_inj.mp
        rw [rest, String.append_assoc, String.toList_append, toList_underscore_append,
          String.toList_ofList]

theorem alike_or_borrowsFront_of_className_eq {first second : NodeKey}
    (same : scene.className first = scene.className second) :
    scene.Alike first second ∨ scene.BorrowsFront first second ∨
      scene.BorrowsFront second first := by
  have letters := congrArg String.toList same
  rw [toList_className, toList_className] at letters
  rcases List.append_eq_append_iff.mp (List.cons.inj letters).2 with
    ⟨more, ids, names⟩ | ⟨more, ids, names⟩
  · rcases alike_or_borrowsFront ids names with alike | borrows
    · exact Or.inl alike
    · exact Or.inr (Or.inl borrows)
  · rcases alike_or_borrowsFront ids names with alike | borrows
    · exact Or.inl ⟨alike.1.symm, alike.2.symm⟩
    · exact Or.inr (Or.inr borrows)

/-- Two nodes have one class exactly if they are the same, or lie in different files
and have one id and one name there, or an id and a name that fit together. -/
theorem className_eq_iff {first second : NodeKey} (firstValid : scene.IsNode first)
    (secondValid : scene.IsNode second) :
    scene.className first = scene.className second ↔
      first = second ∨
        (first.file ≠ second.file ∧
          (scene.Alike first second ∨ scene.BorrowsFront first second ∨
            scene.BorrowsFront second first)) := by
  constructor
  · intro same
    by_cases sameFile : first.file = second.file
    · exact Or.inl (className_injective firstValid secondValid sameFile same)
    · exact Or.inr ⟨sameFile, alike_or_borrowsFront_of_className_eq same⟩
  · rintro (same | ⟨_, alike | borrows | borrows⟩)
    · rw [same]
    · exact className_eq_of_alike alike
    · exact className_eq_of_borrowsFront borrows
    · exact (className_eq_of_borrowsFront borrows).symm

-- An id may go on like a name that begins with a digit, which an underscore guards.
example :
    (ofTrees (.container "0:0" "Document" .document
        [.container "1;2" "Dot" (.component false .blank) []])
      (OrderedMap.ofList [("lib/dots.pc", ⟨OrderedMap.empty, .container "0:0" "Document" .document
        [.container "3" "2" (.component false .blank)
          [.leaf "1" "Dot" (.rectangle none .blank)]]⟩)])).BorrowsFront
      ⟨.imported 0, 2⟩ ⟨.main, 1⟩ :=
  ⟨"_2", by decide +kernel, by decide +kernel⟩

/-- A document with a button and a library with another one. -/
def twoButtons (mainId libraryId : String) : Scene :=
  ofTrees (.container "0:0" "Document" .document
      [.container mainId "Button" (.component false .blank) []])
    (OrderedMap.ofList [("lib/buttons.pc", ⟨OrderedMap.empty,
      .container "0:0" "Document" .document
        [.container libraryId "Button" (.component false .blank) []]⟩)])

/-- Buttons with different ids have different classes. -/
theorem buttons_classes_differ :
    (twoButtons "1:1" "2:1").className ⟨.main, 1⟩ ≠
      (twoButtons "1:1" "2:1").className ⟨.imported 0, 1⟩ := by
  have valid : (twoButtons "1:1" "2:1").IsNode ⟨.main, 1⟩ := by decide +kernel
  have otherValid : (twoButtons "1:1" "2:1").IsNode ⟨.imported 0, 1⟩ := by decide +kernel
  intro shared
  rcases (className_eq_iff valid otherValid).mp shared with
    same | ⟨_, ⟨ids, _⟩ | ⟨front, ids, _⟩ | ⟨front, ids, _⟩⟩
  · exact absurd same (by decide)
  · exact absurd ids (by decide)
  · have heads := congrArg (fun text => text.toList.head?) ids
    rw [String.append_assoc, String.toList_append] at heads
    cases heads
  · have heads := congrArg (fun text => text.toList.head?) ids
    rw [String.append_assoc, String.toList_append] at heads
    cases heads

/-- Where the library happens to use the same id, the buttons share a class. -/
theorem buttons_share_class :
    ¬ forall (scene : Scene) (first second : NodeKey), scene.IsNode first ->
      scene.IsNode second -> first.file ≠ second.file ->
        scene.className first ≠ scene.className second := by
  intro apart
  have shared : (twoButtons "1:1" "1:1").className ⟨.main, 1⟩ =
      (twoButtons "1:1" "1:1").className ⟨.imported 0, 1⟩ := by
    decide +kernel
  have valid : (twoButtons "1:1" "1:1").IsNode ⟨.main, 1⟩ := by decide +kernel
  have otherValid : (twoButtons "1:1" "1:1").IsNode ⟨.imported 0, 1⟩ := by decide +kernel
  exact apart _ _ _ valid otherValid (by decide) shared

end Scene
end SceneMarkup
