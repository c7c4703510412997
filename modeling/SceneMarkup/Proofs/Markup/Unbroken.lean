import SceneMarkup.Proofs.Markup.Lines
import SceneMarkup.Proofs.Naming.ClassNames

namespace SceneMarkup

/-!
# Nothing breaks a line

What a scene says goes into markup in two ways.  Names are spelled from letters, and the
tags and classes made from them add nothing that breaks a line.  Characters are escaped,
and every run of breaks among them turns into an element.  So neither a layer's name nor
what it says gets a line of markup broken.
-/

theorem unbroken_of_class {text : String} (plain : IsClassText text.toList) : Unbroken text := by
  rw [Unbroken, unbrokenLetters_iff]
  intro char member
  rw [Escape.isBreak, Bool.or_eq_false_iff, beq_eq_false_iff_ne, beq_eq_false_iff_ne]
  exact ⟨bne_iff_ne.mp (plain.bne (by decide) char member),
    bne_iff_ne.mp (plain.bne (by decide) char member)⟩

theorem digitString_class (number : Nat) : IsClassText (Number.digitString number).toList := by
  rw [Number.digitString, String.toList_ofList]
  intro char member
  have digit := Nat.isDigit_of_mem_toDigits (by decide) (by decide) member
  exact Or.inl (by simp [Char.isAlphanum, digit])

theorem digitString_unbroken (number : Nat) : Unbroken (Number.digitString number) :=
  unbroken_of_class (digitString_class number)

theorem wholeString_unbroken (value : Int) : Unbroken (Number.wholeString value) := by
  rw [Number.wholeString, unbroken_append_iff]
  refine ⟨?_, digitString_unbroken _⟩
  split <;> rfl

theorem Escape.reference_unbroken {char : Char} (plain : isBreak char = false) :
    UnbrokenLetters (reference char) := by
  rw [reference]
  split
  · rfl
  split
  · rfl
  split
  · rfl
  split
  · rfl
  split
  · rfl
  · exact (unbrokenLetters_iff _).mpr (List.forall_mem_singleton.mpr plain)

theorem Escape.escapeFrom_unbroken (characters : List Char) (inRun : Bool) :
    UnbrokenLetters (escapeFrom inRun characters) := by
  induction characters generalizing inRun with
  | nil => rfl
  | cons char rest ih =>
      rw [escapeFrom]
      split
      · refine UnbrokenLetters.append ?_ (ih true)
        cases inRun <;> rfl
      · rename_i plain
        exact (reference_unbroken (Bool.eq_false_iff.mpr plain)).append (ih false)

/-- Escaped characters stay on their line. -/
theorem Escape.text_unbroken (characters : String) : Unbroken (Escape.text characters) := by
  rw [Unbroken, text, String.toList_ofList]
  exact escapeFrom_unbroken _ false

theorem Identifier.capitalizeParts_class (letters : List Char) (plain : IsClassText letters)
    (atStart : Bool) : IsClassText (capitalizeParts atStart letters) := by
  induction letters generalizing atStart with
  | nil => exact plain
  | cons char rest ih =>
      rw [IsClassText, List.forall_mem_cons] at plain
      rw [capitalizeParts, IsClassText, List.forall_mem_cons]
      refine ⟨?_, ih plain.2 _⟩
      split
      · rcases plain.1 with letter | same | same
        · exact Or.inl ((isAlphanum_toUpper char).trans letter)
        · rw [same]
          decide
        · rw [same]
          decide
      · exact plain.1

namespace Scene

variable (scene : Scene) (key : NodeKey)

/-- Where no node is, there is no name. -/
theorem uniqueName_eq_empty {scene : Scene} {key : NodeKey} (outside : ¬ scene.IsNode key) :
    scene.uniqueName key = "" := by
  have alone : scene.ownerChain key = [] := by
    rw [ownerChain, ancestors, Document.ancestors, Document.trail_eq_nil outside]
    rfl
  have beyond : (scene.document key.file).ownNames.length <= key.index := by
    rw [Document.length_ownNames]
    exact Nat.le_of_not_lt outside
  rw [uniqueName, alone, List.nil_append, List.map_singleton, ownName_eq,
    List.getElem?_eq_none beyond]
  rfl

theorem uniqueName_letters : IsClassText (scene.uniqueName key).toList := by
  by_cases valid : scene.IsNode key
  · exact uniqueName_class valid
  · rw [uniqueName_eq_empty valid]
    exact nofun

theorem tagName_letters : IsClassText (scene.tagName key).toList := by
  rw [tagName_eq, String.toList_ofList]
  exact Identifier.capitalizeParts_class _ (uniqueName_letters scene key) true

theorem tagName_unbroken : Unbroken (scene.tagName key) :=
  unbroken_of_class (tagName_letters scene key)

theorem className_letters : IsClassText (scene.className key).toList := by
  have encoded := Identifier.encodeId_class (scene.node key).id
  rw [className_eq, String.toList_append, String.toList_append, String.toList_append]
  exact ((IsClassText.underscore.append encoded).append IsClassText.underscore).append
    (uniqueName_letters scene key)

theorem className_unbroken : Unbroken (scene.className key) :=
  unbroken_of_class (className_letters scene key)

theorem preview_class : IsClassText "_Preview_".toList := by
  simp [IsClassText, IsClassChar]

theorem previewClassName_letters : IsClassText (scene.previewClassName key).toList := by
  rw [previewClassName_eq, String.toList_append]
  exact preview_class.append (uniqueName_letters scene key)

theorem previewClassName_unbroken : Unbroken (scene.previewClassName key) :=
  unbroken_of_class (previewClassName_letters scene key)

theorem moduleAlias_letters (place : Nat) : IsClassText (moduleAlias place).toList := by
  have module : IsClassText "module".toList := by
    simp [IsClassText, IsClassChar]
  rw [moduleAlias, String.toList_append]
  exact module.append (digitString_class place)

theorem ownPreviewTagName_letters : IsClassText (scene.ownPreviewTagName key).toList := by
  rw [ownPreviewTagName, String.toList_append]
  exact preview_class.append (tagName_letters scene key)

theorem previewTagName_unbroken : Unbroken (scene.previewTagName key) := by
  have own := unbroken_of_class (ownPreviewTagName_letters scene key)
  rw [previewTagName_eq]
  cases key.file with
  | main => exact own
  | imported place =>
      rw [qualified, unbroken_append_iff, unbroken_append_iff]
      exact ⟨⟨unbroken_of_class (moduleAlias_letters place), rfl⟩, own⟩

end Scene

theorem previewLayoutAttribute_unbroken (options : Options) (inDeclaration : Bool) :
    Unbroken (previewLayoutAttribute options inDeclaration) := by
  rw [previewLayoutAttribute]
  split
  · rfl
  split
  · rfl
  · rfl

end SceneMarkup
