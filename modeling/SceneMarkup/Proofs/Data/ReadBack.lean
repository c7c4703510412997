import SceneMarkup.Options
import SceneMarkup.Proofs.Data.Tree

namespace SceneMarkup

/-!
# Reading back whole files

Design files, imported files and configurations are objects like the others, around
nodes and maps.  With them everything that is read from data has been followed back
to it, in any form of data.  The result names the two forms there are: a file is read
as it stands, or with its entries sorted.
-/

open Json

theorem FileNaming.ofName?_name (naming : FileNaming) : ofName? naming.name = some naming := by
  cases naming with
  | cased casing => cases casing <;> rfl
  | preserved => rfl

section Files

variable {form : Json -> Json} (isForm : IsForm form)

include isForm

theorem ComponentNote.settles (note : ComponentNote) : Settles form decode? encode note := by
  have distinct : ["key", "name", "description"].Nodup := by decide
  refine isForm.object_settles (fun _ => rfl) rfl distinct fun shown lookup => ?_
  simp only [(isForm.string_settles note.key).defaulted?_eq "" (lookup "key"),
    (isForm.string_settles note.name).defaulted?_eq "" (lookup "name"),
    (isForm.string_settles note.description).defaulted?_eq "" (lookup "description")]
  rfl

theorem DesignFile.steady : Steady form decode? encode := by
  intro json file decoded
  rcases isForm.exists_fields decoded with ⟨given, formed, read⟩
  simp only [Option.bind_eq_bind, Option.bind_eq_some_iff, Option.pure_def, Option.some_inj]
    at read
  rcases read with ⟨name, _, document, documented, components, noted, same⟩
  have documentSettles := formed.settles_of_required? (Node.steady isForm) documented
  have componentsSettle := formed.settles_of_defaulted?
    (isForm.map_steady fun _ note _ => ComponentNote.settles isForm note)
    (isForm.empty_settles _ _) noted
  subst same
  have distinct : ["name", "document", "components"].Nodup := by decide
  refine isForm.object_settles (fun _ => rfl) rfl distinct fun shown lookup => ?_
  simp only [(isForm.string_settles name).defaulted?_eq "" (lookup "name"),
    documentSettles.required?_eq (lookup "document"),
    componentsSettle.defaulted?_eq OrderedMap.empty (lookup "components")]
  rfl

theorem ImportedFile.steady : Steady form decode? encode := by
  intro json file decoded
  rcases isForm.exists_fields decoded with ⟨given, formed, read⟩
  simp only [Option.bind_eq_bind, Option.bind_eq_some_iff, Option.pure_def, Option.some_inj]
    at read
  rcases read with ⟨aliases, aliased, document, documented, same⟩
  have aliasesSettle := formed.settles_of_defaulted?
    (isForm.map_steady fun _ id _ => isForm.string_settles id)
    (isForm.empty_settles _ _) aliased
  have documentSettles := formed.settles_of_required? (Node.steady isForm) documented
  subst same
  have distinct : ["idAliases", "document"].Nodup := by decide
  refine isForm.object_settles (fun _ => rfl) rfl distinct fun shown lookup => ?_
  simp only [aliasesSettle.defaulted?_eq OrderedMap.empty (lookup "idAliases"),
    documentSettles.required?_eq (lookup "document")]
  rfl

theorem Imports.steady : Steady form decode? encode :=
  isForm.map_steady (ImportedFile.steady isForm)

theorem Options.settles (options : Options) : Settles form decode? encode options := by
  have distinct : ["includeAbsoluteLayout", "includePreviews"].Nodup := by decide
  refine isForm.object_settles (fun _ => rfl) rfl distinct fun shown lookup => ?_
  simp only [
    (isForm.bool_settles options.absoluteLayout).defaulted?_eq true
      (lookup "includeAbsoluteLayout"),
    (isForm.bool_settles options.previews).defaulted?_eq true (lookup "includePreviews")]
  rfl

theorem FileNaming.settles (naming : FileNaming) : Settles form decode? encode naming := by
  have settles := isForm.choice_settles naming.name
  refine ⟨?_, settles.notNull⟩
  rw [encode, decode?, settles.read, Option.bind_some, ofName?_name]

theorem Config.settles (config : Config) : Settles form decode? encode config := by
  have distinct : ["compilerOptions", "fileNameFormat"].Nodup := by decide
  refine isForm.object_settles (fun _ => rfl) rfl distinct fun shown lookup => ?_
  simp only [
    (Options.settles isForm config.options).defaulted?_eq Options.standard
      (lookup "compilerOptions"),
    (FileNaming.settles isForm config.naming).defaulted?_eq FileNaming.standard
      (lookup "fileNameFormat")]
  rfl

end Files

/-! ## The two forms -/

/-- What is read from data is read again from what is written for it, as a file gives
it and with its entries sorted. -/
structure Json.ReadsBack (decode : Json -> Option Value) (encode : Value -> Json) : Prop where
  asGiven : forall (json : Json) (value : Value),
    decode json = some value -> decode (encode value) = some value
  sorted : forall (json : Json) (value : Value),
    decode json.sorted = some value -> decode (encode value).sorted = some value

theorem Json.ReadsBack.of_steady {decode : Json -> Option Value} {encode : Value -> Json}
    (steady : forall form, IsForm form -> Steady form decode encode) :
    ReadsBack decode encode where
  asGiven json value read := (steady id isForm_id json value read).read
  sorted json value read := (steady Json.sorted isForm_sorted json value read).read

/-- A section with a rectangle on which nothing is of a known kind, or says what it
draws. -/
def foreignSection : Json :=
  .object
    [ ("children", .array
        [.object
          [ ("blendMode", .string "BEHIND"),
            ("effects", .array [.object [("type", .string "NOISE")]]),
            ("exportSettings", .array
              [.object
                [ ("constraint", .object [("type", .string "SCALE"), ("value", .ofFloat 2)]),
                  ("format", .string "WEBP") ]]),
            ("fills", .array
              [ .object [("imageRef", .string "clip"), ("type", .string "VIDEO")],
                .object [("type", .string "IMAGE")],
                .object [("type", .string "SOLID")],
                .object [("type", .string "GRADIENT_RADIAL")] ]),
            ("id", .string "1:2"),
            ("type", .string "RECTANGLE") ]]),
      ("id", .string "1:1"),
      ("type", .string "SECTION") ]

/-- The section as it is read. -/
def foreignSectionNode : Node :=
  .container "1:1" "" (.frame false Layer.blank)
    [.leaf "1:2" ""
      (.rectangle none
        { Layer.blank with
          blendMode := some (.other "BEHIND")
          fills :=
            [ ⟨.unsupported "VIDEO", true, 1.0, none⟩, ⟨.unsupported "IMAGE", true, 1.0, none⟩,
              ⟨.solid ⟨0.0, 0.0, 0.0, 1.0⟩, true, 1.0, none⟩,
              ⟨.radialGradient ⟨[], []⟩, true, 1.0, none⟩ ]
          effects := [⟨.other "NOISE", true, 0.0, 0.0, none, none⟩]
          exportSettings := [.scaled (.other "WEBP") 2] })]

/-- Everything that is read from data is read back from what is written for it. -/
theorem data_reads_back :
    Json.ReadsBack Node.decode? Node.encode ∧
    Json.ReadsBack Imports.decode? Imports.encode ∧
    Json.ReadsBack DesignFile.decode? DesignFile.encode ∧
    Json.ReadsBack Paint.decode? Paint.encode ∧
    Json.ReadsBack Effect.decode? Effect.encode ∧
    Json.ReadsBack TypeStyle.decode? TypeStyle.encode ∧
    Json.ReadsBack ExportSetting.decode? ExportSetting.encode ∧
    Json.ReadsBack Config.decode? Config.encode :=
  ⟨.of_steady fun _ isForm => Node.steady isForm,
    .of_steady fun _ isForm => Imports.steady isForm,
    .of_steady fun _ isForm => DesignFile.steady isForm,
    .of_steady fun _ isForm => Paint.steady isForm,
    .of_steady fun _ isForm => Effect.steady isForm,
    .of_steady fun _ isForm => TypeStyle.steady isForm,
    .of_steady fun _ isForm => ExportSetting.steady isForm,
    .of_steady fun _ isForm _ config _ => Config.settles isForm config⟩

theorem foreignSection_reads_back :
    Node.decode? foreignSection = some foreignSectionNode ∧
    Node.decode? foreignSectionNode.encode = some foreignSectionNode ∧
    Node.decode? foreignSection.sorted = some foreignSectionNode ∧
    Node.decode? foreignSectionNode.encode.sorted = some foreignSectionNode := by
  have read : Node.decode? foreignSection = some foreignSectionNode := rfl
  have sortedRead : Node.decode? foreignSection.sorted = some foreignSectionNode := rfl
  have again := data_reads_back.1
  exact ⟨read, again.asGiven _ _ read, sortedRead, again.sorted _ _ sortedRead⟩

end SceneMarkup
