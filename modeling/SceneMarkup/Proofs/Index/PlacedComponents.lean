import SceneMarkup.Proofs.FirstFault
import SceneMarkup.Proofs.Index.Resolution

namespace SceneMarkup

/-!
# Which node an instance places

An instance of the main document looks for its component across files at once, an
instance of an imported file looks in that file first.  When this fails, the
search goes on as it does for the main document, and that is where it begins.
Nothing in the search says which file the instance lies in.

An id that an imported file does not hold may belong to yet another file, and the
main document may hold a node with the same id by coincidence.  The main result
says that this node is then what the instance places, whatever the alias tables
say, and that an instance of an imported file never leads into the main document
otherwise.
-/

namespace Scene

variable {scene : Scene} {id : String}

theorem named_of_listed {place : Nat} {indexed : IndexedImport}
    (listed : scene.imports[place]? = some indexed) :
    scene.named (.imported place) = indexed.named := by
  rw [named, listed]

theorem exists_find?_of_holds {place : Nat} {indexed : IndexedImport} {target : String}
    (listed : scene.imports[place]? = some indexed) (holds : indexed.Holds target) :
    Exists fun key => scene.find? (.imported place) target = some key := by
  rcases Option.isSome_iff_exists.mp holds with ⟨index, found⟩
  refine ⟨⟨.imported place, index⟩, ?_⟩
  rw [find?, document, named_of_listed listed, found]
  rfl

theorem find?_main_eq_none_iff :
    scene.find? .main id = none ↔ (scene.document .main).find? id = none := by
  rw [find?, Option.map_eq_none_iff]

/-- The node that an id leads to across files: one of the main document, or of the
first imported file that knows the id. -/
inductive Finds (scene : Scene) (id : String) : NodeKey -> Prop where
  | inMain {key : NodeKey} (found : scene.find? .main id = some key) : Finds scene id key
  | inImport {key : NodeKey} {place : Nat} {indexed : IndexedImport} {target : String}
      (absent : scene.find? .main id = none)
      (isFirst : scene.IsFirstImport (·.Knows id) place indexed)
      (leads : indexed.LeadsTo id target)
      (found : scene.find? (.imported place) target = some key) : Finds scene id key

theorem resolveNode?_of_finds {key : NodeKey} (finds : scene.Finds id key) :
    scene.resolveNode? id = some key := by
  cases finds with
  | inMain found =>
      have held : ((scene.document .main).find? id).isSome = true := by
        rw [find?, Option.map_eq_some_iff] at found
        rcases found with ⟨index, place, _⟩
        rw [place]
        rfl
      rw [resolveNode?, resolve_of_main held]
      exact found
  | inImport absent isFirst leads found =>
      rw [resolveNode?, resolve_of_isFirstImport (find?_main_eq_none_iff.mp absent) isFirst leads]
      exact found

/-- No file knows an id, the main one included. -/
def IsUnknown (scene : Scene) (id : String) : Prop :=
  scene.find? .main id = none ∧ forall file, file ∈ scene.imports -> ¬ file.Knows id

theorem resolveNode?_of_isUnknown (unknown : scene.IsUnknown id) : scene.resolveNode? id = none := by
  rw [resolveNode?, resolve_of_not_knows (find?_main_eq_none_iff.mp unknown.1) unknown.2]
  exact unknown.1

/-- An id that is not unknown leads to a node. -/
theorem exists_finds (known : ¬ scene.IsUnknown id) : Exists fun key => scene.Finds id key := by
  cases held : scene.find? .main id with
  | some key => exact ⟨key, .inMain held⟩
  | none =>
      rw [IsUnknown, not_and, not_forall] at known
      rcases known held with ⟨file, knows⟩
      rw [Classical.not_imp, not_not] at knows
      rcases List.getElem?_of_mem knows.1 with ⟨somewhere, found⟩
      rcases exists_isFirstImport (·.Knows id) found knows.2 with ⟨place, indexed, _, isFirst⟩
      rcases isFirst.kind with ⟨target, leads⟩
      rcases exists_find?_of_holds isFirst.listed leads.holds with ⟨key, listed⟩
      exact ⟨key, .inImport held isFirst leads listed⟩

theorem resolveNode?_eq_some_iff (key : NodeKey) :
    scene.resolveNode? id = some key ↔ scene.Finds id key := by
  constructor
  · intro resolved
    have known : ¬ scene.IsUnknown id := by
      intro unknown
      rw [resolveNode?_of_isUnknown unknown] at resolved
      cases resolved
    rcases exists_finds known with ⟨other, finds⟩
    rw [Option.some.inj (resolved.symm.trans (resolveNode?_of_finds finds))]
    exact finds
  · exact resolveNode?_of_finds

theorem resolveNode?_eq_none_iff : scene.resolveNode? id = none ↔ scene.IsUnknown id := by
  constructor
  · intro nowhere
    by_contra known
    rcases exists_finds known with ⟨key, finds⟩
    rw [resolveNode?_of_finds finds] at nowhere
    cases nowhere
  · exact resolveNode?_of_isUnknown

theorem Finds.file_eq_main_iff {key : NodeKey} (finds : scene.Finds id key) :
    key.file = .main ↔ scene.find? .main id = some key := by
  constructor
  · intro main
    cases finds with
    | inMain found => exact found
    | inImport absent isFirst leads found =>
        rw [(find?_isNode found).1] at main
        cases main
  · intro found
    exact (find?_isNode found).1

/-- The files of a scene. -/
def HasFile (scene : Scene) : FileRef -> Prop
  | .main => True
  | .imported place => place < scene.imports.length

theorem Finds.hasFile {key : NodeKey} (finds : scene.Finds id key) : scene.HasFile key.file := by
  cases finds with
  | inMain found =>
      rw [(find?_isNode found).1]
      trivial
  | inImport _ isFirst _ found =>
      rw [(find?_isNode found).1]
      exact (List.getElem?_eq_some_iff.mp isFirst.listed).1

end Scene

namespace Project

variable {project : Project} {key : NodeKey} {componentId : String}

/-- The file of an instance is of no help in the search: it is the main document,
where the search begins anyway, or it does not hold the id. -/
def LooksAcross (project : Project) (key : NodeKey) (componentId : String) : Prop :=
  key.file = .main ∨ project.scene.find? key.file componentId = none

theorem resolveComponent_of_own {component : NodeKey}
    (placed : (project.node key).componentId? = some componentId) (imported : key.file ≠ .main)
    (own : project.scene.find? key.file componentId = some component) :
    project.resolveComponent key = .ok component := by
  rw [resolveComponent, placed]
  dsimp only
  rw [if_neg imported, own]

theorem resolveComponent_of_looksAcross
    (placed : (project.node key).componentId? = some componentId)
    (across : project.LooksAcross key componentId) :
    project.resolveComponent key =
      match project.scene.resolveNode? componentId with
      | some component => .ok component
      | none =>
          .error (.componentNotFound (project.node key).id (project.node key).name componentId) := by
  have noOwn : (if key.file = .main then none else project.scene.find? key.file componentId) =
      none := by
    rcases across with main | absent
    · exact if_pos main
    · rw [absent, ite_self]
  cases found : project.scene.resolveNode? componentId <;>
    simp only [resolveComponent, placed, noOwn, found]

/-- An instance places a node of its own file, if that is an imported one which
holds the id, and otherwise the node that the id leads to across files.  What kind
of node it is makes no difference. -/
theorem resolveComponent_eq_ok_iff (placed : (project.node key).componentId? = some componentId)
    (component : NodeKey) :
    project.resolveComponent key = .ok component ↔
      (key.file ≠ .main ∧ project.scene.find? key.file componentId = some component) ∨
        (project.LooksAcross key componentId ∧ project.scene.Finds componentId component) := by
  by_cases across : project.LooksAcross key componentId
  · have elsewhere : ¬ (key.file ≠ .main ∧
        project.scene.find? key.file componentId = some component) := by
      rintro ⟨imported, own⟩
      rw [across.resolve_left imported] at own
      cases own
    rw [resolveComponent_of_looksAcross placed across, or_iff_right elsewhere,
      and_iff_right across, ← Scene.resolveNode?_eq_some_iff]
    cases project.scene.resolveNode? componentId with
    | none => simp only [reduceCtorEq]
    | some found => rw [Except.ok.injEq, Option.some.injEq]
  · rw [or_iff_left fun both => across both.1]
    rw [LooksAcross, not_or] at across
    rcases Option.ne_none_iff_exists'.mp across.2 with ⟨own, found⟩
    rw [resolveComponent_of_own placed across.1 found, found, and_iff_right across.1,
      Except.ok.injEq, Option.some.injEq]

/-- What an instance of a file of the scene places lies in such a file too. -/
theorem hasFile_of_resolveComponent {component : NodeKey} (there : project.scene.HasFile key.file)
    (resolved : project.resolveComponent key = .ok component) :
    project.scene.HasFile component.file := by
  cases placed : (project.node key).componentId? with
  | none =>
      rw [resolveComponent, placed] at resolved
      cases resolved
  | some componentId =>
      rcases (resolveComponent_eq_ok_iff placed component).mp resolved with
        ⟨_, own⟩ | ⟨_, finds⟩
      · rw [(Scene.find?_isNode own).1]
        exact there
      · exact finds.hasFile

/-- An instance is reported exactly if no node at all has the id, or an alias of it:
a node that is no component is taken for one. -/
theorem resolveComponent_eq_error_iff
    (placed : (project.node key).componentId? = some componentId) :
    project.resolveComponent key =
        .error (.componentNotFound (project.node key).id (project.node key).name componentId) ↔
      project.LooksAcross key componentId ∧ project.scene.IsUnknown componentId := by
  by_cases across : project.LooksAcross key componentId
  · rw [resolveComponent_of_looksAcross placed across, and_iff_right across,
      ← Scene.resolveNode?_eq_none_iff]
    cases project.scene.resolveNode? componentId with
    | none => simp only
    | some found => simp only [reduceCtorEq]
  · have own := across
    rw [LooksAcross, not_or] at own
    rcases Option.ne_none_iff_exists'.mp own.2 with ⟨component, found⟩
    rw [resolveComponent_of_own placed own.1 found]
    simp only [reduceCtorEq, across, false_and]

/-- Resolving the instances of the main document takes one after the other. -/
theorem resolveInstances_goesThrough (project : Project) :
    Fault.GoesThrough project.resolveInstances project.resolveComponent project.instances := by
  have counted : project.resolveInstances =
      project.instances.mapM project.resolveComponent >>= fun found => pure found.length := by
    rw [resolveInstances]
    cases project.instances.mapM project.resolveComponent <;> rfl
  rw [counted]
  exact (Fault.GoesThrough.mapM _ _).map

/-! ## Instances of imported files -/

/-- An instance of an imported file that places anything places a node of the main
document exactly if its own file does not hold the id and the main document does.
Otherwise it places a node of its own file, or of the first imported file that
knows the id. -/
theorem imported_instance_enters_main_iff {component : NodeKey} (imported : key.file ≠ .main)
    (placed : (project.node key).componentId? = some componentId)
    (resolved : project.resolveComponent key = .ok component) :
    (component.file = .main ↔
      project.scene.find? key.file componentId = none ∧
        project.scene.find? .main componentId = some component) ∧
    (component.file ≠ .main ->
      project.scene.find? key.file componentId = some component ∨
        Exists fun place => Exists fun indexed => Exists fun target =>
          project.scene.IsFirstImport (·.Knows componentId) place indexed ∧
            indexed.LeadsTo componentId target ∧
            project.scene.find? (.imported place) target = some component) := by
  rcases (resolveComponent_eq_ok_iff placed component).mp resolved with
    ⟨_, own⟩ | ⟨across, finds⟩
  · have stays := (Scene.find?_isNode own).1
    rw [stays]
    refine ⟨⟨fun main => absurd main imported, ?_⟩, fun _ => Or.inl own⟩
    rintro ⟨absent, _⟩
    rw [own] at absent
    cases absent
  · have absent := across.resolve_left imported
    refine ⟨?_, ?_⟩
    · rw [finds.file_eq_main_iff, and_iff_right absent]
    · intro elsewhere
      cases finds with
      | inMain found => exact absurd (Scene.find?_isNode found).1 elsewhere
      | inImport _ isFirst leads found => exact Or.inr ⟨_, _, _, isFirst, leads, found⟩

/-- A row of a library places an icon, which a second library holds under another
id and knows by an alias.  The main document holds a component with an id of its
own. -/
def rowWithIcon (ownId : String) : Project where
  scene := .ofTrees
    (.container "0:0" "Document" .document
      [.container ownId "Card" (.component false .blank) []])
    (OrderedMap.ofList
      [ ("lib/rows.pc", ⟨OrderedMap.empty, .container "0:0" "Document" .document
          [.container "2:2" "Row" (.placement "1:1" false .blank) []]⟩),
        ("lib/icons.pc", ⟨OrderedMap.ofList [("1:1", "9:9")],
          .container "0:0" "Document" .document
            [.container "9:9" "Icon" (.component false .blank) []]⟩) ])
  options := .standard
  outputPath := "app.pc"

/-- The row finds the icon where the main document does not use the id. -/
theorem row_places_library_icon :
    Exists fun component =>
      (rowWithIcon "7:7").resolveComponent ⟨.imported 0, 1⟩ = .ok component ∧
      component.file ≠ .main ∧
      Exists fun place => Exists fun indexed => Exists fun target =>
        (rowWithIcon "7:7").scene.IsFirstImport (·.Knows "1:1") place indexed ∧
          indexed.LeadsTo "1:1" target ∧
          (rowWithIcon "7:7").scene.find? (.imported place) target = some component := by
  have resolved : (rowWithIcon "7:7").resolveComponent ⟨.imported 0, 1⟩ =
      .ok ⟨.imported 1, 1⟩ := by
    decide +kernel
  have notMain : (rowWithIcon "7:7").scene.find? .main "1:1" = none := by decide +kernel
  have notOwn : (rowWithIcon "7:7").scene.find? (.imported 0) "1:1" = none := by decide +kernel
  have placed : ((rowWithIcon "7:7").node ⟨.imported 0, 1⟩).componentId? = some "1:1" := rfl
  rcases imported_instance_enters_main_iff (by decide) placed resolved with ⟨enters, elsewhere⟩
  have outside : FileRef.imported 1 ≠ .main := by
    intro main
    have coincident := (enters.mp main).2
    rw [notMain] at coincident
    cases coincident
  refine ⟨_, resolved, outside, (elsewhere outside).resolve_left ?_⟩
  rw [notOwn]
  exact fun impossible => nomatch impossible

/-- Where the main document has a component with the same id, the row places that
one, although an alias says which icon is meant. -/
theorem row_places_unrelated_card :
    ¬ forall (project : Project) (key component : NodeKey), key.file ≠ .main ->
      (project.node key).isInstance = true -> project.resolveComponent key = .ok component ->
        component.file ≠ .main := by
  intro outside
  have resolved : (rowWithIcon "1:1").resolveComponent ⟨.imported 0, 1⟩ = .ok ⟨.main, 1⟩ := by
    decide +kernel
  exact outside _ _ _ (by decide) rfl resolved rfl

end Project
end SceneMarkup
