import SceneMarkup.Project
import SceneMarkup.Proofs.Report

namespace SceneMarkup

/-!
# Which trees are indexed

Indexing looks for a node that is nested too deep and otherwise takes a tree as it
is.  It finds one exactly if the whole tree is too high, so a scene is built if and
only if its main tree is a document and none of its trees is too high, and the
scene is then the one in which every tree is indexed as it stands.
-/

namespace Node

mutual

/-- The number of levels below a node. -/
def height : Node -> Nat
  | .container _ _ _ children => heightBelow children
  | .leaf _ _ _ => 0

/-- The number of levels that sibling trees take up. -/
def heightBelow : List Node -> Nat
  | [] => 0
  | node :: rest => max (height node + 1) (heightBelow rest)

end

mutual

/-- A tree at a depth holds no node too deep exactly if it ends above the
limit. -/
theorem tooDeep?_eq_none_iff (depth : Nat) :
    (node : Node) -> (node.tooDeep? depth = none ↔ depth + node.height <= depthLimit)
  | .container id name kind children => by
      rw [tooDeep?, height]
      by_cases deep : depthLimit < depth
      · rw [if_pos deep]
        constructor
        · intro impossible
          cases impossible
        · intro within
          omega
      · rw [if_neg deep]
        exact tooDeepBelow?_eq_none_iff (Nat.le_of_not_lt deep) children
  | .leaf id name kind => by
      rw [tooDeep?, height, Nat.add_zero]
      split <;> simp <;> omega

theorem tooDeepBelow?_eq_none_iff {depth : Nat} (within : depth <= depthLimit) :
    (nodes : List Node) ->
      (tooDeepBelow? (depth + 1) nodes = none ↔ depth + heightBelow nodes <= depthLimit)
  | [] => by
      rw [tooDeepBelow?, heightBelow]
      exact ⟨fun _ => within, fun _ => rfl⟩
  | node :: rest => by
      have first := tooDeep?_eq_none_iff (depth + 1) node
      have others := tooDeepBelow?_eq_none_iff within rest
      rw [tooDeepBelow?, heightBelow]
      cases found : node.tooDeep? (depth + 1) with
      | some deep =>
          have high : ¬ depth + 1 + node.height <= depthLimit := by
            rw [← first, found]
            exact Option.some_ne_none deep
          constructor
          · intro impossible
            cases impossible
          · intro fits
            omega
      | none =>
          have fits := first.mp found
          change tooDeepBelow? (depth + 1) rest = none ↔ _
          rw [others]
          omega

end

end Node

theorem Document.ofNode?_eq_ok_iff (root : Node) (document : Document) :
    Document.ofNode? root = .ok document ↔
      root.height <= Node.depthLimit ∧ document = Document.ofRoot root := by
  have exact := Node.tooDeep?_eq_none_iff 0 root
  rw [Nat.zero_add] at exact
  rw [Document.ofNode?_eq, ← exact]
  cases root.tooDeep? 0 with
  | none => simp only [Except.ok.injEq, true_and, eq_comm]
  | some found => simp only [reduceCtorEq, false_and]

namespace Scene

/-- An imported file with its tree indexed, whatever its depth. -/
def indexedFile (entry : String × ImportedFile) : IndexedImport :=
  ⟨entry.1, entry.2.aliases, .ofDocument (.ofRoot entry.2.document)⟩

/-- The scene of trees of any depth. -/
def ofTrees (root : Node) (imports : Imports) : Scene :=
  ⟨.ofDocument (.ofRoot root), imports.entries.map indexedFile⟩

theorem indexImports_eq_ok_iff (files : List (String × ImportedFile))
    (indexed : List IndexedImport) :
    indexImports files = .ok indexed ↔
      (forall entry, entry ∈ files -> entry.2.document.height <= Node.depthLimit) ∧
        indexed = files.map indexedFile := by
  induction files generalizing indexed with
  | nil =>
      rw [indexImports, Except.ok.injEq, List.map_nil, eq_comm]
      exact ⟨fun same => ⟨fun _ member => (nomatch member), same⟩, And.right⟩
  | cons entry rest ih =>
      have first := Document.ofNode?_eq_ok_iff entry.2.document
      rw [indexImports, List.map_cons, List.forall_mem_cons]
      cases made : Document.ofNode? entry.2.document with
      | error fault =>
          constructor
          · intro impossible
            cases impossible
          · rintro ⟨⟨fits, _⟩, _⟩
            cases made.symm.trans ((first _).mpr ⟨fits, rfl⟩)
      | ok document =>
          rcases (first document).mp made with ⟨fits, same⟩
          cases others : indexImports rest with
          | error fault =>
              constructor
              · intro impossible
                cases impossible
              · rintro ⟨⟨_, restFits⟩, _⟩
                cases others.symm.trans ((ih _).mpr ⟨restFits, rfl⟩)
          | ok found =>
              rcases (ih found).mp others with ⟨restFits, restSame⟩
              rw [same, restSame, Except.ok.injEq, eq_comm]
              exact ⟨fun whole => ⟨⟨fits, restFits⟩, whole⟩, And.right⟩

/-- Trees that make up a scene: the main one is a document, and none is too
high. -/
structure Indexable (root : Node) (imports : Imports) : Prop where
  isDocument : root.type = .document
  fits : forall tree, tree ∈ root :: imports.entries.map (·.2.document) ->
    tree.height <= Node.depthLimit

/-- A scene is built exactly from trees that make one up, and every tree is indexed
as it stands. -/
theorem build_eq_ok_iff (root : Node) (imports : Imports) (scene : Scene) :
    build root imports = .ok scene ↔ Indexable root imports ∧ scene = ofTrees root imports := by
  have main := Document.ofNode?_eq_ok_iff root
  have files := indexImports_eq_ok_iff imports.entries
  have parts : Indexable root imports ↔ root.type = .document ∧
      root.height <= Node.depthLimit ∧
        forall entry, entry ∈ imports.entries -> entry.2.document.height <= Node.depthLimit := by
    constructor
    · rintro ⟨isDocument, fits⟩
      rw [List.forall_mem_cons, List.forall_mem_map] at fits
      exact ⟨isDocument, fits⟩
    · rintro ⟨isDocument, fits⟩
      refine ⟨isDocument, ?_⟩
      rw [List.forall_mem_cons, List.forall_mem_map]
      exact fits
  rw [build, parts]
  by_cases isDocument : root.type = .document
  · rw [if_neg (not_not_intro isDocument)]
    cases made : Document.ofNode? root with
    | error fault =>
        constructor
        · intro impossible
          cases impossible
        · rintro ⟨⟨_, fits, _⟩, _⟩
          cases made.symm.trans ((main _).mpr ⟨fits, rfl⟩)
    | ok document =>
        rcases (main document).mp made with ⟨fits, same⟩
        cases others : indexImports imports.entries with
        | error fault =>
            constructor
            · intro impossible
              cases impossible
            · rintro ⟨⟨_, _, filesFit⟩, _⟩
              cases others.symm.trans ((files _).mpr ⟨filesFit, rfl⟩)
        | ok indexed =>
            rcases (files indexed).mp others with ⟨filesFit, filesSame⟩
            rw [same, filesSame, Except.ok.injEq, eq_comm]
            exact ⟨fun whole => ⟨⟨isDocument, fits, filesFit⟩, whole⟩, And.right⟩
  · rw [if_pos isDocument]
    constructor
    · intro impossible
      cases impossible
    · rintro ⟨⟨impossible, _⟩, _⟩
      exact absurd impossible isDocument

theorem getElem?_imports {root : Node} {imports : Imports} {place : Nat}
    {entry : String × ImportedFile} (imported : imports.entries[place]? = some entry) :
    (ofTrees root imports).imports[place]? = some (indexedFile entry) := by
  rw [ofTrees, List.getElem?_map, imported]
  rfl

/-- The document of an imported file, as it is indexed. -/
theorem named_imported {root : Node} {imports : Imports} {place : Nat}
    {entry : String × ImportedFile} (imported : imports.entries[place]? = some entry) :
    (ofTrees root imports).named (.imported place) =
      .ofDocument (.ofRoot entry.2.document) := by
  rw [named, getElem?_imports imported]
  rfl

end Scene

theorem Project.build_eq_ok_iff (root : Node) (imports : Imports) (options : Options)
    (outputPath : String) (project : Project) :
    build root imports options outputPath = .ok project ↔
      Scene.Indexable root imports ∧
        project = ⟨Scene.ofTrees root imports, options, outputPath⟩ := by
  have scenes := Scene.build_eq_ok_iff root imports
  rw [build]
  cases made : Scene.build root imports with
  | error fault =>
      constructor
      · intro impossible
        cases impossible
      · rintro ⟨indexable, _⟩
        cases made.symm.trans ((scenes _).mpr ⟨indexable, rfl⟩)
  | ok scene =>
      rcases (scenes scene).mp made with ⟨indexable, same⟩
      rw [same, Except.ok.injEq, eq_comm]
      exact ⟨fun whole => ⟨indexable, whole⟩, And.right⟩

end SceneMarkup
