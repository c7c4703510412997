import SceneMarkup.Proofs.Confinement
import SceneMarkup.Proofs.Index.Depth
import SceneMarkup.Proofs.Markup.References
import SceneMarkup.Proofs.Markup.Stylesheet

namespace SceneMarkup

/-!
# How a translation can end

Only the structure of a scene can end the work on it.  A tree may be no document or
too deep, an instance may lead to no component, and a layer may have no match in the
component around it.  What a scene shows never ends the work, and neither does
writing it: no piece of a page ends a block that was not begun, and every block
that is begun is ended.

The work on a main document can end at three kinds of steps: where an instance is
resolved, where the nodes that a node overrides are followed, and where a reference
is made.  Everything else keeps within the faults of these.  This is shown once for
any set of faults that the three keep within.  The three in turn resolve instances and
look for matches, so a set that resolving keeps within is enough if a missing match
belongs to it.  For the structural faults this holds in every project.

In a main document without instances no fault is left: no node of it overrides another
one, and the only references are those of components to themselves, which find every
text at its own place.
-/

/-- A fault of the structure of a scene. -/
inductive Fault.IsStructural : Fault -> Prop where
  | notADocument (found : NodeType) : IsStructural (.notADocument found)
  | malformedTree (nodeId : String) (depth : Nat) : IsStructural (.malformedTree nodeId depth)
  | componentNotFound (instanceId instanceName componentId : String) :
      IsStructural (.componentNotFound instanceId instanceName componentId)
  | structureMismatch (nodeId nodeName instanceId : String) :
      IsStructural (.structureMismatch nodeId nodeName instanceId)

/-! ## Blocks -/

namespace Piece

/-- The number of blocks that pieces begin. -/
def begun (pieces : List Piece) : Nat :=
  pieces.countP (· = .enter)

/-- The number of blocks that pieces end. -/
def ended (pieces : List Piece) : Nat :=
  pieces.countP (· = .exit)

/-- Blocks nest: none is ended before it was begun, and all are ended. -/
structure Nests (pieces : List Piece) : Prop where
  after_begun : forall before after, pieces = before ++ after -> ended before <= begun before
  all_ended : ended pieces = begun pieces

/-- The depth of a writer is what was begun less what was ended. -/
theorem depth_of_putAll? {pieces : List Piece} {writer after : Writer}
    (written : writer.putAll? pieces = .ok after) :
    after.depth + ended pieces = writer.depth + begun pieces := by
  induction pieces generalizing writer with
  | nil =>
      cases Except.ok.inj written
      rfl
  | cons piece rest ih =>
      rw [Writer.putAll?, List.foldlM_cons] at written
      rcases (Fault.bind_eq_ok_iff _ _ _).mp written with ⟨between, put, others⟩
      have remaining := ih others
      cases piece with
      | text fragment =>
          rw [← Except.ok.inj put, depth_append] at remaining
          exact remaining
      | enter =>
          have deeper : between.depth = writer.depth + 1 := by
            rw [← Except.ok.inj put]
            rfl
          change after.depth + ended rest = writer.depth + begun (.enter :: rest)
          rw [begun, List.countP_cons_of_pos rfl]
          change _ = writer.depth + (begun rest + 1)
          omega
      | exit =>
          have shallower : writer.depth = between.depth + 1 := by
            change writer.exit? = .ok between at put
            rw [Writer.exit?] at put
            split at put
            · cases put
            · rename_i depth atDepth
              rw [← Except.ok.inj put]
              exact atDepth
          change after.depth + ended (.exit :: rest) = writer.depth + begun rest
          rw [ended, List.countP_cons_of_pos rfl]
          change after.depth + (ended rest + 1) = _
          omega

/-- Pieces that can be written at any depth nest, since an empty text has no depth
to spare. -/
theorem nests_of_balanced {pieces : List Piece} (balanced : Balanced pieces) : Nests pieces := by
  rcases balanced Writer.empty with ⟨last, written, depth⟩
  constructor
  · intro before after split
    rw [split, Writer.putAll?, List.foldlM_append] at written
    rcases (Fault.bind_eq_ok_iff _ _ _).mp written with ⟨between, begun, _⟩
    have counted := depth_of_putAll? begun
    change between.depth + _ = 0 + _ at counted
    omega
  · have counted := depth_of_putAll? written
    omega

end Piece

/-! ## From the steps to the whole -/

namespace Project

/-- The steps at which the work on a main document can end keep within a set of
faults. -/
structure KeepsWithin (project : Project) (allowed : Fault -> Prop) : Prop where
  resolves : forall key, key.file = .main -> (project.node key).isInstance = true ->
    Fault.Confined allowed (project.resolveComponent key)
  follows : forall key, key.file = .main ->
    Fault.Confined allowed (project.overrideChain key).outcome
  refers : forall referrer component inDeclaration, referrer.file = .main ->
    project.scene.IsNode referrer -> project.RefersTo referrer component ->
      Fault.Confined allowed (project.previewReference referrer component inDeclaration)

namespace KeepsWithin

variable {project : Project} {allowed : Fault -> Prop}

theorem resolveInstances (steps : project.KeepsWithin allowed) :
    Fault.Confined allowed project.resolveInstances := by
  apply Fault.Confined.map
  apply Fault.Confined.mapM
  intro key member
  rcases List.mem_filter.mp member with ⟨listed, isInstance⟩
  rcases List.mem_map.mp listed with ⟨index, _, same⟩
  exact steps.resolves key (same ▸ rfl) isInstance

/-! ### Styles -/

theorem overrideStyle (steps : project.KeepsWithin allowed) {key : NodeKey} (main : key.file = .main) :
    Fault.Confined allowed (project.overrideStyle key).outcome := by
  refine Reported.confined_bind (.ok ()) fun _ _ => ?_
  refine Reported.confined_bind (steps.follows key main) fun chain _ => ?_
  refine Reported.confined_bind (.ok ()) fun _ _ => ?_
  exact .ok _

mutual

theorem nestedStyleAt (steps : project.KeepsWithin allowed) (index : Nat) : (node : Node) ->
    Fault.Confined allowed (project.nestedStyleAt .main index node).outcome
  | .leaf id name kind => by
      rw [Project.nestedStyleAt]
      refine Reported.confined_bind (steps.overrideStyle rfl) fun style _ => ?_
      exact .ok _
  | .container id name kind children => by
      rw [Project.nestedStyleAt]
      refine Reported.confined_bind (steps.overrideStyle rfl) fun style _ => ?_
      refine Reported.confined_bind (nestedStylesFrom steps (index + 1) children) fun below _ => ?_
      exact .ok _

theorem nestedStylesFrom (steps : project.KeepsWithin allowed) (next : Nat) : (nodes : List Node) ->
    Fault.Confined allowed (project.nestedStylesFrom .main next nodes).outcome
  | [] => by
      rw [Project.nestedStylesFrom]
      exact .ok []
  | node :: rest => by
      rw [Project.nestedStylesFrom]
      refine Reported.confined_bind (nestedStyleAt steps next node) fun first _ => ?_
      refine Reported.confined_bind (nestedStylesFrom steps (next + node.size) rest) fun others _ => ?_
      exact .ok _

end

theorem nestedStyles (steps : project.KeepsWithin allowed) {keys : List NodeKey}
    (main : forall key, key ∈ keys -> key.file = .main) :
    Fault.Confined allowed (project.nestedStyles keys).outcome := by
  induction keys with
  | nil => exact .ok []
  | cons key rest ih =>
      have first : Fault.Confined allowed (project.nestedStyle key).outcome := by
        rw [nestedStyle_eq, main key List.mem_cons_self]
        exact steps.nestedStyleAt key.index (project.node key)
      refine Reported.confined_bind first fun tree _ => ?_
      refine Reported.confined_bind
        (ih fun other member => main other (List.mem_cons_of_mem _ member)) fun others _ => ?_
      exact .ok _

theorem styleLevels (steps : project.KeepsWithin allowed) :
    Fault.Confined allowed project.styleLevels.outcome := by
  have main : forall key, key ∈ project.components -> key.file = .main :=
    fun key member => ((mem_components_iff key).mp member).1
  refine Reported.confined_bind (steps.nestedStyles main) fun nested _ => ?_
  exact .ok _

theorem rule? (steps : project.KeepsWithin allowed) {key : NodeKey} (main : key.file = .main)
    (style : Style) :
    Fault.Confined allowed (project.rule? key style).outcome := by
  unfold Project.rule?
  dsimp only
  split
  · exact .ok none
  · have selector : Fault.Confined allowed (project.selector key).outcome :=
      Reported.confined_bind (steps.follows key main) fun chain _ =>
        .ok (project.selectorOver key chain)
    exact Reported.confined_bind selector fun _ _ => .ok _

theorem rulesOf (steps : project.KeepsWithin allowed) {levels : List (NodeKey × Style)}
    (main : forall level, level ∈ levels -> level.1.file = .main) :
    Fault.Confined allowed (project.rulesOf levels).outcome := by
  induction levels with
  | nil => exact .ok []
  | cons level rest ih =>
      have first := steps.rule? (main level List.mem_cons_self) level.2
      refine Reported.confined_bind first fun rule _ => ?_
      refine Reported.confined_bind
        (ih fun other member => main other (List.mem_cons_of_mem _ member)) fun others _ => ?_
      exact .ok _

theorem stylesheet (steps : project.KeepsWithin allowed) :
    Fault.Confined allowed project.stylesheet.outcome := by
  refine Reported.confined_bind steps.styleLevels fun levels made => ?_
  have main : forall level, level ∈ levels -> level.1.file = .main :=
    fun level member => (isNode_of_mem_styleLevels made member).2
  refine Reported.confined_bind (steps.rulesOf main) fun rules _ => ?_
  exact .ok _

/-! ### Previews -/

mutual

theorem previewNodeAt (steps : project.KeepsWithin allowed) {index : Nat} {trail : List Step} :
    {node : Node} -> (project.scene.document .main).Holds index trail node ->
      Fault.Confined allowed (project.previewNodeAt index node)
  | .leaf id name kind, _ => by
      rw [Project.previewNodeAt]
      split
      · exact .ok _
      · exact .ok _
  | .container id name kind children, held => by
      have valid : project.scene.IsNode ⟨.main, index⟩ :=
        Nat.lt_of_lt_of_le (Nat.lt_add_of_pos_right (Node.size_pos _)) held.end_le
      have node := node_of_holds held
      cases kind with
      | placement componentId clips layer =>
          have isInstance : (project.node ⟨.main, index⟩).isInstance = true := by
            rw [node]
            rfl
          refine (steps.resolves _ rfl isInstance).bind fun component resolved => ?_
          refine (steps.refers _ component true rfl valid (.inl ⟨isInstance, resolved⟩)).bind
            fun target _ => ?_
          exact .ok _
      | component clips layer =>
          have isComponent : (project.node ⟨.main, index⟩).isComponent = true := by
            rw [node]
            rfl
          refine (steps.refers _ _ true rfl valid (.inr ⟨isComponent, rfl⟩)).bind
            fun target _ => ?_
          exact .ok _
      | document | canvas | group | frame =>
          rw [previewNodeAt_of_shown rfl]
          exact (previewNodesFrom steps held.below).bind fun below _ => .ok _

theorem previewNodesFrom (steps : project.KeepsWithin allowed) {next parent branch : Nat}
    {trail : List Step} : {nodes : List Node} ->
    (project.scene.document .main).HoldsBelow next parent branch trail nodes ->
      Fault.Confined allowed (project.previewNodesFrom next nodes)
  | [], _ => by
      rw [Project.previewNodesFrom]
      exact .ok []
  | node :: rest, held => by
      rw [Project.previewNodesFrom]
      refine (previewNodeAt steps held.head).bind fun first _ => ?_
      refine (previewNodesFrom steps held.tail).bind fun others _ => ?_
      exact .ok _

end

theorem preview (steps : project.KeepsWithin allowed) {key : NodeKey} (member : key ∈ project.components) :
    Fault.Confined allowed (project.preview key) := by
  rcases (mem_components_iff key).mp member with ⟨main, valid, isComponent⟩
  have mainValid : key.index < (project.scene.document .main).size := by
    rw [Scene.IsNode, main] at valid
    exact valid
  have held := Document.holds _ mainValid
  rw [node_of_main main] at held
  refine (steps.previewNodesFrom held.below).bind fun children _ => ?_
  refine (steps.refers key key false main valid (.inr ⟨isComponent, rfl⟩)).bind fun usage _ => ?_
  exact .ok _

theorem wantedPreviews (steps : project.KeepsWithin allowed) :
    Fault.Confined allowed project.wantedPreviews.outcome := by
  rw [Project.wantedPreviews]
  split
  · have previews : Fault.Confined allowed project.previews :=
      .mapM fun _ member => steps.preview member
    refine Reported.confined_bind previews fun list _ => ?_
    refine Reported.confined_bind (.ok ()) fun _ _ => ?_
    exact .ok _
  · exact .ok none

/-! ### The page -/

theorem page (steps : project.KeepsWithin allowed) :
    Fault.Confined allowed project.page.outcome := by
  refine Reported.confined_bind steps.resolveInstances fun instances _ => ?_
  refine Reported.confined_bind (.ok ()) fun _ _ => ?_
  refine Reported.confined_bind (.ok ()) fun _ _ => ?_
  refine Reported.confined_bind steps.stylesheet fun sheet _ => ?_
  refine Reported.confined_bind (.ok ()) fun _ _ => ?_
  refine Reported.confined_bind (.ok ()) fun _ _ => ?_
  refine Reported.confined_bind (.ok ()) fun _ _ => ?_
  refine Reported.confined_bind steps.wantedPreviews fun previews _ => ?_
  exact .ok _

/-- Once there is a page, there is markup, so making the page decides. -/
theorem translate (steps : project.KeepsWithin allowed) :
    Fault.Confined allowed project.translate.outcome := by
  rw [translate_eq]
  refine Reported.confined_bind steps.page fun page _ => ?_
  rcases page.balanced_pieces project.options Writer.empty with ⟨writer, put, depth⟩
  refine Reported.confined_bind (put ▸ .ok writer) fun last same => ?_
  refine Reported.confined_bind (.ok ()) fun _ _ => ?_
  rw [Reported.outcome_ofExcept, put, Except.ok.injEq] at same
  rw [Reported.outcome_ofExcept, Writer.finish?, if_pos (same ▸ depth)]
  exact .ok last.buffer

end KeepsWithin

/-! ## From resolving to the steps -/

/-- Resolving instances of any file keeps within a set of faults, and a missing match
belongs to it. -/
structure ResolvesWithin (project : Project) (allowed : Fault -> Prop) : Prop where
  resolves : forall key, (project.node key).isInstance = true ->
    Fault.Confined allowed (project.resolveComponent key)
  mismatches : forall nodeId nodeName instanceId,
    allowed (.structureMismatch nodeId nodeName instanceId)

namespace ResolvesWithin

variable {project : Project} {allowed : Fault -> Prop}

theorem previousNode (within : project.ResolvesWithin allowed) (key : NodeKey) :
    Fault.Confined allowed (project.previousNode key).outcome := by
  rw [Project.previousNode]
  dsimp only
  split
  · exact .ok none
  · split
    · exact .ok none
    · rename_i instanceKey located
      have isInstance := (Option.filter_eq_some_iff.mp located).2
      split
      · exact .error (within.mismatches _ _ _)
      · refine Reported.confined_bind (within.resolves instanceKey isInstance) fun component _ => ?_
        split
        · exact .error (within.mismatches _ _ _)
        · exact .ok _

theorem overrideChainFrom (within : project.ResolvesWithin allowed) (steps : Nat)
    (seen : List NodeKey) (key : NodeKey) :
    Fault.Confined allowed (project.overrideChainFrom steps seen key).outcome := by
  induction steps generalizing seen key with
  | zero => exact .ok []
  | succ steps ih =>
      rw [Project.overrideChainFrom]
      refine Reported.confined_bind (within.previousNode key) fun found _ => ?_
      split
      · exact .ok []
      · exact Reported.confined_bind (ih _ _) fun _ _ => .ok _

theorem textProp (within : project.ResolvesWithin allowed) (instanceKey component : NodeKey)
    (inDeclaration : Bool) (text : NodeKey) :
    Fault.Confined allowed (project.textProp instanceKey component inDeclaration text) := by
  rw [Project.textProp]
  split
  · exact .error (within.mismatches _ _ _)
  · exact .ok _

/-- Everything that can end the work resolves an instance or looks for a match. -/
theorem keepsWithin (within : project.ResolvesWithin allowed) : project.KeepsWithin allowed where
  resolves key _ isInstance := within.resolves key isInstance
  follows key _ := within.overrideChainFrom _ _ key
  refers referrer component inDeclaration _ _ _ :=
    .map _ (.mapM fun text _ => within.textProp referrer component inDeclaration text)

end ResolvesWithin

/-! ## Structural faults -/

variable {project : Project}

theorem resolveComponent_structural (key : NodeKey) :
    Fault.Confined Fault.IsStructural (project.resolveComponent key) := by
  rw [resolveComponent]
  split
  · exact .error (.componentNotFound _ _ _)
  · dsimp only
    split
    · exact .ok _
    · split
      · exact .ok _
      · exact .error (.componentNotFound _ _ _)

/-- In every project the work ends with structural faults only. -/
theorem keepsWithin_structural (project : Project) : project.KeepsWithin Fault.IsStructural :=
  ResolvesWithin.keepsWithin ⟨fun key _ => resolveComponent_structural key, .structureMismatch⟩

theorem ofNode?_structural (root : Node) :
    Fault.Confined Fault.IsStructural (Document.ofNode? root) := by
  rw [Document.ofNode?_eq]
  split
  · exact .error (.malformedTree _ _)
  · exact .ok _

theorem indexImports_structural (files : List (String × ImportedFile)) :
    Fault.Confined Fault.IsStructural (Scene.indexImports files) := by
  induction files with
  | nil => exact .ok []
  | cons entry rest ih =>
      rw [Scene.indexImports]
      split
      · rename_i fault tooDeep
        exact .error (ofNode?_structural _ fault tooDeep)
      · split
        · rename_i fault restTooDeep
          exact .error (ih fault restTooDeep)
        · exact .ok _

theorem build_structural (root : Node) (imports : Imports) (options : Options)
    (outputPath : String) :
    Fault.Confined Fault.IsStructural (build root imports options outputPath) := by
  have scene : Fault.Confined Fault.IsStructural (Scene.build root imports) := by
    rw [Scene.build]
    split
    · exact .error (.notADocument _)
    · split
      · rename_i fault tooDeep
        exact .error (ofNode?_structural _ fault tooDeep)
      · split
        · rename_i fault importTooDeep
          exact .error (indexImports_structural _ fault importTooDeep)
        · exact .ok _
  rw [build]
  split
  · rename_i fault ended
    exact .error (scene fault ended)
  · exact .ok _

/-! ## Documents without instances -/

/-- No node of the main document is an instance. -/
def HasNoInstance (project : Project) : Prop :=
  forall key, key.file = .main -> (project.node key).isInstance = false

theorem previousNode_of_no_instance (free : project.HasNoInstance) {key : NodeKey}
    (main : key.file = .main) : (project.previousNode key).outcome = .ok none := by
  rw [previousNode]
  dsimp only
  split
  · rfl
  · rename_i qualifier _
    have nothing : (project.scene.find? key.file qualifier).filter
        (fun found => (project.scene.node found).isInstance) = none := by
      rw [Option.filter_eq_none_iff]
      intro found located
      have sameFile := (Scene.find?_isNode located).1
      rw [Bool.not_eq_true]
      exact free found (sameFile.trans main)
    rw [nothing]
    rfl

/-- A document without instances makes a project without them. -/
theorem hasNoInstance_of_nodes
    (free : forall node, node ∈ (project.scene.document .main).nodes -> node.isInstance = false) :
    project.HasNoInstance := by
  intro key main
  rw [← node_of_main main, Document.node]
  split
  · rename_i position found
    have listed : position ∈ (project.scene.document .main).positions.toList :=
      Array.mem_toList_iff.mpr (Array.mem_of_getElem? found)
    exact free position.node (List.mem_map_of_mem listed)
  · rfl

theorem overrideChain_of_no_instance (free : project.HasNoInstance) {key : NodeKey}
    (main : key.file = .main) : (project.overrideChain key).outcome = .ok [] := by
  rw [overrideChain, overrideChainFrom,
    Reported.outcome_bind_of_ok (previousNode_of_no_instance free main)]
  rfl

/-- A component finds every text at its own place. -/
theorem exists_own_textProp {key text : NodeKey} (valid : project.scene.IsNode key)
    (member : text ∈ project.textsBelow key) (inDeclaration : Bool) :
    Exists fun prop => project.textProp key key inDeclaration text = .ok prop := by
  have inside := ((mem_textsBelow_iff valid text).mp member).1
  have own := counterpart?_self valid inside
  exact ⟨_, (textProp_eq_ok_iff _ _ _ _ _).mpr ⟨text, own, rfl⟩⟩

/-- Without instances there is nothing that could end the work. -/
theorem keepsWithin_nothing (free : project.HasNoInstance) :
    project.KeepsWithin (fun _ => False) where
  resolves key main isInstance := by
    rw [free key main] at isInstance
    cases isInstance
  follows key main := by
    rw [overrideChain_of_no_instance free main]
    exact .ok []
  refers referrer component inDeclaration main valid refers := by
    rcases refers with ⟨isInstance, _⟩ | ⟨_, itself⟩
    · rw [free referrer main] at isInstance
      cases isInstance
    · rw [itself]
      apply Fault.Confined.map
      apply Fault.Confined.mapM
      intro text member
      rcases exists_own_textProp valid member inDeclaration with ⟨prop, made⟩
      rw [made]
      exact .ok prop

/-! ## Translating a tree -/

/-- Blocks nest in a page, and in each of its parts by itself. -/
structure BlocksNest (options : Options) (page : Page) : Prop where
  whole : Piece.Nests (page.pieces options)
  stylesheet : Piece.Nests page.stylesheet.pieces
  declarations : forall declaration, declaration ∈ page.declarations ->
    Piece.Nests (declaration.pieces options)
  previews : forall preview, preview ∈ page.allPreviews -> Piece.Nests (preview.pieces options)

theorem blocksNest (options : Options) (page : Page) : BlocksNest options page where
  whole := Piece.nests_of_balanced (page.balanced_pieces options)
  stylesheet := Piece.nests_of_balanced page.stylesheet.balanced_pieces
  declarations declaration _ := Piece.nests_of_balanced (declaration.balanced_pieces options)
  previews preview _ := Piece.nests_of_balanced (preview.balanced_pieces options)

/-- Nothing but the structure of the trees ends a translation, and blocks nest in
everything that is written.  A document without instances has markup whatever else
it holds, provided that no tree is too high. -/
theorem translation_ends_structurally (root : Node) (imports : Imports) (options : Options)
    (outputPath : String) :
    let translated := (Reported.ofExcept (build root imports options outputPath)).bind translate
    (forall fault, translated.outcome = .error fault -> fault.IsStructural) ∧
    (forall page, BlocksNest options page) ∧
    (Scene.Indexable root imports ->
      (forall node, node ∈ (Document.ofRoot root).nodes -> node.isInstance = false) ->
        Exists fun markup => translated.outcome = .ok markup) := by
  refine ⟨?_, blocksNest options, ?_⟩
  · exact Reported.confined_bind (build_structural root imports options outputPath)
      fun project _ => (keepsWithin_structural project).translate
  · intro indexable free
    have built := (build_eq_ok_iff root imports options outputPath _).mpr ⟨indexable, rfl⟩
    have noInstance : HasNoInstance ⟨Scene.ofTrees root imports, options, outputPath⟩ :=
      hasNoInstance_of_nodes free
    rw [built]
    exact (keepsWithin_nothing noInstance).translate.exists_ok

/-- A text that seems to lie in an instance, where there is none, with a fill, a
letter case and an export that cannot be expressed. -/
def strayText : Node :=
  .leaf "I2:2;1:2" "Label"
    (.text "x" { TypeStyle.blank with letterCase := some "SMALL_CAPS" }
      { Layer.blank with
        fills := [⟨.unsupported "EMOJI", true, 1.0, none⟩]
        exportSettings := [.scaled .pdf 1.0] })

/-- A document with this text has markup. -/
theorem strayText_translated :
    let root : Node := .container "0:0" "Document" .document
      [.container "1:1" "Card" (.component false .blank) [strayText]]
    Exists fun markup =>
      ((Reported.ofExcept (build root OrderedMap.empty .standard "card.pc")).bind
        translate).outcome = .ok markup := by
  intro root
  have indexable : Scene.Indexable root OrderedMap.empty := ⟨rfl, by decide⟩
  apply (translation_ends_structurally root OrderedMap.empty .standard "card.pc").2.2 indexable
  decide

end Project
end SceneMarkup
