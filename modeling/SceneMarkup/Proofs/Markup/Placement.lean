import SceneMarkup.Proofs.Markup.PreviewTags
import SceneMarkup.Proofs.Markup.Stylesheet
import SceneMarkup.Proofs.Style.Placement

namespace SceneMarkup

/-!
# What switching positions off changes

Two runs over one scene are compared, with absolute positions and without.  The
style of every node loses its positions, and the question is what becomes of
everything that is made from styles: levels, rules, the stylesheet, the page.
Each of them is made by the same steps in both runs, and what the second run
makes is what the first one makes, less the positions.

One step of the work does not run alike.  With positions a layer that
declares nothing else still has a rule, and working out its selector follows the
overridden nodes once more.  What is reported on the way was reported when
the style of the layer was worked out, so the step needs to know that
much about the steps before it and nothing else.
-/

/-! ## Leaving positions out -/

/-- A rule without its positions, if anything is left. -/
def Rule.withoutPositions? (rule : Rule) : Option Rule :=
  if rule.appearance.isEmpty then none else some { rule with layout := OrderedMap.empty }

/-- A stylesheet without positions: neither layers nor previews are placed. -/
def Stylesheet.withoutPositions (sheet : Stylesheet) : Stylesheet :=
  ⟨sheet.rules.filterMap Rule.withoutPositions?, []⟩

/-- A page without positions.  All but its stylesheet stays. -/
def Page.withoutPositions (page : Page) : Page :=
  { page with stylesheet := page.stylesheet.withoutPositions }

namespace Project

open Reported

variable {project : Project}

/-- A level without the positions in its style. -/
def levelAppearance (level : NodeKey × Style) : NodeKey × Style :=
  (level.1, level.2.appearance)

/-! ## Levels -/

theorem overrideStyle_agree (known : List Warning) (key : NodeKey) :
    AgreeAfter known (fun placed bare => bare = placed.appearance)
      (project.overrideStyle key) (project.unplaced.overrideStyle key) := by
  rw [overrideStyle_unplaced]
  exact AgreeAfter.map Style.appearance _

mutual

/-- The nested styles of a tree differ in the positions of their levels. -/
theorem nestedStyleAt_agree (known : List Warning) (file : FileRef) (index : Nat) :
    (node : Node) ->
      AgreeAfter known (fun placed bare => bare.walk = placed.walk.map levelAppearance)
        (project.nestedStyleAt file index node) (project.unplaced.nestedStyleAt file index node)
  | .leaf id name kind => by
      rw [nestedStyleAt, nestedStyleAt]
      apply (overrideStyle_agree known _).bind
      intro style bareStyle _ _ same
      subst same
      apply AgreeAfter.pure
      rw [NestedStyle.walk_eq, NestedStyle.walk_eq]
      rfl
  | .container id name kind children => by
      rw [nestedStyleAt, nestedStyleAt]
      apply (overrideStyle_agree known _).bind
      intro style bareStyle _ _ same
      subst same
      apply (nestedStylesFrom_agree _ file (index + 1) children).bind
      intro below bareBelow _ _ walked
      apply AgreeAfter.pure
      rw [NestedStyle.walk_eq, NestedStyle.walk_eq, walked]
      rfl

theorem nestedStylesFrom_agree (known : List Warning) (file : FileRef) (next : Nat) :
    (nodes : List Node) ->
      AgreeAfter known
        (fun placed bare =>
          bare.flatMap NestedStyle.walk = (placed.flatMap NestedStyle.walk).map levelAppearance)
        (project.nestedStylesFrom file next nodes)
        (project.unplaced.nestedStylesFrom file next nodes)
  | [] => AgreeAfter.pure rfl
  | node :: rest => by
      rw [nestedStylesFrom, nestedStylesFrom]
      apply (nestedStyleAt_agree known file next node).bind
      intro first bareFirst _ _ walked
      apply (nestedStylesFrom_agree _ file (next + node.size) rest).bind
      intro others bareOthers _ _ othersWalked
      apply AgreeAfter.pure
      rw [List.flatMap_cons, List.flatMap_cons, List.map_append, walked, othersWalked]

end

theorem nestedStyles_agree (known : List Warning) (keys : List NodeKey) :
    AgreeAfter known
      (fun placed bare =>
        bare.flatMap NestedStyle.walk = (placed.flatMap NestedStyle.walk).map levelAppearance)
      (project.nestedStyles keys) (project.unplaced.nestedStyles keys) := by
  induction keys generalizing known with
  | nil => exact AgreeAfter.pure rfl
  | cons key rest ih =>
      rw [nestedStyles, nestedStyles, nestedStyle_eq, nestedStyle_eq]
      apply (nestedStyleAt_agree known key.file key.index (project.node key)).bind
      intro first bareFirst _ _ walked
      apply (ih _).bind
      intro others bareOthers _ _ othersWalked
      apply AgreeAfter.pure
      rw [List.flatMap_cons, List.flatMap_cons, List.map_append, walked, othersWalked]

theorem distinctLevels_map_levelAppearance (levels : List (NodeKey × Style)) :
    distinctLevels (levels.map levelAppearance) = (distinctLevels levels).map levelAppearance := by
  induction levels with
  | nil => rfl
  | cons level rest ih =>
      rw [List.map_cons, distinctLevels, distinctLevels, ih, List.map_cons, List.filter_map]
      rfl

/-- The levels of a stylesheet differ in their positions. -/
theorem styleLevels_agree (known : List Warning) :
    AgreeAfter known (fun placed bare => bare = placed.map levelAppearance)
      project.styleLevels project.unplaced.styleLevels := by
  unfold styleLevels
  apply (nestedStyles_agree known project.components).bind
  intro nested bareNested _ _ walked
  apply AgreeAfter.pure
  rw [walked, distinctLevels_map_levelAppearance]

/-! ## Rules -/

/-- The nodes that a node overrides are known, and so is what is reported about
finding them. -/
def IsFollowed (project : Project) (known : List Warning) (key : NodeKey) : Prop :=
  (Exists fun chain => (project.overrideChain key).outcome = .ok chain) ∧
    (project.overrideChain key).raised ⊆ known

/-- A node whose rule style is worked out has been followed. -/
theorem isFollowed_of_isRuled {level : NodeKey × Style} (ruled : project.IsRuled level) :
    project.IsFollowed (project.overrideStyle level.1).raised level.1 := by
  unfold IsRuled at ruled
  unfold overrideStyle at ruled ⊢
  rcases (outcome_bind_eq_ok_iff _ _ _).mp ruled with ⟨_, warned, rest⟩
  rcases (outcome_bind_eq_ok_iff _ _ _).mp rest with ⟨chain, found, _⟩
  refine ⟨⟨chain, found⟩, ?_⟩
  rw [raised_bind_of_ok warned]
  exact List.subset_append_of_subset_right _ (raised_subset_bind _ _)

theorem selector_unplaced (key : NodeKey) :
    project.unplaced.selector key = project.selector key := by
  unfold selector
  rw [overrideChain_unplaced]
  rfl

/-- A rule without positions is what is left of the rule with positions. -/
theorem rule?_agree {known : List Warning} {key : NodeKey} (followed : project.IsFollowed known key)
    (style : Style) :
    AgreeAfter known (fun placed bare => bare = placed.bind Rule.withoutPositions?)
      (project.rule? key style) (project.unplaced.rule? key style.appearance) := by
  rcases followed with ⟨⟨chain, found⟩, raised⟩
  have bareLayout : forall other, project.unplaced.ruleLayout other = OrderedMap.empty :=
    fun _ => rfl
  unfold rule?
  simp only [bareLayout, Style.appearance_appearance, selector_unplaced]
  cases empty : style.appearance.isEmpty with
  | false =>
      apply AgreeAfter.bind_same (project.selector key)
      intro selector _
      apply AgreeAfter.pure
      rw [Option.bind_some, Rule.withoutPositions?, if_neg]
      rw [empty]
      exact Bool.false_ne_true
  | true =>
      -- Only positions are declared, if anything is, so no rule is left.
      cases (project.ruleLayout style).isEmpty with
      | true => exact AgreeAfter.pure rfl
      | false =>
          have selected : (project.selector key).outcome = .ok (project.selectorOver key chain) :=
            outcome_bind_of_ok found _
          have silent : (project.selector key).raised = (project.overrideChain key).raised := by
            unfold selector
            rw [raised_bind_of_ok found, raised_pure, List.append_nil]
          apply AgreeAfter.of_subset
          · change Fault.Alike _ (project.selector key >>= _).outcome _
            rw [outcome_bind_of_ok selected]
            change none = Rule.withoutPositions? _
            rw [Rule.withoutPositions?, if_pos empty]
          · change (project.selector key >>= _).raised ⊆ known
            rw [raised_bind_of_ok selected, raised_pure, List.append_nil, silent]
            exact raised
          · exact List.nil_subset known

theorem rulesOf_agree {known : List Warning} {levels : List (NodeKey × Style)}
    (followed : forall level, level ∈ levels -> project.IsFollowed known level.1) :
    AgreeAfter known (fun placed bare => bare = placed.filterMap Rule.withoutPositions?)
      (project.rulesOf levels) (project.unplaced.rulesOf (levels.map levelAppearance)) := by
  induction levels generalizing known with
  | nil => exact AgreeAfter.pure rfl
  | cons level rest ih =>
      rw [List.map_cons, levelAppearance, rulesOf, rulesOf]
      apply (rule?_agree (followed level List.mem_cons_self) level.2).bind
      intro first bareFirst _ _ same
      subst same
      have later : forall other, other ∈ rest ->
          project.IsFollowed (known ++ (project.rule? level.1 level.2).raised) other.1 := by
        intro other member
        rcases followed other (List.mem_cons_of_mem _ member) with ⟨found, raised⟩
        exact ⟨found, List.subset_append_of_subset_left _ raised⟩
      apply (ih later).bind
      intro others bareOthers _ _ same
      subst same
      apply AgreeAfter.pure
      cases first with
      | none => rfl
      | some rule =>
          rw [Option.toList_some, List.singleton_append, List.filterMap_cons, Option.bind_some]
          cases rule.withoutPositions? <;> rfl

theorem previewRules_unplaced : project.unplaced.previewRules = [] := by
  unfold previewRules
  exact if_neg (by simp [unplaced])

theorem stylesheet_agree (known : List Warning) :
    AgreeAfter known (fun placed bare => bare = placed.withoutPositions)
      project.stylesheet project.unplaced.stylesheet := by
  unfold stylesheet
  apply (styleLevels_agree known).bind
  intro levels bareLevels made _ same
  subst same
  have followed : forall level, level ∈ levels ->
      project.IsFollowed (known ++ project.styleLevels.raised) level.1 := by
    intro level member
    rcases mem_styleLevels made member with ⟨_, ruled, raised⟩
    rcases isFollowed_of_isRuled ruled with ⟨found, included⟩
    exact ⟨found, List.subset_append_of_subset_right _ (List.Subset.trans included raised)⟩
  apply (rulesOf_agree followed).bind
  intro rules bareRules _ _ same
  subst same
  apply AgreeAfter.pure
  rw [previewRules_unplaced]
  rfl

/-! ## Pages -/

theorem declaredKeys_unplaced : project.unplaced.declaredKeys = project.declaredKeys := by
  rw [declaredKeys_eq, declaredKeys_eq]
  rfl

theorem declarations_unplaced : project.unplaced.declarations = project.declarations := by
  unfold declarations
  rw [declaredKeys_unplaced]
  rfl

theorem declarationWarnings_unplaced :
    project.unplaced.declarationWarnings = project.declarationWarnings := by
  unfold declarationWarnings
  rw [declaredKeys_unplaced]
  rfl

mutual

theorem previewNodeAt_unplaced (index : Nat) : (node : Node) ->
    project.unplaced.previewNodeAt index node = project.previewNodeAt index node
  | .leaf _ _ _ => by
      rw [previewNodeAt, previewNodeAt]
      rfl
  | .container id name kind children => by
      cases shown : showsElement index (.container id name kind children) with
      | true =>
          rw [previewNodeAt_of_shown shown, previewNodeAt_of_shown shown,
            previewNodesFrom_unplaced (index + 1) children]
          rfl
      | false =>
          cases kind with
          | placement componentId clips layer => rfl
          | component clips layer => rfl
          | document => cases shown
          | canvas background => cases shown
          | group => cases shown
          | frame clips layer => cases shown

theorem previewNodesFrom_unplaced (next : Nat) : (nodes : List Node) ->
    project.unplaced.previewNodesFrom next nodes = project.previewNodesFrom next nodes
  | [] => rfl
  | node :: rest => by
      rw [previewNodesFrom, previewNodesFrom, previewNodeAt_unplaced next node,
        previewNodesFrom_unplaced (next + node.size) rest]

end

theorem wantedPreviews_unplaced : project.unplaced.wantedPreviews = project.wantedPreviews := by
  have each : project.unplaced.preview = project.preview := by
    funext key
    unfold preview
    rw [previewNodesFrom_unplaced]
    rfl
  unfold wantedPreviews previews
  rw [each]
  rfl

/-- Pages differ in the positions of their stylesheets. -/
theorem page_agree :
    AgreeAfter [] (fun placed bare => bare = placed.withoutPositions)
      project.page project.unplaced.page := by
  unfold page
  rw [declarations_unplaced, declarationWarnings_unplaced, wantedPreviews_unplaced]
  apply AgreeAfter.bind_same (ofExcept project.resolveInstances)
  intro instances _
  apply (AgreeAfter.announce _ _).bind
  intro _ _ _ _ _
  apply (AgreeAfter.announce _ _).bind
  intro _ _ _ _ _
  apply (stylesheet_agree _).bind
  intro sheet bareSheet _ _ same
  subst same
  -- Without positions there are fewer rules to announce.
  apply (AgreeAfter.announce _ _).bind
  intro _ _ _ _ _
  apply AgreeAfter.bind_same
  intro _ _
  apply (AgreeAfter.announce _ _).bind
  intro _ _ _ _ _
  apply AgreeAfter.bind_same project.wantedPreviews
  intro previews _
  exact AgreeAfter.pure rfl

/-! ## Markup -/

/-- The last step to markup, once the page is made. -/
def write (options : Options) (page : Page) : Reported String := do
  let writer ← ofExcept (Writer.empty.putAll? (page.pieces options))
  announce (.finished writer.buffer.utf8ByteSize)
  ofExcept writer.finish?

theorem outcome_write (options : Options) (page : Page) :
    (write options page).outcome = page.markup? options := by
  rw [write, Page.markup?]
  cases Writer.empty.putAll? (page.pieces options) <;> rfl

theorem raised_write (options : Options) (page : Page) : (write options page).raised = [] := by
  rw [write]
  cases Writer.empty.putAll? (page.pieces options) <;> rfl

/-- Two projects differ in positions only.  They end alike and warn alike, the
same nodes are overridden in both, and what a rule declares or the markup shows in
the second is what it is in the first, less the positions. -/
structure DiffersInPositions (placed bare : Project) : Prop where
  chain : forall key, bare.overrideChain key = placed.overrideChain key
  style : forall key, bare.overrideStyle key = Style.appearance <$> placed.overrideStyle key
  markup : Fault.Alike
    (fun placedMarkup bareMarkup => Exists fun page =>
      placed.page.outcome = .ok page ∧ page.markup? placed.options = .ok placedMarkup ∧
        bare.page.outcome = .ok page.withoutPositions ∧
        page.withoutPositions.markup? bare.options = .ok bareMarkup)
    placed.translate.outcome bare.translate.outcome
  warnings : Notice.warnings placed.translate.notices = Notice.warnings bare.translate.notices
  rules : forall page, bare.page.outcome = .ok page -> page.stylesheet.previewRules = [] ∧
    forall rule, rule ∈ page.stylesheet.rules -> forall property,
      Style.isLayout property = true ->
        rule.appearance.contains property = false ∧ rule.layout.contains property = false

theorem translate_agree :
    AgreeAfter []
      (fun placedMarkup bareMarkup => Exists fun page =>
        project.page.outcome = .ok page ∧ page.markup? project.options = .ok placedMarkup ∧
          project.unplaced.page.outcome = .ok page.withoutPositions ∧
          page.withoutPositions.markup? project.unplaced.options = .ok bareMarkup)
      project.translate project.unplaced.translate := by
  rw [translate_eq, translate_eq]
  change AgreeAfter [] _ (project.page >>= write project.options)
    (project.unplaced.page >>= write project.unplaced.options)
  apply page_agree.bind
  intro page barePage made bareMade same
  subst same
  apply AgreeAfter.of_silent _ (raised_write _ _) (raised_write _ _)
  rcases page.exists_markup project.options with ⟨markup, text⟩
  rcases page.withoutPositions.exists_markup project.unplaced.options with ⟨bareMarkup, bareText⟩
  rw [outcome_write, outcome_write, text, bareText]
  exact ⟨page, made, text, bareMade, bareText⟩

/-- A stylesheet without positions places no preview, and no rule in it declares a
position, not even to reset it. -/
theorem stylesheet_unplaced_places_nothing {sheet : Stylesheet}
    (styled : project.unplaced.stylesheet.outcome = .ok sheet) :
    sheet.previewRules = [] ∧
      forall rule, rule ∈ sheet.rules -> forall property, Style.isLayout property = true ->
        rule.appearance.contains property = false ∧ rule.layout.contains property = false := by
  constructor
  · rw [stylesheet] at styled
    rcases (outcome_bind_eq_ok_iff _ _ _).mp styled with ⟨_, _, rest⟩
    rcases (outcome_bind_eq_ok_iff _ _ _).mp rest with ⟨_, _, whole⟩
    rw [← Except.ok.inj whole]
    exact previewRules_unplaced
  · intro rule member property placing
    rcases mem_rules_of_stylesheet styled member with ⟨_, style, _, appearance, layout⟩
    rw [appearance, layout, Style.appearance, OrderedMap.contains_filter, placing]
    exact ⟨rfl, rfl⟩

theorem differsInPositions_unplaced (project : Project) :
    DiffersInPositions project project.unplaced where
  chain := project.overrideChain_unplaced
  style := project.overrideStyle_unplaced
  markup := translate_agree.outcome
  warnings := translate_agree.warnings_eq
  rules page made := stylesheet_unplaced_places_nothing ((page_eq_ok_iff page).mp made).2.1

/-- Whether positions are on or off, a project can be built or not for the same
reason, and all that is made from it differs in positions only. -/
theorem build_differsInPositions (root : Node) (imports : Imports) (previews : Bool)
    (outputPath : String) :
    Fault.Alike DiffersInPositions (build root imports ⟨true, previews⟩ outputPath)
      (build root imports ⟨false, previews⟩ outputPath) := by
  unfold build
  cases Scene.build root imports with
  | error fault => rfl
  | ok scene => exact differsInPositions_unplaced ⟨scene, ⟨true, previews⟩, outputPath⟩

end Project
end SceneMarkup
