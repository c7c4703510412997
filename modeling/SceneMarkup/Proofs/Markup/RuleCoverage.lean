import SceneMarkup.Proofs.Index.DocumentOrder
import SceneMarkup.Proofs.Markup.PageText
import SceneMarkup.Proofs.Markup.Stylesheet
import SceneMarkup.Proofs.OrderedMap
import SceneMarkup.Proofs.Style.Cascade

namespace SceneMarkup
namespace Project

/-!
# Every layer has its rule

The layers of a stylesheet are found by going through the subtree of every component,
and a layer that is met again keeps its first place.  First places are those of the
nodes inside components, in document order, and the rules are what is left when layers
with nothing to declare are dropped.
-/

variable {project : Project}

/-! ## Layers in document order -/

theorem nestedStyles_eq_ok_iff (keys : List NodeKey) (nested : List NestedStyle) :
    (project.nestedStyles keys).outcome = .ok nested ↔
      List.Forall₂ (fun key tree => (project.nestedStyle key).outcome = .ok tree) keys nested := by
  induction keys generalizing nested with
  | nil =>
      rw [nestedStyles, List.forall₂_nil_left_iff, Reported.outcome_pure, Except.ok.injEq, eq_comm]
  | cons key rest ih =>
      simp only [nestedStyles, Reported.outcome_bind_eq_ok_iff, Reported.outcome_pure,
        Except.ok.injEq, List.forall₂_cons_left_iff, ih]
      constructor
      · rintro ⟨first, head, others, below, same⟩
        exact ⟨first, others, head, below, same.symm⟩
      · rintro ⟨first, others, head, below, same⟩
        exact ⟨first, head, others, below, same.symm⟩

/-- The levels of the nested style of a node are those of its subtree, in order. -/
theorem map_walk_eq_subtree {key : NodeKey} {tree : NestedStyle}
    (valid : project.scene.IsNode key)
    (styled : (project.nestedStyle key).outcome = .ok tree) :
    tree.walk.map Prod.fst = project.scene.subtree key := by
  have held : (project.scene.document key.file).Holds key.index _ (project.node key) :=
    Document.holds _ valid
  rw [nestedStyle_eq] at styled
  rw [Scene.subtree_eq held]
  exact (walk_of_nestedStyleAt styled).1

theorem map_walks_eq_subtrees {keys : List NodeKey} {nested : List NestedStyle}
    (valid : forall key, key ∈ keys -> project.scene.IsNode key)
    (styled : List.Forall₂ (fun key tree => (project.nestedStyle key).outcome = .ok tree)
      keys nested) :
    (nested.flatMap NestedStyle.walk).map Prod.fst = keys.flatMap project.scene.subtree := by
  induction styled with
  | nil => rfl
  | cons first rest ih =>
      rw [List.forall_mem_cons] at valid
      rw [List.flatMap_cons, List.flatMap_cons, List.map_append,
        map_walk_eq_subtree valid.1 first, ih valid.2]

/-- Levels keep the first places of their addresses. -/
theorem map_distinctLevels (levels : List (NodeKey × Style)) :
    (distinctLevels levels).map Prod.fst = (levels.map Prod.fst).eraseDups := by
  induction levels with
  | nil => rfl
  | cons level rest ih =>
      rw [distinctLevels, List.map_cons, List.map_cons, eraseDups_cons_eq, ← ih, List.filter_map]
      rfl

/-- The layers of a stylesheet are the nodes inside components, in document order. -/
theorem layers_of_styleLevels {levels : List (NodeKey × Style)}
    (made : project.styleLevels.outcome = .ok levels) :
    InOrder (levels.map Prod.fst) ∧
      forall key, key ∈ levels.map Prod.fst ↔ project.InComponent key := by
  rw [styleLevels] at made
  rcases (Reported.outcome_bind_eq_ok_iff _ _ _).mp made with ⟨nested, walked, whole⟩
  have styled := (nestedStyles_eq_ok_iff _ _).mp walked
  rw [← Except.ok.inj whole, map_distinctLevels,
    map_walks_eq_subtrees (fun key member => (isNode_of_mem_components member).1) styled]
  exact ⟨inOrder_componentSubtrees project, mem_componentSubtrees_iff⟩

/-! ## Rules -/

/-- A rule style has something to declare: what does not place its layer or, where
absolute positions are on, what does. -/
def NeedsRule (project : Project) (style : Style) : Prop :=
  (Exists fun entry => entry ∈ style.entries ∧ Style.isLayout entry.1 = false) ∨
    (project.options.absoluteLayout = true ∧
      Exists fun entry => entry ∈ style.entries ∧ Style.isLayout entry.1 = true)

theorem isEmpty_filter_eq_false_iff (style : Style) (keep : String -> Bool) :
    (style.filter keep).isEmpty = false ↔
      Exists fun entry => entry ∈ style.entries ∧ keep entry.1 = true := by
  rw [OrderedMap.isEmpty, OrderedMap.entries_filter, List.isEmpty_eq_false_iff_exists_mem]
  simp only [List.mem_filter]

/-- What places a layer is declared where absolute positions are on and there is
anything to declare. -/
theorem isEmpty_ruleLayout_eq_false_iff (style : Style) :
    (project.ruleLayout style).isEmpty = false ↔
      project.options.absoluteLayout = true ∧
        Exists fun entry => entry ∈ style.entries ∧ Style.isLayout entry.1 = true := by
  rw [ruleLayout]
  cases project.options.absoluteLayout with
  | true =>
      rw [if_pos rfl, Style.layout, isEmpty_filter_eq_false_iff]
      simp only [true_and]
  | false => simp [OrderedMap.isEmpty, OrderedMap.empty]

theorem needsRule_iff (style : Style) :
    project.NeedsRule style ↔
      (style.appearance.isEmpty && (project.ruleLayout style).isEmpty) = false := by
  rw [NeedsRule, Bool.and_eq_false_iff, Style.appearance, isEmpty_filter_eq_false_iff,
    isEmpty_ruleLayout_eq_false_iff]
  simp only [Bool.not_eq_true']

instance (style : Style) : Decidable (project.NeedsRule style) :=
  decidable_of_iff _ (needsRule_iff style).symm

theorem isSome_rule?_iff {key : NodeKey} {style : Style} {made : Option Rule}
    (ruled : (project.rule? key style).outcome = .ok made) :
    made.isSome = true ↔ project.NeedsRule style := by
  rw [needsRule_iff]
  rw [rule?] at ruled
  split at ruled
  · rename_i nothing
    rw [← Except.ok.inj ruled, nothing]
    simp
  · rename_i something
    rcases (Reported.outcome_bind_eq_ok_iff _ _ _).mp ruled with ⟨selector, _, whole⟩
    rw [← Except.ok.inj whole, Bool.eq_false_iff.mpr something]
    simp

/-- The rules that are made belong to the levels that need one, in their order. -/
theorem keys_of_rulesOf {levels : List (NodeKey × Style)} {rules : List Rule}
    (made : (project.rulesOf levels).outcome = .ok rules) :
    rules.map (·.key) =
      (levels.filter fun level => decide (project.NeedsRule level.2)).map Prod.fst := by
  induction levels generalizing rules with
  | nil =>
      rw [rulesOf] at made
      rw [← Except.ok.inj made]
      rfl
  | cons level rest ih =>
      rw [rulesOf] at made
      rcases (Reported.outcome_bind_eq_ok_iff _ _ _).mp made with ⟨first, head, tail⟩
      rcases (Reported.outcome_bind_eq_ok_iff _ _ _).mp tail with ⟨others, below, whole⟩
      have needed := isSome_rule?_iff head
      rw [← Except.ok.inj whole, List.map_append, ih below, List.filter_cons]
      cases first with
      | none =>
          have idle : ¬ project.NeedsRule level.2 := by
            intro needs
            cases needed.mpr needs
          rw [if_neg (by simpa using idle)]
          rfl
      | some rule =>
          rw [if_pos (by simpa using needed.mp rfl), List.map_cons,
            ← (declarations_of_rule? head).1]
          rfl

/-! ## What stands inside a rule -/

/-- Declarations, one to a line. -/
def listed (entries : List StyleEntry) : List Piece :=
  entries.flatMap fun entry => Piece.texts [entry.1, ": ", entry.2, ";\n"]

/-- The body of the rule for a style: the declarations that do not place the layer
and, only where absolute positions are on and there are any, those that do, in a
block of their own. -/
def ruleBody (project : Project) (style : Style) : List Piece :=
  listed (style.entries.filter fun entry => ! Style.isLayout entry.1) ++
    if project.options.absoluteLayout = true ∧
        Exists fun entry => entry ∈ style.entries ∧ Style.isLayout entry.1 = true then
      [.text "&[data-with-absolute-layout] \x7b\n"]
        ++ Piece.block (listed (style.entries.filter fun entry => Style.isLayout entry.1))
        ++ [.text "\x7d\n"]
    else []

theorem pieces_eq_rule {rule : Rule} {style : Style} (appearance : rule.appearance = style.appearance)
    (layout : rule.layout = project.ruleLayout style) :
    rule.pieces = Piece.rule rule.selector.text (project.ruleBody style) := by
  have placed : (project.ruleLayout style).isEmpty = false ↔ _ :=
    isEmpty_ruleLayout_eq_false_iff style
  rw [Rule.pieces, appearance, layout, ruleBody]
  cases nothing : (project.ruleLayout style).isEmpty with
  | true =>
      rw [if_neg fun both => Bool.noConfusion (nothing.symm.trans (placed.mpr both))]
      rfl
  | false =>
      have whole : project.ruleLayout style = style.layout := if_pos (placed.mp nothing).1
      rw [if_pos (placed.mp nothing), whole]
      rfl

/-- Where a project has markup, every node inside a component has a rule style.  The
rules of the stylesheet are in document order, with one rule for each of these nodes
whose style has something to declare and none for any other node.  A rule is
addressed to its node, and what stands inside is its style: first what does not place
the layer, and then, in a block of its own, what does.  Between the style tags of the
markup stand the texts of these rules, each as it is written in the block, and behind
them only the rules that place previews. -/
theorem rules_cover_layers {markup : String}
    (translated : project.translate.outcome = .ok markup) :
    Exists fun page => project.page.outcome = .ok page ∧
      page.markup? project.options = .ok markup ∧
      (Exists fun front => Exists fun behind => markup =
        String.join [front, "<style>\n", String.join (page.stylesheet.rules.map Rule.text),
          String.join (page.stylesheet.previewRules.map PreviewRule.text), "</style>\n\n",
          behind]) ∧
      (forall key, project.InComponent key ->
        Exists fun style => (project.overrideStyle key).outcome = .ok style) ∧
      InOrder (page.stylesheet.rules.map (·.key)) ∧
      (forall key, key ∈ page.stylesheet.rules.map (·.key) ↔
        project.InComponent key ∧ Exists fun style =>
          (project.overrideStyle key).outcome = .ok style ∧ project.NeedsRule style) ∧
      forall rule, rule ∈ page.stylesheet.rules -> Exists fun style =>
        (project.overrideStyle rule.key).outcome = .ok style ∧
        (project.selector rule.key).outcome = .ok rule.selector ∧
        rule.pieces = Piece.rule rule.selector.text (project.ruleBody style) ∧
        Piece.Writes (Piece.rule rule.selector.text (project.ruleBody style)) 1 rule.text := by
  rcases exists_page_of_translate translated with ⟨page, written, text, whole⟩
  have styled := ((page_eq_ok_iff page).mp written).2.1
  have drawn := styled
  rw [stylesheet] at drawn
  rcases (Reported.outcome_bind_eq_ok_iff _ _ _).mp drawn with ⟨levels, walked, rest⟩
  rcases (Reported.outcome_bind_eq_ok_iff _ _ _).mp rest with ⟨rules, made, sheet⟩
  have same : page.stylesheet.rules = rules := by rw [← Except.ok.inj sheet]
  rcases layers_of_styleLevels walked with ⟨ordered, layers⟩
  have keys := keys_of_rulesOf made
  have levelOf : forall key, project.InComponent key -> Exists fun style =>
      (key, style) ∈ levels ∧ (project.overrideStyle key).outcome = .ok style := by
    intro key inside
    rcases List.mem_map.mp ((layers key).mpr inside) with ⟨level, member, rfl⟩
    exact ⟨level.2, member, (mem_styleLevels walked member).2.1⟩
  refine ⟨page, written, text, ?_, ?_, ?_, ?_, ?_⟩
  · rw [whole]
    exact page.text_around_rules project.options
  · intro key inside
    rcases levelOf key inside with ⟨style, _, ruled⟩
    exact ⟨style, ruled⟩
  · rw [same, keys]
    exact ordered.sublist (List.filter_sublist.map Prod.fst)
  · intro key
    rw [same, keys, List.mem_map]
    constructor
    · rintro ⟨level, member, rfl⟩
      rw [List.mem_filter, decide_eq_true_eq] at member
      exact ⟨(layers level.1).mp (List.mem_map_of_mem member.1), level.2,
        (mem_styleLevels walked member.1).2.1, member.2⟩
    · rintro ⟨inside, style, ruled, needs⟩
      rcases levelOf key inside with ⟨known, member, knownRuled⟩
      rw [Except.ok.inj (ruled.symm.trans knownRuled)] at needs
      exact ⟨(key, known), List.mem_filter.mpr ⟨member, by simpa using needs⟩, rfl⟩
  · intro rule member
    rcases mem_rules_of_stylesheet styled member with ⟨_, style, ruled, appearance, layout⟩
    have pieces : rule.pieces = Piece.rule rule.selector.text (project.ruleBody style) :=
      pieces_eq_rule appearance layout
    refine ⟨style, ruled, ?_, pieces, pieces ▸ rule.writes_pieces⟩
    rw [same] at member
    rcases mem_rulesOf made rule member with ⟨level, _, ruleMade⟩
    exact (declarations_of_rule? ruleMade).1 ▸ addressed_of_rule? ruleMade

/-- A panel that holds a label, a badge which is a component of its own, a label with
nothing to declare and a box with nothing but a place; and a label outside. -/
def panelWithBadge : Project where
  scene :=
    { main := .ofDocument (.ofRoot (.container "0:0" "Document" .document
        [ .container "1:1" "Panel" (.component false .blank)
            [ decoratedText "1:2" "UNDERLINE",
              .container "2:1" "Badge" (.component false .blank)
                [decoratedText "2:2" "STRIKETHROUGH"],
              decoratedText "1:3" "NONE",
              .container "1:4" "Box"
                (.frame false { Layer.blank with boundingBox := some ⟨0, 0, 8, 8⟩ }) [] ],
          decoratedText "3:1" "UNDERLINE" ]))
      imports := [] }
  options := ⟨true, false⟩
  outputPath := ""

/-- The label of the badge, which is met twice, has one rule like the label in front
of it and the box behind it. -/
theorem panelWithBadge_rules :
    Exists fun page => panelWithBadge.page.outcome = .ok page ∧
      page.stylesheet.rules.map (·.key) = [⟨.main, 2⟩, ⟨.main, 4⟩, ⟨.main, 6⟩] ∧
      forall rule, rule ∈ page.stylesheet.rules -> Exists fun style =>
        (panelWithBadge.overrideStyle rule.key).outcome = .ok style ∧
        (panelWithBadge.selector rule.key).outcome = .ok rule.selector ∧
        rule.pieces = Piece.rule rule.selector.text (panelWithBadge.ruleBody style) ∧
        Piece.Writes (Piece.rule rule.selector.text (panelWithBadge.ruleBody style)) 1
          rule.text := by
  have evaluated : panelWithBadge.page.outcome.toOption.any (fun page =>
      decide (page.stylesheet.rules.map (·.key) =
        [⟨.main, 2⟩, ⟨.main, 4⟩, ⟨.main, 6⟩])) = true := by
    decide +kernel
  rcases exists_page_of_any evaluated with ⟨known, made, passes⟩
  rw [decide_eq_true_eq] at passes
  rcases exists_translate_of_page made with ⟨markup, translated⟩
  rcases rules_cover_layers translated with ⟨page, written, _, _, _, _, _, bodies⟩
  rw [Except.ok.inj (made.symm.trans written)] at passes
  exact ⟨page, written, passes, bodies⟩

end Project
end SceneMarkup
