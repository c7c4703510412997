import SceneMarkup.Proofs.Markup.Page
import SceneMarkup.Proofs.Markup.Stylesheet
import SceneMarkup.Proofs.Naming.ClassNames
import SceneMarkup.Proofs.Style.Cascade

namespace SceneMarkup

/-!
# Which rules share a selector

A selector can be read back from its text, because no class contains a dot, a
blank or a comma.  Two rules are therefore written with the same selector exactly
if they are addressed by the same classes: that of the deepest overridden node,
and those of the components that own the nodes along the way.

A class stands for one node of a document.  Within one document the rules of two
nodes collide exactly if both override the same deepest node through the same
components.  The instances along the way leave no trace in the selector, so two
instances of one component inside one component do collide, while a layer outside
of instances has its selector to itself.
-/

/-! ## Reading a selector back -/

namespace Selector

/-- The classes of a selector are texts that may stand in one. -/
structure IsPlain (selector : Selector) : Prop where
  scope : forall className, className ∈ selector.scope -> IsClassText className.toList
  target : IsClassText selector.target.toList

theorem toList_dotted (className : String) :
    (dotted className).toList = '.' :: className.toList := by
  rw [dotted, String.toList_append]
  rfl

/-- A dotted class contains neither blanks nor commas. -/
theorem bne_of_mem_dotted {className : String} (plain : IsClassText className.toList)
    {separator : Char} (foreign : ¬ IsClassChar separator) (noDot : ('.' != separator) = true)
    (char : Char) (member : char ∈ (dotted className).toList) : (char != separator) = true := by
  rw [toList_dotted, List.mem_cons] at member
  rcases member with dot | inside
  · rw [dot]
    exact noDot
  · exact plain.bne foreign char inside

/-- Dotted classes written one after the other, as characters. -/
def joined (scope : List String) : List Char :=
  (String.join (scope.map dotted)).toList

theorem joined_cons (className : String) (rest : List String) :
    joined (className :: rest) = '.' :: (className.toList ++ joined rest) := by
  rw [joined, List.map_cons, String.join_cons, String.toList_append, toList_dotted]
  rfl

theorem takeWhile_joined (scope : List String) :
    (joined scope).takeWhile (· != '.') = [] := by
  cases scope with
  | nil => rfl
  | cons className rest =>
      rw [joined_cons]
      rfl

/-- Every class in a row of dotted classes can be read off it. -/
theorem joined_injective {first : List String} :
    forall {second : List String},
      (forall className, className ∈ first -> IsClassText className.toList) ->
      (forall className, className ∈ second -> IsClassText className.toList) ->
      joined first = joined second -> first = second := by
  induction first with
  | nil =>
      intro second _ _ same
      cases second with
      | nil => rfl
      | cons className rest =>
          rw [joined_cons] at same
          cases same
  | cons firstClass firstRest ih =>
      intro second firstPlain secondPlain same
      cases second with
      | nil =>
          rw [joined_cons] at same
          cases same
      | cons secondClass secondRest =>
          rw [joined_cons, joined_cons, List.cons.injEq] at same
          have firstHead := firstPlain firstClass List.mem_cons_self
          have secondHead := secondPlain secondClass List.mem_cons_self
          rcases append_inj_of_takeWhile (firstHead.bne (by decide)) (secondHead.bne (by decide))
            (takeWhile_joined firstRest) (takeWhile_joined secondRest) same.2 with ⟨head, tail⟩
          have rest := ih
            (fun className member => firstPlain className (List.mem_cons_of_mem _ member))
            (fun className member => secondPlain className (List.mem_cons_of_mem _ member)) tail
          rw [String.toList_inj.mp head, rest]

/-- What comes before the first blank of a selector. -/
def front (selector : Selector) : List Char :=
  if selector.scope = [] then (dotted selector.target).toList else joined selector.scope

/-- What comes from the first blank of a selector on. -/
def back (selector : Selector) : List Char :=
  if selector.scope = [] then []
  else
    ' ' :: ((dotted selector.target).toList
      ++ ", ".toList ++ (" ".intercalate (selector.scope.map dotted)).toList
      ++ " ".toList ++ (dotted selector.target).toList)

theorem toList_text (selector : Selector) : selector.text.toList = selector.front ++ selector.back := by
  rw [text, front, back]
  cases selector.scope with
  | nil =>
      rw [if_pos rfl, if_pos rfl, List.append_nil]
      rfl
  | cons className rest =>
      have nonempty : ¬ className :: rest = [] := List.cons_ne_nil _ _
      rw [if_neg nonempty, if_neg nonempty, List.map_cons, List.isEmpty_cons]
      simp only [Bool.false_eq_true, if_false, String.toList_append, joined, List.map_cons,
        List.append_assoc]
      rfl

theorem front_kept {selector : Selector} (plain : selector.IsPlain) (char : Char)
    (member : char ∈ selector.front) : (char != ' ') = true := by
  rw [front] at member
  split at member
  · exact bne_of_mem_dotted plain.target (by decide) (by decide) char member
  · rw [joined, String.toList_join, List.mem_flatMap] at member
    rcases member with ⟨part, listed, inside⟩
    rcases List.mem_map.mp listed with ⟨className, inScope, same⟩
    rw [← same] at inside
    exact bne_of_mem_dotted (plain.scope className inScope) (by decide) (by decide) char inside

theorem takeWhile_back (selector : Selector) : selector.back.takeWhile (· != ' ') = [] := by
  rw [back]
  split <;> rfl

/-- A selector can be read back from its text. -/
theorem text_injective {first second : Selector} (firstPlain : first.IsPlain)
    (secondPlain : second.IsPlain) (same : first.text = second.text) : first = second := by
  have letters := congrArg String.toList same
  rw [toList_text, toList_text] at letters
  rcases append_inj_of_takeWhile (front_kept firstPlain) (front_kept secondPlain)
    (takeWhile_back first) (takeWhile_back second) letters with ⟨fronts, backs⟩
  cases first with
  | mk firstScope firstTarget =>
      cases second with
      | mk secondScope secondTarget =>
          rw [front, front] at fronts
          rw [back, back] at backs
          dsimp only at fronts backs
          rw [Selector.mk.injEq]
          by_cases firstEmpty : firstScope = []
          · by_cases secondEmpty : secondScope = []
            · rw [if_pos firstEmpty, if_pos secondEmpty, toList_dotted, toList_dotted,
                List.cons.injEq] at fronts
              exact ⟨firstEmpty.trans secondEmpty.symm, String.toList_inj.mp fronts.2⟩
            · rw [if_pos firstEmpty, if_neg secondEmpty] at backs
              cases backs
          · by_cases secondEmpty : secondScope = []
            · rw [if_neg firstEmpty, if_pos secondEmpty] at backs
              cases backs
            · rw [if_neg firstEmpty, if_neg secondEmpty] at fronts backs
              rw [List.cons.injEq] at backs
              simp only [List.append_assoc] at backs
              -- The target ends where the comma behind it begins.
              have comma : ¬ IsClassChar ',' := by decide
              have dot : ('.' != ',') = true := by decide
              rcases append_inj_of_takeWhile (bne_of_mem_dotted firstPlain.target comma dot)
                (bne_of_mem_dotted secondPlain.target comma dot) rfl rfl backs.2 with ⟨targets, _⟩
              rw [toList_dotted, toList_dotted, List.cons.injEq] at targets
              exact ⟨joined_injective firstPlain.scope secondPlain.scope fronts,
                String.toList_inj.mp targets.2⟩

end Selector

namespace Project

variable {project : Project}

/-! ## Addresses -/

/-- The deepest node that a node overrides, or the node itself where it overrides
none. -/
def deepest (key : NodeKey) (chain : List NodeKey) : NodeKey :=
  (key :: chain).getLast?.getD key

/-- The components that own a node and the nodes it overrides, in the order of
the chain. -/
def ownersAlong (project : Project) (key : NodeKey) (chain : List NodeKey) : List NodeKey :=
  (key :: chain).filterMap project.scene.ownerComponent?

theorem deepest_mem (key : NodeKey) (chain : List NodeKey) : deepest key chain ∈ key :: chain := by
  rw [deepest, List.getLast?_eq_some_getLast (List.cons_ne_nil key chain), Option.getD_some]
  exact List.getLast_mem _

theorem selectorOver_eq (project : Project) (key : NodeKey) (chain : List NodeKey) :
    project.selectorOver key chain =
      ⟨(project.ownersAlong key chain).map project.scene.className,
        project.scene.className (deepest key chain)⟩ := rfl

/-- The owners along a chain of nodes are nodes, each in the document of a node
of the chain. -/
theorem ownersAlong_isNode {key owner : NodeKey} {chain : List NodeKey}
    (member : owner ∈ project.ownersAlong key chain) :
    project.scene.IsNode owner ∧
      Exists fun node => node ∈ key :: chain ∧ owner.file = node.file := by
  rw [ownersAlong, List.mem_filterMap] at member
  rcases member with ⟨node, listed, found⟩
  rcases Scene.ownerComponent?_isNode found with ⟨sameFile, valid⟩
  exact ⟨valid, node, listed, sameFile⟩

theorem selectorOver_plain {key : NodeKey} {chain : List NodeKey}
    (valid : forall node, node ∈ key :: chain -> project.scene.IsNode node) :
    (project.selectorOver key chain).IsPlain where
  scope := by
    intro className member
    rcases List.mem_map.mp member with ⟨owner, listed, same⟩
    rw [← same]
    exact Scene.className_class (ownersAlong_isNode listed).1
  target := Scene.className_class (valid _ (deepest_mem key chain))

/-- Within one document, equal classes in equal places belong to equal nodes. -/
theorem map_className_injective {first : List NodeKey} :
    forall {second : List NodeKey},
      (forall key, key ∈ first -> project.scene.IsNode key ∧ key.file = .main) ->
      (forall key, key ∈ second -> project.scene.IsNode key ∧ key.file = .main) ->
      first.map project.scene.className = second.map project.scene.className ->
        first = second := by
  induction first with
  | nil =>
      intro second _ _ same
      exact (List.map_eq_nil_iff.mp same.symm).symm
  | cons key rest ih =>
      intro second firstNodes secondNodes same
      cases second with
      | nil => cases same
      | cons other others =>
          rw [List.map_cons, List.map_cons, List.cons.injEq] at same
          have keyNode := firstNodes key List.mem_cons_self
          have otherNode := secondNodes other List.mem_cons_self
          have head := Scene.className_injective keyNode.1 otherNode.1
            (keyNode.2.trans otherNode.2.symm) same.1
          have tail := ih
            (fun node member => firstNodes node (List.mem_cons_of_mem _ member))
            (fun node member => secondNodes node (List.mem_cons_of_mem _ member)) same.2
          rw [head, tail]

/-! ## The rules of a stylesheet -/

theorem selector_of_rule? {key : NodeKey} {style : Style} {rule : Rule}
    (made : (project.rule? key style).outcome = .ok (some rule)) :
    rule.key = key ∧ Exists fun chain => (project.overrideChain key).outcome = .ok chain ∧
      rule.selector = project.selectorOver key chain := by
  rcases (Reported.outcome_bind_eq_ok_iff _ _ _).mp (addressed_of_rule? made) with
    ⟨chain, found, same⟩
  exact ⟨(declarations_of_rule? made).1, chain, found, (Except.ok.inj same).symm⟩

/-- Every rule belongs to a node of the main document and is addressed along the
chain of that node. -/
theorem selector_of_mem_rules {sheet : Stylesheet} {rule : Rule}
    (styled : project.stylesheet.outcome = .ok sheet) (member : rule ∈ sheet.rules) :
    project.scene.IsNode rule.key ∧ rule.key.file = .main ∧
      Exists fun chain => (project.overrideChain rule.key).outcome = .ok chain ∧
        rule.selector = project.selectorOver rule.key chain := by
  rw [stylesheet] at styled
  rcases (Reported.outcome_bind_eq_ok_iff _ _ _).mp styled with ⟨levels, walked, rest⟩
  rcases (Reported.outcome_bind_eq_ok_iff _ _ _).mp rest with ⟨rules, made, whole⟩
  rw [← Except.ok.inj whole] at member
  rcases mem_rulesOf made rule member with ⟨level, listed, ruled⟩
  rcases selector_of_rule? ruled with ⟨same, addressed⟩
  rw [same]
  rcases isNode_of_mem_styleLevels walked listed with ⟨valid, main⟩
  exact ⟨valid, main, addressed⟩

/-! ## Collisions -/

/-- Selectors made along two chains have the same text exactly if the classes
they are made of agree. -/
theorem text_selectorOver_eq_iff {first second : NodeKey} {firstChain secondChain : List NodeKey}
    (firstValid : forall node, node ∈ first :: firstChain -> project.scene.IsNode node)
    (secondValid : forall node, node ∈ second :: secondChain -> project.scene.IsNode node) :
    (project.selectorOver first firstChain).text = (project.selectorOver second secondChain).text ↔
      project.scene.className (deepest first firstChain) =
          project.scene.className (deepest second secondChain) ∧
        (project.ownersAlong first firstChain).map project.scene.className =
          (project.ownersAlong second secondChain).map project.scene.className := by
  constructor
  · intro same
    have selectors := Selector.text_injective (selectorOver_plain firstValid)
      (selectorOver_plain secondValid) same
    rw [selectorOver_eq, selectorOver_eq, Selector.mk.injEq] at selectors
    exact ⟨selectors.2, selectors.1⟩
  · intro classes
    rw [selectorOver_eq, selectorOver_eq, classes.1, classes.2]

/-- Classes of nodes of the main document agree exactly if the nodes do. -/
theorem address_eq_iff {first second : NodeKey} {firstChain secondChain : List NodeKey}
    (firstNodes : forall node, node ∈ first :: firstChain ->
      project.scene.IsNode node ∧ node.file = .main)
    (secondNodes : forall node, node ∈ second :: secondChain ->
      project.scene.IsNode node ∧ node.file = .main) :
    (project.scene.className (deepest first firstChain) =
          project.scene.className (deepest second secondChain) ∧
        (project.ownersAlong first firstChain).map project.scene.className =
          (project.ownersAlong second secondChain).map project.scene.className) ↔
      deepest first firstChain = deepest second secondChain ∧
        project.ownersAlong first firstChain = project.ownersAlong second secondChain := by
  have owners : forall {key : NodeKey} {chain : List NodeKey},
      (forall node, node ∈ key :: chain -> project.scene.IsNode node ∧ node.file = .main) ->
        forall owner, owner ∈ project.ownersAlong key chain ->
          project.scene.IsNode owner ∧ owner.file = .main := by
    intro key chain nodes owner member
    rcases ownersAlong_isNode member with ⟨valid, node, listed, sameFile⟩
    exact ⟨valid, sameFile.trans (nodes node listed).2⟩
  constructor
  · intro classes
    have firstDeepest := firstNodes _ (deepest_mem first firstChain)
    have secondDeepest := secondNodes _ (deepest_mem second secondChain)
    exact ⟨Scene.className_injective firstDeepest.1 secondDeepest.1
        (firstDeepest.2.trans secondDeepest.2.symm) classes.1,
      map_className_injective (owners firstNodes) (owners secondNodes) classes.2⟩
  · intro nodes
    rw [nodes.1, nodes.2]
    exact ⟨rfl, rfl⟩

/-- Two rules have one selector exactly if the classes along their chains agree:
that of the deepest node and those of the owners.  Where nothing is imported this
means that they override the same deepest node through the same owners.  Layers
that override nothing share a selector with no other such layer. -/
theorem selector_text_eq_iff {markup : String}
    (translated : project.translate.outcome = .ok markup) :
    Exists fun page => project.page.outcome = .ok page ∧
      page.markup? project.options = .ok markup ∧
      forall first second, first ∈ page.stylesheet.rules -> second ∈ page.stylesheet.rules ->
        Exists fun firstChain => Exists fun secondChain =>
          (project.overrideChain first.key).outcome = .ok firstChain ∧
          (project.overrideChain second.key).outcome = .ok secondChain ∧
          (first.selector.text = second.selector.text ↔
            project.scene.className (deepest first.key firstChain) =
                project.scene.className (deepest second.key secondChain) ∧
              (project.ownersAlong first.key firstChain).map project.scene.className =
                (project.ownersAlong second.key secondChain).map project.scene.className) ∧
          (project.scene.imports = [] ->
            (first.selector.text = second.selector.text ↔
              deepest first.key firstChain = deepest second.key secondChain ∧
                project.ownersAlong first.key firstChain =
                  project.ownersAlong second.key secondChain)) ∧
          (firstChain = [] -> secondChain = [] ->
            (first.selector.text = second.selector.text ↔ first.key = second.key)) := by
  rcases (translate_eq_ok_iff markup).mp translated with ⟨page, written, text⟩
  have styled := ((page_eq_ok_iff page).mp written).2.1
  refine ⟨page, written, text, ?_⟩
  intro first second firstMember secondMember
  rcases selector_of_mem_rules styled firstMember with
    ⟨firstValid, firstMain, firstChain, firstFound, firstSelector⟩
  rcases selector_of_mem_rules styled secondMember with
    ⟨secondValid, secondMain, secondChain, secondFound, secondSelector⟩
  have firstNodes := overrideChain_isNode firstValid firstFound
  have secondNodes := overrideChain_isNode secondValid secondFound
  have classes := text_selectorOver_eq_iff firstNodes secondNodes
  rw [← firstSelector, ← secondSelector] at classes
  refine ⟨firstChain, secondChain, firstFound, secondFound, classes, ?_, ?_⟩
  · intro alone
    rw [classes]
    apply address_eq_iff
    · intro node member
      exact ⟨firstNodes node member, overrideChain_main alone firstMain firstFound node member⟩
    · intro node member
      exact ⟨secondNodes node member, overrideChain_main alone secondMain secondFound node member⟩
  · intro firstBare secondBare
    constructor
    · intro same
      have deepestClasses := (classes.mp same).1
      rw [firstBare, secondBare] at deepestClasses
      exact Scene.className_injective firstValid secondValid (firstMain.trans secondMain.symm)
        deepestClasses
    · intro same
      rw [firstSelector, secondSelector, firstBare, secondBare, same]

/-! ## Two instances side by side -/

/-- A bar that places a button twice, or a button and what has the id given
instead.  The labels inside the two instances are decorated differently. -/
def buttonBar (right : String) : Project where
  scene :=
    { main := .ofDocument (.ofRoot (.container "0:0" "Document" .document
        [ .container "1:1" "Button" (.component false .blank)
            [.leaf "1:2" "Label" (.text "x" .blank .blank)],
          .container "2:1" "Bar" (.component false .blank)
            [ .container "2:2" "Left" (.placement "1:1" false .blank)
                [decoratedText "I2:2;1:2" "UNDERLINE"],
              .container "2:3" "Right" (.placement right false .blank)
                [decoratedText "I2:3;1:2" "STRIKETHROUGH"] ],
          .container "3:1" "Badge" (.component false .blank)
            [.leaf "3:2" "Label" (.text "x" .blank .blank)] ]))
      imports := [] }
  options := ⟨false, false⟩
  outputPath := ""

/-- The labels of a button and of a badge side by side have selectors of their
own. -/
theorem buttonBar_selectors_differ :
    Exists fun page => (buttonBar "3:1").page.outcome = .ok page ∧
      forall first second, first ∈ page.stylesheet.rules -> second ∈ page.stylesheet.rules ->
        first.key ≠ second.key -> first.selector.text ≠ second.selector.text := by
  let project := buttonBar "3:1"
  have evaluated : project.page.outcome.toOption.any (fun page =>
      page.stylesheet.rules.all fun rule => rule.key = ⟨.main, 5⟩ || rule.key = ⟨.main, 7⟩) =
        true := by
    decide +kernel
  have left : (project.overrideChain ⟨.main, 5⟩).outcome = .ok [⟨.main, 2⟩] := by decide +kernel
  have right : (project.overrideChain ⟨.main, 7⟩).outcome = .ok [⟨.main, 9⟩] := by decide +kernel
  have deepestOf : forall key chain, key = ⟨.main, 5⟩ ∨ key = ⟨.main, 7⟩ ->
      (project.overrideChain key).outcome = .ok chain ->
        deepest key chain = ⟨.main, if key = ⟨.main, 5⟩ then 2 else 9⟩ := by
    intro key chain known found
    rcases known with same | same
    · rw [same] at found ⊢
      cases left.symm.trans found
      rfl
    · rw [same] at found ⊢
      cases right.symm.trans found
      rfl
  rcases exists_page_of_any evaluated with ⟨known, made, ruled⟩
  rcases exists_translate_of_page made with ⟨markup, translated⟩
  rcases selector_text_eq_iff translated with ⟨page, written, _, exactly⟩
  rw [Except.ok.inj (made.symm.trans written)] at ruled
  simp only [List.all_eq_true, Bool.or_eq_true, decide_eq_true_eq] at ruled
  refine ⟨page, written, ?_⟩
  intro first second firstMember secondMember different same
  rcases exactly first second firstMember secondMember with
    ⟨firstChain, secondChain, firstFound, secondFound, _, nodes, _⟩
  have firstKey := ruled first firstMember
  have secondKey := ruled second secondMember
  have deepestSame := ((nodes rfl).mp same).1
  rw [deepestOf _ _ firstKey firstFound, deepestOf _ _ secondKey secondFound] at deepestSame
  apply different
  rcases firstKey with firstKey | firstKey <;> rcases secondKey with secondKey | secondKey
  · rw [firstKey, secondKey]
  · rw [firstKey, secondKey] at deepestSame
    exact absurd deepestSame (by decide)
  · rw [firstKey, secondKey] at deepestSame
    exact absurd deepestSame (by decide)
  · rw [firstKey, secondKey]

/-- The labels of two buttons side by side have different rules under one
selector. -/
theorem buttonBar_selectors_collide :
    (Exists fun markup => (buttonBar "1:1").translate.outcome = .ok markup) ∧
    Exists fun page => (buttonBar "1:1").page.outcome = .ok page ∧
      Exists fun first => Exists fun second =>
        first ∈ page.stylesheet.rules ∧ second ∈ page.stylesheet.rules ∧
        first.key ≠ second.key ∧ first.selector.text = second.selector.text := by
  have evaluated : (buttonBar "1:1").page.outcome.toOption.any (fun page =>
      page.stylesheet.rules.any fun first => page.stylesheet.rules.any fun second =>
        first.key ≠ second.key && first.selector.text == second.selector.text) = true := by
    decide +kernel
  rcases exists_page_of_any evaluated with ⟨page, written, passes⟩
  simp only [List.any_eq_true, Bool.and_eq_true, decide_eq_true_eq, beq_iff_eq] at passes
  rcases passes with ⟨first, firstMember, second, secondMember, different, same⟩
  exact ⟨exists_translate_of_page written, page, written, first, second, firstMember, secondMember, different, same⟩

end Project
end SceneMarkup
