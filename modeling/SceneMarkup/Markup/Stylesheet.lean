import SceneMarkup.Markup.Writer
import SceneMarkup.Style.Nested

namespace SceneMarkup

/-!
# The stylesheet

The stylesheet holds one rule for every layer of every component that has
something to declare, and one rule that places the preview of each component.
A rule is addressed by classes: its target is the class of the deepest node that
the layer overrides, and its scope lists the components that own the nodes along
the way.
-/

/-- How a rule finds its layer. -/
structure Selector where
  scope : List String
  target : String
  deriving Repr, BEq, DecidableEq

namespace Selector

def dotted (className : String) : String := "." ++ className

/-- A selector in full.  The scope is written twice, as classes of one element
and as classes of nested ones, because both occur. -/
def text (selector : Selector) : String :=
  let target := dotted selector.target
  let scope := selector.scope.map dotted
  if scope.isEmpty then target
  else
    String.join scope ++ " " ++ target ++ ", " ++ " ".intercalate scope ++ " " ++ target

end Selector

/-- The rule of a layer.  `layout` is empty where absolute positions are off. -/
structure Rule where
  key : NodeKey
  selector : Selector
  appearance : Style
  layout : Style

/-- The rule that places the preview of a component. -/
structure PreviewRule where
  className : String
  top : Int
  width : Float
  height : Float

/-- Everything between the style tags. -/
structure Stylesheet where
  rules : List Rule
  previewRules : List PreviewRule

/-- Declarations, one to a line. -/
def Style.pieces (style : Style) : List Piece :=
  style.entries.flatMap fun entry => Piece.texts [entry.1, ": ", entry.2, ";\n"]

/-- A rule with what stands inside its braces. -/
def Piece.rule (selector : String) (body : List Piece) : List Piece :=
  Piece.texts [":global(", selector, ") \x7b\n"] ++ Piece.block body ++ [.text "\x7d\n\n"]

/-- The rule of a layer in full.  Declarations that place the layer apply only
where an attribute asks for them. -/
def Rule.pieces (rule : Rule) : List Piece :=
  Piece.rule rule.selector.text
    (rule.appearance.pieces
      ++ if rule.layout.isEmpty then []
        else
          [.text "&[data-with-absolute-layout] \x7b\n"] ++ Piece.block rule.layout.pieces
            ++ [.text "\x7d\n"])

/-- The space around stacked previews, in pixels. -/
def previewPadding : Int := 10

/-- The rule of a preview in full. -/
def PreviewRule.pieces (rule : PreviewRule) : List Piece :=
  Piece.rule (Selector.dotted rule.className)
    (Piece.texts
      [ "position: absolute;\n",
        "left: ", Number.wholeString previewPadding, "px;\n",
        "top: ", Number.wholeString rule.top, "px;\n",
        "width: ", wholePixels rule.width, ";\n",
        "height: ", wholePixels rule.height, ";\n" ])

/-- The stylesheet in full. -/
def Stylesheet.pieces (sheet : Stylesheet) : List Piece :=
  [.text "<style>\n"]
    ++ Piece.block (sheet.rules.flatMap Rule.pieces
      ++ sheet.previewRules.flatMap PreviewRule.pieces)
    ++ [.text "</style>\n\n"]

namespace Project

/-- Every address once, at its first place. -/
def distinctLevels : List (NodeKey × Style) -> List (NodeKey × Style)
  | [] => []
  | level :: rest =>
      level :: (distinctLevels rest).filter fun other => other.1 ≠ level.1

/-- The styles of the subtrees of nodes, one after the other. -/
def nestedStyles (project : Project) : List NodeKey -> Reported (List NestedStyle)
  | [] => return []
  | key :: rest => do
      let first ← project.nestedStyle key
      let others ← nestedStyles project rest
      return first :: others

/-- The address and the style of every layer of every component.  A component
inside another one is reached twice and counts at its first place. -/
def styleLevels (project : Project) : Reported (List (NodeKey × Style)) := do
  let nested ← project.nestedStyles project.components
  return distinctLevels (nested.flatMap NestedStyle.walk)

/-- The selector of the rule of a node, given the nodes it overrides. -/
def selectorOver (project : Project) (key : NodeKey) (chain : List NodeKey) : Selector :=
  let nodes := key :: chain
  { scope :=
      (nodes.filterMap project.scene.ownerComponent?).map project.scene.className
    target := project.scene.className (nodes.getLast?.getD key) }

/-- The selector of the rule of a node. -/
def selector (project : Project) (key : NodeKey) : Reported Selector := do
  let chain ← project.overrideChain key
  return project.selectorOver key chain

/-- The declarations of a rule that place its layer, where they are wanted. -/
def ruleLayout (project : Project) (style : Style) : Style :=
  if project.options.absoluteLayout then style.layout else OrderedMap.empty

/-- The rule of a layer, unless it has nothing to declare. -/
def rule? (project : Project) (key : NodeKey) (style : Style) : Reported (Option Rule) :=
  let layout := project.ruleLayout style
  if style.appearance.isEmpty && layout.isEmpty then return none
  else do
    let selector ← project.selector key
    return some ⟨key, selector, style.appearance, layout⟩

/-- The rules of layers that have something to declare. -/
def rulesOf (project : Project) : List (NodeKey × Style) -> Reported (List Rule)
  | [] => return []
  | (key, style) :: rest => do
      let first ← project.rule? key style
      let others ← rulesOf project rest
      return first.toList ++ others

/-- The bounding boxes of the components that have one, with their classes. -/
def previewBoxes (project : Project) : List (String × Rect) :=
  project.components.filterMap fun key =>
    ((project.node key).layer?.bind (·.boundingBox)).map fun box =>
      (project.scene.previewClassName key, box)

/-- Stack previews below each other from `top` on, with space between them. -/
def stackFrom : Int -> List (String × Rect) -> List PreviewRule
  | _, [] => []
  | top, (className, box) :: rest =>
      ⟨className, top, box.width, box.height⟩
        :: stackFrom (top + (Number.roundHalfUp box.height + previewPadding)) rest

/-- The rules that place previews, where there are previews to be placed. -/
def previewRules (project : Project) : List PreviewRule :=
  if project.options.previews && project.options.absoluteLayout then
    stackFrom previewPadding project.previewBoxes
  else []

def stylesheet (project : Project) : Reported Stylesheet := do
  let levels ← project.styleLevels
  let rules ← project.rulesOf levels
  return ⟨rules, project.previewRules⟩

end Project
end SceneMarkup
