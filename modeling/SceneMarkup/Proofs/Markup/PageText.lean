import SceneMarkup.Proofs.Markup.Page
import SceneMarkup.Proofs.Markup.PreviewLines

namespace SceneMarkup

open Piece

/-!
# What a page says

What a piece of markup adds depends on where the writer stands.  Here every part of a
page has a text of its own in which nothing is left to the writer, and the markup of a
file is these texts one after the other.

Outside of all blocks nothing is indented.  What stands there is written as it is, and
it may well break lines, as the path of an imported file can.  Inside of blocks stand
the children of a layer, the parts of a preview, which are lines, and the rules.  Only
of rules is it left to the writer what they add, because a value of a style may break
lines too.
-/

/-! ## Outside of all blocks -/

namespace Writer

theorem append_outside (buffer fragment : String) (atLineStart : Bool) :
    Exists fun begun => append ⟨buffer, 0, atLineStart⟩ fragment =
      ⟨buffer ++ fragment, 0, begun⟩ := by
  by_cases empty : fragment = ""
  · refine ⟨atLineStart, ?_⟩
    rw [empty, append_empty, String.append_empty]
  · refine ⟨endsLine fragment, ?_⟩
    have margin : (if atLineStart && ! beginsWithBreak fragment then indentation 0 else "") = "" := by
      split <;> rfl
    rw [append_of_ne _ empty]
    dsimp only
    rw [margin, String.append_empty]

theorem foldl_append_outside (fragments : List String) (buffer : String) (atLineStart : Bool) :
    Exists fun begun => fragments.foldl append ⟨buffer, 0, atLineStart⟩ =
      ⟨buffer ++ String.join fragments, 0, begun⟩ := by
  induction fragments generalizing buffer atLineStart with
  | nil => exact ⟨atLineStart, by rw [String.join_nil, String.append_empty]; rfl⟩
  | cons fragment rest ih =>
      rcases append_outside buffer fragment atLineStart with ⟨between, first⟩
      rw [List.foldl_cons, first, String.join_cons, ← String.append_assoc]
      exact ih (buffer ++ fragment) between

end Writer

namespace Piece

/-- Fragments that end with a line break are written as they are. -/
theorem writes_outside (fragments : List String) (last : String) {text : String}
    (spelled : String.join fragments ++ (last ++ "\n") = text) :
    Writes (texts (fragments ++ [last ++ "\n"])) 0 text := by
  intro buffer
  rcases Writer.foldl_append_outside fragments buffer true with ⟨begun, front⟩
  have nonempty : last ++ "\n" ≠ "" := by simp
  have margin : (if begun && ! Writer.beginsWithBreak (last ++ "\n") then Writer.indentation 0
      else "") = "" := by
    split <;> rfl
  rw [Writer.putAll?_texts, List.foldl_append, front, List.foldl_cons, List.foldl_nil,
    Writer.append_of_ne _ nonempty, Writer.endsLine_append_break, ← spelled]
  dsimp only
  rw [margin, String.append_empty, String.append_assoc]

theorem writes_text_outside {text : String} (last : String) (spelled : last ++ "\n" = text) :
    Writes [.text text] 0 text := by
  have written : Writes [.text (last ++ "\n")] 0 text :=
    writes_outside [] last (String.empty_append.trans spelled)
  exact spelled ▸ written

theorem texts_append (first second : List String) :
    texts (first ++ second) = texts first ++ texts second :=
  List.map_append

/-- The fragments of an attribute. -/
def attributeFragments (text : String) : List String :=
  if text = "" then [] else [" ", text]

theorem attribute_eq (text : String) :
    Piece.attribute text = texts (attributeFragments text) := by
  rw [Piece.attribute, attributeFragments]
  split <;> rfl

theorem join_attributeFragments {text : String} (nonempty : text ≠ "") :
    String.join (attributeFragments text) = " " ++ text := by
  rw [attributeFragments, if_neg nonempty, String.join_cons, String.join_cons, String.join_nil,
    String.append_empty]

/-- What pieces add from the start of a line at a depth. -/
def textAt (depth : Nat) (pieces : List Piece) : String :=
  match Writer.putAll? ⟨"", depth, true⟩ pieces with
  | .ok written => written.buffer
  | .error _ => ""

end Piece

namespace Writer

/-- Behind a text, a piece adds what it adds anyway. -/
theorem put?_behind (buffer : String) (writer : Writer) (piece : Piece) :
    put? { writer with buffer := buffer ++ writer.buffer } piece =
      (writer.put? piece).map fun after => { after with buffer := buffer ++ after.buffer } := by
  cases piece with
  | text fragment =>
      by_cases empty : fragment = ""
      · simp only [put?, empty, append_empty]
        rfl
      · simp only [put?, append_of_ne _ empty, String.append_assoc]
        rfl
  | enter => rfl
  | exit => cases depth : writer.depth <;> simp only [put?, exit?, depth] <;> rfl

theorem putAll?_behind (buffer : String) (writer : Writer) (pieces : List Piece) :
    putAll? { writer with buffer := buffer ++ writer.buffer } pieces =
      (writer.putAll? pieces).map fun after =>
        { after with buffer := buffer ++ after.buffer } := by
  induction pieces generalizing writer with
  | nil => rfl
  | cons piece rest ih =>
      change put? _ piece >>= _ = _
      rw [put?_behind]
      change _ = Except.map _ (put? writer piece >>= _)
      cases writer.put? piece with
      | error fault => rfl
      | ok after => exact ih after

end Writer

/-- Pieces that leave the depth as it was and end with a line break write what they
add. -/
theorem Piece.writes_textAt {pieces front : List Piece} {last : String}
    (balanced : Balanced pieces) (ends : pieces = front ++ [.text (last ++ "\n")]) (depth : Nat) :
    Writes pieces depth (textAt depth pieces) := by
  rcases balanced ⟨"", depth, true⟩ with ⟨after, put, sameDepth⟩
  have lineStart : after.atLineStart = true := by
    have nonempty : last ++ "\n" ≠ "" := by simp
    rw [ends, Writer.putAll?_append] at put
    rcases (Fault.bind_eq_ok_iff _ _ _).mp put with ⟨between, _, ended⟩
    rw [← Except.ok.inj ended, Writer.append_of_ne _ nonempty]
    exact Writer.endsLine_append_break last
  intro buffer
  have behind := Writer.putAll?_behind buffer ⟨"", depth, true⟩ pieces
  dsimp only at behind
  rw [String.append_empty] at behind
  rw [behind, put, textAt, put]
  rcases after with ⟨added, afterDepth, begun⟩
  cases sameDepth
  cases lineStart
  rfl

/-! ## Imports and declarations -/

/-- The text of an import, on a line of its own. -/
def ImportLine.text (line : ImportLine) : String :=
  String.join ["<import as=\"", line.name, "\" src=\"", line.source, "\" />\n"]

theorem ImportLine.writes_pieces (line : ImportLine) : Writes line.pieces 0 line.text := by
  apply writes_outside ["<import as=\"", line.name, "\" src=\"", line.source] "\" />"
  simp only [text, String.join_cons, String.join_nil, String.append_assoc, String.append_empty,
    String.reduceAppend]

/-- The attribute that hands on whether positions are wanted. -/
def layoutText (options : Options) : String :=
  if options.absoluteLayout then " data-with-absolute-layout=\x7bwithAbsoluteLayout?\x7d" else ""

/-- The attribute that gives a layer its class. -/
def classText (className : String) : String :=
  String.join [" className=\"", className, " \x7bclassName?\x7d\""]

/-- The attributes for the size of a box. -/
def sizeText (width height : Float) : String :=
  String.join [" width=\"", Number.unsignedZero width, "\" height=\"",
    Number.unsignedZero height, "\""]

namespace DeclarationBody

/-- The name of the element that a layer is declared with. -/
def elementName : DeclarationBody -> String
  | .image _ => "img"
  | .box _ _ => "div"
  | .element name => name

/-- The attribute that leads to an image. -/
def source : DeclarationBody -> String
  | .image fileName => String.join [" src=\"./", fileName, "\""]
  | .box _ _ => ""
  | .element _ => ""

/-- The attributes that only a box has. -/
def size : DeclarationBody -> String
  | .image _ => ""
  | .box width height => sizeText width height
  | .element _ => ""

/-- What stands behind the tag that begins a declaration.  Nothing but what an element
holds is indented. -/
def rest : DeclarationBody -> String
  | .image _ => "\n"
  | .box _ _ => "</div>\n\n"
  | .element name => String.join ["  \x7bchildren\x7d\n", "</", name, ">\n", "\n"]

end DeclarationBody

namespace Declaration

/-- The text of a declaration. -/
def text (options : Options) (declaration : Declaration) : String :=
  String.join
    [ "<", declaration.body.elementName, " export component as=\"", declaration.tag, "\"",
      declaration.body.source, layoutText options, classText declaration.className,
      declaration.body.size, ">\n", declaration.body.rest ]

theorem join_layoutAttribute (options : Options) :
    String.join (attributeFragments (layoutAttribute options)) = layoutText options := by
  rw [layoutAttribute, layoutText]
  split <;> rfl

theorem join_classAttribute (className : String) :
    String.join (attributeFragments (classAttribute className)) = classText className := by
  have nonempty : classAttribute className ≠ "" := by simp [classAttribute]
  rw [join_attributeFragments nonempty, classAttribute, classText]
  simp [← String.append_assoc]

theorem join_sizeAttribute (width height : Float) :
    String.join (attributeFragments ("width=\"" ++ Number.unsignedZero width ++ "\" height=\""
      ++ Number.unsignedZero height ++ "\"")) = sizeText width height := by
  rw [join_attributeFragments (by simp), sizeText]
  simp [← String.append_assoc]

/-- The fragments of the attributes that every declaration has. -/
def sharedFragments (options : Options) (className : String) : List String :=
  attributeFragments (layoutAttribute options) ++ attributeFragments (classAttribute className)

theorem join_sharedFragments (options : Options) (className : String) :
    String.join (sharedFragments options className) =
      layoutText options ++ classText className := by
  rw [sharedFragments, String.join_append, join_layoutAttribute, join_classAttribute]

variable (options : Options) (key : NodeKey) (tag className : String)

theorem writes_image (fileName : String) :
    Writes (pieces options ⟨key, tag, className, .image fileName⟩) 0
      (text options ⟨key, tag, className, .image fileName⟩) := by
  have cut : pieces options ⟨key, tag, className, .image fileName⟩ =
      texts (["<img export component as=\"", tag, "\" src=\"./", fileName, "\""]
        ++ sharedFragments options className ++ [">\n" ++ "\n"]) := by
    simp only [texts_append, sharedFragments, ← attribute_eq]
    rfl
  have begins (rest : String) : "<img export component as=\"" ++ rest =
      "<" ++ ("img" ++ (" export component as=\"" ++ rest)) := by
    simp only [← String.append_assoc, String.reduceAppend]
  have seam (rest : String) : "\" src=\"./" ++ rest = "\"" ++ (" src=\"./" ++ rest) := by
    simp only [← String.append_assoc, String.reduceAppend]
  rw [cut]
  apply writes_outside _ ">\n"
  rw [String.join_append, join_sharedFragments, text]
  simp only [DeclarationBody.elementName, DeclarationBody.source, DeclarationBody.size,
    DeclarationBody.rest, String.join_cons, String.join_nil, String.append_assoc,
    String.append_empty, String.empty_append, begins, seam]

theorem writes_box (width height : Float) :
    Writes (pieces options ⟨key, tag, className, .box width height⟩) 0
      (text options ⟨key, tag, className, .box width height⟩) := by
  have cut : pieces options ⟨key, tag, className, .box width height⟩ =
      texts (["<div export component as=\"", tag, "\""] ++ (sharedFragments options className
        ++ (attributeFragments ("width=\"" ++ Number.unsignedZero width ++ "\" height=\""
          ++ Number.unsignedZero height ++ "\"") ++ [">\n"])) ++ ["</div>\n" ++ "\n"]) := by
    simp only [texts_append, sharedFragments, ← attribute_eq, List.append_assoc]
    change _ ++ _ ++ _ ++ _ = _
    simp only [List.append_assoc]
    rfl
  rw [cut]
  apply writes_outside _ "</div>\n"
  have begins (rest : String) : "<div export component as=\"" ++ rest =
      "<" ++ ("div" ++ (" export component as=\"" ++ rest)) := by
    simp only [← String.append_assoc, String.reduceAppend]
  simp only [String.join_append, join_sharedFragments, join_sizeAttribute, text]
  simp only [DeclarationBody.elementName, DeclarationBody.source, DeclarationBody.size,
    DeclarationBody.rest, String.join_cons, String.join_nil, String.append_assoc,
    String.append_empty, String.empty_append, begins, String.reduceAppend]

/-- What an element holds stands in a block. -/
theorem writes_element (name : String) :
    Writes (pieces options ⟨key, tag, className, .element name⟩) 0
      (text options ⟨key, tag, className, .element name⟩) := by
  have cut : pieces options ⟨key, tag, className, .element name⟩ =
      texts (["<", name, " export component as=\"", tag, "\""]
          ++ sharedFragments options className ++ [">" ++ "\n"])
        ++ Piece.block [.text ("\x7bchildren\x7d" ++ "\n")]
        ++ texts (["</", name, ">\n"] ++ ["" ++ "\n"]) := by
    simp only [texts_append, sharedFragments, ← attribute_eq]
    rfl
  let opening := ["<", name, " export component as=\"", tag, "\""]
    ++ sharedFragments options className
  have opened : Writes (texts (opening ++ [">" ++ "\n"])) 0 (String.join opening ++ ">\n") :=
    writes_outside opening ">" rfl
  have inside : Writes (Piece.block [.text ("\x7bchildren\x7d" ++ "\n")]) 0
      "  \x7bchildren\x7d\n" :=
    (writesLines_texts 1 [] "\x7bchildren\x7d" rfl rfl).block
  have closed : Writes (texts (["</", name, ">\n"] ++ ["" ++ "\n"])) 0
      (String.join ["</", name, ">\n"] ++ "\n") :=
    writes_outside ["</", name, ">\n"] "" rfl
  rw [cut]
  refine ((opened.append inside).append closed).of_eq ?_
  rw [String.join_append, join_sharedFragments, text]
  simp only [DeclarationBody.elementName, DeclarationBody.source, DeclarationBody.size,
    DeclarationBody.rest, String.join_cons, String.join_nil, String.append_assoc,
    String.append_empty, String.empty_append]

theorem writes_pieces (declaration : Declaration) :
    Writes (declaration.pieces options) 0 (declaration.text options) := by
  rcases declaration with ⟨key, tag, className, body⟩
  cases body with
  | image fileName => exact writes_image options key tag className fileName
  | box width height => exact writes_box options key tag className width height
  | element name => exact writes_element options key tag className name

end Declaration

/-! ## Rules -/

/-- The text of a rule, which stands in the block of the stylesheet. -/
def Rule.text (rule : Rule) : String :=
  textAt 1 rule.pieces

/-- The text of a rule that places a preview. -/
def PreviewRule.text (rule : PreviewRule) : String :=
  textAt 1 rule.pieces

/-- The text of the stylesheet: its rules one after the other. -/
def Stylesheet.text (sheet : Stylesheet) : String :=
  String.join ["<style>\n", String.join (sheet.rules.map Rule.text),
    String.join (sheet.previewRules.map PreviewRule.text), "</style>\n\n"]

theorem Piece.writes_rule {selector : String} {body : List Piece}
    (balanced : Balanced (rule selector body)) :
    Writes (rule selector body) 1 (textAt 1 (rule selector body)) := by
  have ends : rule selector body =
      (texts [":global(", selector, ") \x7b\n"] ++ block body)
        ++ [.text ("\x7d\n" ++ "\n")] := rfl
  exact writes_textAt balanced ends 1

theorem Rule.writes_pieces (rule : Rule) : Writes rule.pieces 1 rule.text :=
  writes_rule rule.balanced_pieces

theorem PreviewRule.writes_pieces (rule : PreviewRule) : Writes rule.pieces 1 rule.text :=
  writes_rule rule.balanced_pieces

theorem Stylesheet.writes_pieces (sheet : Stylesheet) : Writes sheet.pieces 0 sheet.text := by
  have rules : Writes (sheet.rules.flatMap Rule.pieces) 1
      (String.join (sheet.rules.map Rule.text)) :=
    writes_flatMap fun rule _ => rule.writes_pieces
  have previewRules : Writes (sheet.previewRules.flatMap PreviewRule.pieces) 1
      (String.join (sheet.previewRules.map PreviewRule.text)) :=
    writes_flatMap fun rule _ => rule.writes_pieces
  have begun : Writes [.text "<style>\n"] 0 "<style>\n" := writes_text_outside "<style>" rfl
  have ended : Writes [.text "</style>\n\n"] 0 "</style>\n\n" :=
    writes_text_outside "</style>\n" rfl
  refine ((begun.append (rules.append previewRules).block).append ended).of_eq ?_
  simp only [text, String.join_cons, String.join_nil, String.append_assoc, String.append_empty]

/-! ## Previews -/

namespace Preview

/-- The line that begins the declaration of a preview. -/
def opening (options : Options) (preview : Preview) : String :=
  String.join ["<", preview.tag, " export component as=\"", preview.previewTag, "\"",
    previewLayoutAttribute options true, " \x7bclassName\x7d>"]

/-- The lines of the declaration of a preview. -/
def declarationLines (options : Options) (preview : Preview) : List Line :=
  ⟨0, preview.opening options⟩
    :: PreviewNode.linesOf (previewLayoutAttribute options true) 1 preview.children
    ++ [⟨0, PreviewNode.closing preview.tag⟩]

/-- The line that uses a preview. -/
def usageLine (options : Options) (preview : Preview) : String :=
  preview.usage.line (previewLayoutAttribute options false)

/-- The lines of a preview, with a blank line behind its declaration and another one
behind its usage. -/
def lines (options : Options) (preview : Preview) : List Line :=
  preview.declarationLines options ++ [⟨0, ""⟩, ⟨0, preview.usageLine options⟩, ⟨0, ""⟩]

/-- The text of a preview. -/
def text (options : Options) (preview : Preview) : String :=
  Line.joined (preview.lines options)

/-- A preview whose lines are unbroken is written as these lines. -/
theorem writes_pieces (options : Options) (preview : Preview)
    (unbroken : forall line, line ∈ preview.lines options -> Unbroken line.text) :
    Writes (preview.pieces options) 0 (preview.text options) := by
  rw [lines, declarationLines] at unbroken
  simp only [List.forall_mem_append, List.forall_mem_cons] at unbroken
  rcases unbroken with ⟨⟨⟨begins, inside⟩, ends, _⟩, _, used, _, _⟩
  have opened : WritesLines (texts ["<", preview.tag, " export component as=\"",
      preview.previewTag, "\"", previewLayoutAttribute options true, " \x7bclassName\x7d", ">\n"])
      0 [⟨0, preview.opening options⟩] := by
    apply writesLines_texts 0 ["<", preview.tag, " export component as=\"", preview.previewTag,
      "\"", previewLayoutAttribute options true, " \x7bclassName\x7d"] ">" _ begins
    simp only [opening, String.join_cons, String.join_nil, String.append_assoc,
      String.append_empty, String.reduceAppend]
  have children := (PreviewNode.writesLines_piecesOf _ 1 preview.children inside).block
  have closed := PreviewNode.writesLines_closing preview.tag 0 ends
  have blank : WritesLines [.text "\n"] 0 [⟨0, ""⟩] := writesLines_texts 0 [] "" rfl rfl
  have usage := preview.usage.writesLines_pieces _ 0 used
  have whole := (((opened.append children).append (closed.append blank)).append usage).append blank
  refine Writes.of_eq whole (congrArg Line.joined ?_)
  simp only [lines, declarationLines, usageLine, List.append_assoc, List.cons_append,
    List.nil_append]

end Preview

/-- No line of a preview is broken. -/
theorem Project.preview_unbroken {project : Project} {component : NodeKey} {preview : Preview}
    (member : component ∈ project.components) (made : project.preview component = .ok preview) :
    forall line, line ∈ preview.lines project.options -> Unbroken line.text := by
  rcases (mem_components_iff component).mp member with ⟨main, valid, _⟩
  rcases (preview_eq_ok_iff component preview).mp made with ⟨below, used, tag, previewTag⟩
  have plain := previewLayoutAttribute_unbroken project.options
  rw [previewNodesFrom_children main valid] at below
  rw [Preview.lines, Preview.declarationLines, Preview.opening, Preview.usageLine, tag, previewTag]
  simp only [List.forall_mem_append, List.forall_mem_cons, unbroken_join_iff]
  have inside := (lines_unbroken project true (plain true)).of_parts _ below 1
  have usage : Unbroken (preview.usage.line (previewLayoutAttribute project.options false)) :=
    reference_line_unbroken used (plain false)
  exact ⟨⟨⟨⟨rfl, Scene.tagName_unbroken _ _, rfl, Scene.previewTagName_unbroken _ _, rfl,
    plain true, rfl, List.forall_mem_nil _⟩, inside⟩, closing_unbroken project component,
    List.forall_mem_nil _⟩, rfl, usage, rfl, List.forall_mem_nil _⟩

/-! ## Pages -/

/-- The text of the previews that are wanted. -/
def previewsText (options : Options) (previews : Option (List Preview)) : String :=
  match previews with
  | none => ""
  | some previews =>
      String.join ["<!-- PREVIEWS -->\n\n", String.join (previews.map (Preview.text options))]

/-- The remark with which every page begins. -/
def Page.heading : String :=
  String.join ["\n<!--\n", "  !! AUTO GENERATED, EDIT WITH CAUTION !!\n", "-->\n\n"]

/-- The text of a page. -/
def Page.text (options : Options) (page : Page) : String :=
  String.join
    [ heading, String.join (page.imports.map ImportLine.text), "\n",
      "<!-- STYLES -->\n\n", page.stylesheet.text,
      "<!-- ALL LAYERS & COMPONENTS -->\n\n",
      String.join (page.declarations.map (Declaration.text options)),
      previewsText options page.previews ]

/-- The rules of a page stand between the style tags, and nothing else does. -/
theorem Page.text_around_rules (options : Options) (page : Page) :
    Exists fun front => Exists fun behind => page.text options =
      String.join [front, "<style>\n", String.join (page.stylesheet.rules.map Rule.text),
        String.join (page.stylesheet.previewRules.map PreviewRule.text), "</style>\n\n",
        behind] := by
  refine ⟨String.join [heading, String.join (page.imports.map ImportLine.text), "\n",
      "<!-- STYLES -->\n\n"],
    String.join ["<!-- ALL LAYERS & COMPONENTS -->\n\n",
      String.join (page.declarations.map (Declaration.text options)),
      previewsText options page.previews], ?_⟩
  simp only [text, Stylesheet.text, String.join_cons, String.join_nil, String.append_assoc,
    String.append_empty]

/-- An import of a page stands behind the remark and the imports in front of it. -/
theorem Page.text_around_import (options : Options) {page : Page} {place : Nat}
    {line : ImportLine} (imported : page.imports[place]? = some line) :
    Exists fun behind => page.text options =
      String.join [heading, String.join ((page.imports.take place).map ImportLine.text),
        line.text, behind] := by
  rcases List.getElem?_eq_some_iff.mp imported with ⟨inside, found⟩
  have split : page.imports = page.imports.take place ++ line :: page.imports.drop (place + 1) := by
    rw [← found, List.getElem_cons_drop, List.take_append_drop]
  refine ⟨String.join [String.join ((page.imports.drop (place + 1)).map ImportLine.text), "\n",
    "<!-- STYLES -->\n\n", page.stylesheet.text, "<!-- ALL LAYERS & COMPONENTS -->\n\n",
    String.join (page.declarations.map (Declaration.text options)),
    previewsText options page.previews], ?_⟩
  have imports : String.join (page.imports.map ImportLine.text) =
      String.join ((page.imports.take place).map ImportLine.text) ++
        (line.text ++ String.join ((page.imports.drop (place + 1)).map ImportLine.text)) := by
    rw [← String.join_cons, ← List.map_cons, ← String.join_append, ← List.map_append, ← split]
  simp only [text, imports, String.join_cons, String.join_nil, String.append_assoc,
    String.append_empty]

namespace Project

variable {project : Project}

theorem writes_previews {page : Page} (written : project.page.outcome = .ok page) :
    Writes (previewPieces project.options page.previews) 0
      (previewsText project.options page.previews) := by
  cases wanted : page.previews with
  | none => exact writes_nil 0
  | some previews =>
      have titled : Writes [.text "<!-- PREVIEWS -->\n\n"] 0 "<!-- PREVIEWS -->\n\n" :=
        writes_text_outside "<!-- PREVIEWS -->\n" rfl
      have each : Writes (previews.flatMap (Preview.pieces project.options)) 0
          (String.join (previews.map (Preview.text project.options))) := by
        apply writes_flatMap
        intro preview listed
        apply preview.writes_pieces
        have member : preview ∈ page.allPreviews := by
          rw [Page.allPreviews, wanted]
          exact listed
        rcases exists_component_of_mem written member with ⟨_, component, isMember, made⟩
        exact preview_unbroken isMember made
      refine (titled.append each).of_eq ?_
      simp only [previewsText, String.join_cons, String.join_nil, String.append_empty]

theorem writes_page {page : Page} (written : project.page.outcome = .ok page) :
    Writes (page.pieces project.options) 0 (page.text project.options) := by
  have begun : Writes [.text "\n<!--\n"] 0 "\n<!--\n" := writes_text_outside "\n<!--" rfl
  have warned : Writes (Piece.block [.text "!! AUTO GENERATED, EDIT WITH CAUTION !!\n"]) 0
      "  !! AUTO GENERATED, EDIT WITH CAUTION !!\n" :=
    (writesLines_texts 1 [] "!! AUTO GENERATED, EDIT WITH CAUTION !!" rfl rfl).block
  have closed : Writes [.text "-->\n\n"] 0 "-->\n\n" := writes_text_outside "-->\n" rfl
  have imports : Writes (page.imports.flatMap ImportLine.pieces) 0
      (String.join (page.imports.map ImportLine.text)) :=
    writes_flatMap fun line _ => line.writes_pieces
  have blank : Writes [.text "\n"] 0 "\n" := writes_text_outside "" rfl
  have styles : Writes [.text "<!-- STYLES -->\n\n"] 0 "<!-- STYLES -->\n\n" :=
    writes_text_outside "<!-- STYLES -->\n" rfl
  have layers : Writes [.text "<!-- ALL LAYERS & COMPONENTS -->\n\n"] 0
      "<!-- ALL LAYERS & COMPONENTS -->\n\n" :=
    writes_text_outside "<!-- ALL LAYERS & COMPONENTS -->\n" rfl
  have declarations : Writes (page.declarations.flatMap (Declaration.pieces project.options)) 0
      (String.join (page.declarations.map (Declaration.text project.options))) :=
    writes_flatMap fun declaration _ => declaration.writes_pieces project.options
  have front := (((((((begun.append warned).append closed).append imports).append blank).append
    styles).append page.stylesheet.writes_pieces).append layers).append declarations
  rw [Page.pieces, frontPieces]
  refine (front.append (writes_previews written)).of_eq ?_
  simp only [Page.text, Page.heading, String.join_cons, String.join_nil, String.append_assoc,
    String.append_empty]

/-- The markup of a page is its text. -/
theorem markup?_eq_text {page : Page} (written : project.page.outcome = .ok page) :
    page.markup? project.options = .ok (page.text project.options) := by
  have put := writes_page written ""
  rw [String.empty_append] at put
  rw [Page.markup?]
  change Except.bind (Writer.putAll? ⟨"", 0, true⟩ (page.pieces project.options)) _ = _
  rw [put]
  rfl

/-- Where a project has markup, it is the text of a page. -/
theorem exists_page_of_translate {markup : String}
    (translated : project.translate.outcome = .ok markup) :
    Exists fun page => project.page.outcome = .ok page ∧
      page.markup? project.options = .ok markup ∧ markup = page.text project.options := by
  rcases (translate_eq_ok_iff markup).mp translated with ⟨page, written, text⟩
  exact ⟨page, written, text, Except.ok.inj (text.symm.trans (markup?_eq_text written))⟩

end Project

/-! ## What a text declares -/

/-- What stands between the first two quotation marks of a text. -/
def firstQuoted (text : String) : String :=
  String.ofList (((text.toList.dropWhile (· ≠ '"')).drop 1).takeWhile (· ≠ '"'))

theorem firstQuoted_eq {before name : String} (plainBefore : '"' ∉ before.toList)
    (plainName : '"' ∉ name.toList) (rest : String) :
    firstQuoted (before ++ ("\"" ++ (name ++ ("\"" ++ rest)))) = name := by
  have skipped (letters : List Char) (plain : '"' ∉ letters) :
      forall char, char ∈ letters -> decide (char ≠ '"') = true := by
    intro char member
    exact decide_eq_true fun same => plain (same ▸ member)
  simp only [firstQuoted, String.toList_append]
  rw [List.dropWhile_append_of_pos (skipped _ plainBefore)]
  change String.ofList ((name.toList ++ ('"' :: rest.toList)).takeWhile _) = name
  rw [List.takeWhile_append_of_pos (skipped _ plainName), List.takeWhile_cons_of_neg (by simp),
    List.append_nil, String.ofList_toList]

/-- A text declares a component under a name: its first tag exports the component, and
the name is the first value in it. -/
structure DeclaresAs (text name : String) : Prop where
  exported : Exists fun element => Exists fun rest =>
    text = String.join ["<", element, " export component as=\"", name, "\"", rest]
  read : firstQuoted text = name

/-- A text gives a layer a class, next to that of the user. -/
def GivesClass (text className : String) : Prop :=
  Exists fun before => Exists fun behind =>
    text = String.join [before, " className=\"", className, " \x7bclassName?\x7d\"", behind]

theorem declaresAs_of_plain {text element name rest : String}
    (exported : text = String.join ["<", element, " export component as=\"", name, "\"", rest])
    (plainElement : '"' ∉ element.toList) (plainName : '"' ∉ name.toList) :
    DeclaresAs text name := by
  refine ⟨⟨element, rest, exported⟩, ?_⟩
  have begins : '"' ∉ ("<" ++ (element ++ " export component as=")).toList := by
    rw [String.toList_append, String.toList_append, List.mem_append, List.mem_append, not_or, not_or]
    exact ⟨by decide, plainElement, by decide⟩
  have seam (behind : String) :
      " export component as=\"" ++ behind = " export component as=" ++ ("\"" ++ behind) := by
    simp only [← String.append_assoc, String.reduceAppend]
  have read := firstQuoted_eq begins plainName rest
  simp only [String.append_assoc] at read
  simp only [exported, String.join_cons, String.join_nil, String.append_empty, seam, read]

theorem not_quoted_of_class {text : String} (plain : IsClassText text.toList) :
    '"' ∉ text.toList :=
  plain.not_mem (by decide)

namespace Project

variable (project : Project)

theorem elementName_declarationBody (key : NodeKey) :
    (project.declarationBody key).elementName ∈ ["img", "div", "span"] := by
  rw [declarationBody]
  split
  · exact List.mem_cons_self
  split
  · exact List.mem_cons_of_mem _ List.mem_cons_self
  · cases (project.node key).isText <;> decide

/-- The declaration of a layer declares it under its tag. -/
theorem declaresAs_declaration (options : Options) (key : NodeKey) :
    DeclaresAs ((project.declaration key).text options) (project.scene.tagName key) := by
  have plainElements : forall name, name ∈ ["img", "div", "span"] -> '"' ∉ name.toList := by decide
  have exported : (project.declaration key).text options =
      String.join ["<", (project.declarationBody key).elementName, " export component as=\"",
        project.scene.tagName key, "\"",
        String.join [(project.declarationBody key).source, layoutText options,
          classText (project.scene.className key), (project.declarationBody key).size, ">\n",
          (project.declarationBody key).rest]] := by
    simp only [Declaration.text, declaration, String.join_cons, String.join_nil,
      String.append_empty]
  exact declaresAs_of_plain exported (plainElements _ (elementName_declarationBody project key))
    (not_quoted_of_class (Scene.tagName_letters project.scene key))

/-- The declaration of a layer gives the layer its class. -/
theorem givesClass_declaration (options : Options) (key : NodeKey) :
    GivesClass ((project.declaration key).text options) (project.scene.className key) := by
  refine ⟨String.join ["<", (project.declarationBody key).elementName, " export component as=\"",
    project.scene.tagName key, "\"", (project.declarationBody key).source, layoutText options],
    String.join [(project.declarationBody key).size, ">\n", (project.declarationBody key).rest], ?_⟩
  simp only [Declaration.text, declaration, classText, String.join_cons, String.join_nil,
    String.append_empty, String.append_assoc]

variable {project}

/-- The text of a preview begins with the tag that declares it. -/
theorem declaresAs_preview {component : NodeKey} {preview : Preview}
    (member : component ∈ project.components) (made : project.preview component = .ok preview)
    (options : Options) : DeclaresAs (preview.text options) preview.previewTag := by
  rcases (preview_eq_ok_iff component preview).mp made with ⟨_, _, tag, previewTag⟩
  have main := ((mem_components_iff component).mp member).1
  have letters := Scene.tagName_letters project.scene component
  have plainName : '"' ∉ preview.previewTag.toList := by
    rw [previewTag, Scene.previewTagName_eq, main, Scene.qualified]
    exact not_quoted_of_class (Scene.ownPreviewTagName_letters project.scene component)
  have exported : preview.text options = String.join ["<", preview.tag, " export component as=\"",
      preview.previewTag, "\"", String.join [previewLayoutAttribute options true,
        " \x7bclassName\x7d>", "\n", Line.joined ((preview.lines options).drop 1)]] := by
    have split : preview.text options =
        Line.full ⟨0, preview.opening options⟩ ++ Line.joined ((preview.lines options).drop 1) :=
      Line.joined_cons _ _
    rw [split, Line.full_outside]
    simp only [Preview.opening, String.join_cons, String.join_nil, String.append_assoc,
      String.append_empty]
  exact declaresAs_of_plain exported (tag ▸ not_quoted_of_class letters) plainName

end Project
end SceneMarkup
