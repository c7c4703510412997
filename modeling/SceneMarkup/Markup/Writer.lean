import SceneMarkup.Report

namespace SceneMarkup

/-!
# Writing markup

Markup is a sequence of pieces: fragments of text, and marks where a block
begins or ends.  The writer puts them together and indents.  Indentation is
decided only when a fragment begins a line, by the depth at that moment, so a
block that begins after a line break indents the next line and not the last.
-/

/-- A piece of markup. -/
inductive Piece where
  | text (fragment : String)
  | enter
  | exit
  deriving Repr, BEq, DecidableEq

/-- Text in the making. -/
structure Writer where
  buffer : String
  depth : Nat
  atLineStart : Bool
  deriving Repr, BEq, DecidableEq

namespace Writer

/-- An empty text, at the start of a line. -/
def empty : Writer := ⟨"", 0, true⟩

/-- An empty text that continues a line begun elsewhere. -/
def continuing : Writer := ⟨"", 0, false⟩

/-- Whether a fragment begins with a line break, before which nothing is
indented. -/
def beginsWithBreak (fragment : String) : Bool :=
  match fragment.toList.head? with
  | some char => char == '\n' || char == '\r'
  | none => false

def endsLine (fragment : String) : Bool :=
  fragment.toList.getLast? == some '\n'

/-- The blanks that begin a line at a depth. -/
def indentation (depth : Nat) : String :=
  String.join (List.replicate depth "  ")

/-- Add a fragment.  Where it begins a line it is indented, unless the line is
blank.  An empty fragment changes nothing. -/
def append (writer : Writer) (fragment : String) : Writer :=
  if fragment = "" then writer
  else
    let margin :=
      if writer.atLineStart && ! beginsWithBreak fragment then indentation writer.depth else ""
    ⟨writer.buffer ++ margin ++ fragment, writer.depth, endsLine fragment⟩

/-- Begin a block. -/
def enter (writer : Writer) : Writer :=
  { writer with depth := writer.depth + 1 }

/-- End a block; there must be one. -/
def exit? (writer : Writer) : Except Fault Writer :=
  match writer.depth with
  | 0 => .error (.unbalancedBlock (-1))
  | depth + 1 => .ok { writer with depth := depth }

/-- The finished text, if every block has ended. -/
def finish? (writer : Writer) : Except Fault String :=
  if writer.depth = 0 then .ok writer.buffer
  else .error (.unbalancedBlock (Int.ofNat writer.depth))

/-- Add a piece. -/
def put? (writer : Writer) : Piece -> Except Fault Writer
  | .text fragment => .ok (writer.append fragment)
  | .enter => .ok writer.enter
  | .exit => writer.exit?

/-- Add pieces one after the other. -/
def putAll? (writer : Writer) (pieces : List Piece) : Except Fault Writer :=
  pieces.foldlM put? writer

end Writer

/-- Pieces that stand one block deeper. -/
def Piece.block (pieces : List Piece) : List Piece :=
  .enter :: pieces ++ [.exit]

def Piece.texts (fragments : List String) : List Piece :=
  fragments.map .text

/-- The fragments of an attribute after a blank, or nothing for an empty one. -/
def Piece.attribute (text : String) : List Piece :=
  if text = "" then [] else [.text " ", .text text]

end SceneMarkup
