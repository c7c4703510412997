import SceneMarkup.Text.Words

namespace SceneMarkup

/-!
# Paths as text

Paths are taken apart and put together by their text alone; no file system is
asked.  Segments are separated by slashes, and a leading slash makes a path
rooted.
-/

namespace Path

/-- One part of a path.  `here` occurs only at the start of a relative path. -/
inductive Segment where
  | root
  | here
  | up
  | name (text : String)
  deriving Repr, BEq, DecidableEq

/-- Cut characters at slashes, the piece in progress being given in reverse. -/
def splitFrom : List Char -> List Char -> List (List Char)
  | piece, [] => [piece.reverse]
  | piece, char :: rest =>
      if char = '/' then piece.reverse :: splitFrom [] rest
      else splitFrom (char :: piece) rest

/-- The pieces of a path between slashes, empty ones included. -/
def pieces (path : String) : List String :=
  (splitFrom [] path.toList).map String.ofList

def isRooted (path : String) : Bool :=
  path.toList.head? == some '/'

/-- The segment that a piece stands for; empty pieces and single dots stand for
none. -/
def segmentOfPiece? (piece : String) : Option Segment :=
  if piece = "" ∨ piece = "." then none
  else if piece = ".." then some .up
  else some (.name piece)

def segments (path : String) : List Segment :=
  let inner := (pieces path).filterMap segmentOfPiece?
  if isRooted path then .root :: inner
  else if (pieces path).head? = some "." then .here :: inner
  else inner

/-- Whether anything can be taken off a path: it must end in a name, a step up,
or the dot at its start. -/
def hasParent (path : String) : Bool :=
  match (segments path).getLast? with
  | none => false
  | some .root => false
  | some _ => true

/-- The segments of the directory that a path lies in; a path without one lies
in the empty path. -/
def directorySegments (path : String) : List Segment :=
  if hasParent path then (segments path).dropLast else []

/-- Drop pieces that stand for no segment from the end, given in reverse.  The
dot at the start of a relative path stays. -/
def dropBlankTail (rooted : Bool) : List String -> List String
  | [] => []
  | piece :: rest =>
      if piece = "" then dropBlankTail rooted rest
      else if piece = "." ∧ (rooted ∨ rest ≠ []) then dropBlankTail rooted rest
      else piece :: rest

/-- The text of the directory that a path lies in, as it is written there. -/
def directoryText (path : String) : String :=
  if hasParent path then
    let rooted := isRooted path
    let body := if rooted then (pieces path).drop 1 else pieces path
    let above := dropBlankTail rooted ((dropBlankTail rooted body.reverse).drop 1)
    let text := "/".intercalate above.reverse
    if rooted then "/" ++ text else text
  else ""

/-- Put a path behind another.  A rooted path replaces what stands before it,
and a slash is added unless one stands there already. -/
def join (left right : String) : String :=
  if isRooted right then right
  else if left = "" ∨ left.toList.getLast? = some '/' then left ++ right
  else left ++ "/" ++ right

/-- The last segment, if it is a name. -/
def fileName? (path : String) : Option String :=
  match (segments path).getLast? with
  | some (.name text) => some text
  | _ => none

/-- A file name without its extension.  The dot of a hidden file begins no
extension. -/
def stemOf (name : String) : String :=
  let reversed := name.toList.reverse
  let before := (reversed.dropWhile (· ≠ '.')).drop 1
  if before.isEmpty then name else String.ofList before.reverse

/-- The name of the file at a path without its extension. -/
def fileStem (path : String) : String :=
  match fileName? path with
  | some name => stemOf name
  | none => ""

/-- Resolve dots, the parts before being given in reverse.  A step up takes away
a name; where there is none it stays.  The root is an empty part. -/
def normalizeFrom : List String -> List Segment -> List String
  | parts, [] => parts.reverse
  | parts, .here :: rest => normalizeFrom parts rest
  | parts, .root :: rest => normalizeFrom ("" :: parts) rest
  | parts, .name text :: rest => normalizeFrom (text :: parts) rest
  | last :: parts, .up :: rest =>
      if last = ".." ∨ last = "" then normalizeFrom (".." :: last :: parts) rest
      else normalizeFrom parts rest
  | [], .up :: rest => normalizeFrom [".."] rest

/-- The parts of a path once dots are resolved. -/
def normalize (path : List Segment) : List String :=
  normalizeFrom [] path

/-- The number of parts that two paths begin with in common. -/
def sharedCount : List String -> List String -> Nat
  | left :: lefts, right :: rights =>
      if left = right then sharedCount lefts rights + 1 else 0
  | _, _ => 0

def relativeParts (directory target : List String) : List String :=
  let shared := sharedCount directory target
  List.replicate (directory.length - shared) ".." ++ target.drop shared

/-- The path of a target as the file at `source` names it: relative to the
directory of that file and always beginning with a dot. -/
def relativeImport (source target : String) : String :=
  let parts := relativeParts (normalize (directorySegments source)) (normalize (segments target))
  let text := "/".intercalate parts
  if text.toList.head? = some '.' then text else "./" ++ text

end Path

/-!
## Where generated files lie

A generated file lies under a destination, in a directory named for its project,
under the name of its design file.  Both names are written in one casing.
-/

/-- How project and file names are written. -/
inductive FileNaming where
  | cased (casing : Text.Casing)
  | preserved
  deriving Repr, BEq, DecidableEq

namespace FileNaming

/-- The naming that is used where none is chosen. -/
def standard : FileNaming := .cased .kebab

/-- Write a name. -/
def apply : FileNaming -> String -> String
  | .cased casing, name => casing.apply name
  | .preserved, name => name

/-- The name of a way of naming. -/
def name : FileNaming -> String
  | .cased .camel => "camel"
  | .cased .kebab => "kebab"
  | .cased .pascal => "pascal"
  | .cased .snake => "snake"
  | .preserved => "preserve"

/-- The way of naming with a name. -/
def ofName? (name : String) : Option FileNaming :=
  if name = "camel" then some (.cased .camel)
  else if name = "kebab" then some (.cased .kebab)
  else if name = "pascal" then some (.cased .pascal)
  else if name = "snake" then some (.cased .snake)
  else if name = "preserve" then some .preserved
  else none

end FileNaming

def sourceFilePath (destination project file : String) (naming : FileNaming) : String :=
  Path.join (Path.join destination (naming.apply project)) (naming.apply file ++ ".pc")

end SceneMarkup
