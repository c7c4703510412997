import SceneMarkup.Scene.Node
import SceneMarkup.Number.Notation
import SceneMarkup.OrderedMap

namespace SceneMarkup

/-!
# Identifiers from names

Layer names are free text.  An identifier keeps the ASCII letters and digits of
the first twenty characters and joins their words in camel casing; a name
without any is replaced by the type of its node.
-/

namespace Identifier

/-- Names are read up to this many characters. -/
def nameLimit : Nat := 20

/-- Cut characters into words: at everything that is no ASCII letter or digit,
and between a small letter and a capital.  The word in progress is given in
reverse. -/
def wordsFrom : List Char -> List Char -> List (List Char)
  | word, [] => [word.reverse]
  | word, char :: rest =>
      if ! char.isAlphanum then word.reverse :: wordsFrom [] rest
      else if char.isUpper && word.head?.any Char.isLower then
        word.reverse :: wordsFrom [char] rest
      else wordsFrom (char :: word) rest

/-- The words of a text; empty ones are dropped. -/
def words (text : List Char) : List (List Char) :=
  (wordsFrom [] text).filter (! ·.isEmpty)

/-- A word with a capital first letter. -/
def capitalized : List Char -> List Char
  | [] => []
  | char :: rest => char.toUpper :: rest.map Char.toLower

/-- The words of a text in camel casing. -/
def camel (text : List Char) : List Char :=
  match words text with
  | [] => []
  | word :: rest => word.map Char.toLower ++ rest.flatMap capitalized

/-- Put an underscore before a leading digit. -/
def guardDigit : List Char -> List Char
  | [] => []
  | char :: rest => if char.isDigit then '_' :: char :: rest else char :: rest

/-- The identifier of a node before it is told apart from others. -/
def base (node : Node) : String :=
  let fromName := camel (node.name.toList.take nameLimit)
  let identifier := if fromName.isEmpty then camel node.type.name.toList else fromName
  String.ofList (guardDigit identifier)

/-- Write the first letter of each part between underscores as a capital. -/
def capitalizeParts : Bool -> List Char -> List Char
  | _, [] => []
  | atStart, char :: rest =>
      (if atStart then char.toUpper else char) :: capitalizeParts (char == '_') rest

/-- One character of an id inside a class name. -/
def encodeIdChar (char : Char) : List Char :=
  if char = ':' then ['-']
  else if char = ';' then ['_', '_']
  else if char.isAlphanum then [char]
  else '_' :: Nat.toDigits 16 char.toNat ++ ['_']

/-- An id as part of a class name: letters and digits stay, colons and
semicolons have short forms, and every other character is written as its code
between underscores. -/
def encodeId (id : String) : String :=
  String.ofList (id.toList.flatMap encodeIdChar)

end Identifier

/-!
## Telling identifiers apart

Nodes of one document whose identifiers agree form a group.  The first component
of a group keeps the bare identifier, or its first node where it has no
component.  The others are numbered from two upwards, past every name that is in
use: the bare identifiers of all groups and the names given so far.
-/

namespace Allocation

/-- A node as far as its name is concerned. -/
structure Candidate where
  base : String
  isComponent : Bool
  deriving Repr, BEq, DecidableEq

/-- A member of a group: its position in the document. -/
structure Member where
  position : Nat
  isComponent : Bool
  deriving Repr, BEq, DecidableEq

/-- Put a member at the end of the group with its identifier. -/
def addMember (groups : List (String × List Member)) (base : String) (member : Member) :
    List (String × List Member) :=
  insertEntry base ((groups.lookup base).getD [] ++ [member]) groups

/-- The groups of a document in the order of their first members. -/
def groupsFrom : Nat -> List (String × List Member) -> List Candidate ->
    List (String × List Member)
  | _, groups, [] => groups
  | position, groups, candidate :: rest =>
      groupsFrom (position + 1)
        (addMember groups candidate.base ⟨position, candidate.isComponent⟩) rest

/-- The members of a group, components first, otherwise in document order. -/
def componentsFirst (members : List Member) : List Nat :=
  (members.filter (·.isComponent) ++ members.filter (! ·.isComponent)).map (·.position)

/-- An identifier with an ordinal. -/
def numbered (base : String) (ordinal : Nat) : String :=
  base ++ Number.digitString ordinal

/-- The least ordinal from `ordinal` upwards that makes a free name.  As many
tries as there are taken names, and one more, always suffice. -/
def freeOrdinal (base : String) (taken : List String) : Nat -> Nat -> Nat
  | 0, ordinal => ordinal
  | tries + 1, ordinal =>
      if numbered base ordinal ∈ taken then freeOrdinal base taken tries (ordinal + 1)
      else ordinal

/-- Positions with the names given to them, and every name in use. -/
structure Assignment where
  given : List (Nat × String)
  taken : List String

/-- Number the members of a group that do not keep the bare identifier. -/
def numberMembers (base : String) : Nat -> List Nat -> Assignment -> Assignment
  | _, [], assignment => assignment
  | ordinal, position :: rest, assignment =>
      let free := freeOrdinal base assignment.taken (assignment.taken.length + 1) ordinal
      let name := numbered base free
      numberMembers base (free + 1) rest
        ⟨(position, name) :: assignment.given, name :: assignment.taken⟩

/-- Number the members of every group. -/
def numberGroups : List (String × List Nat) -> Assignment -> Assignment
  | [], assignment => assignment
  | (base, positions) :: rest, assignment =>
      numberGroups rest (numberMembers base 2 (positions.drop 1) assignment)

/-- The bare identifier of each group, given to its first member. -/
def bareNames (groups : List (String × List Nat)) : List (Nat × String) :=
  groups.filterMap fun group => group.2.head?.map fun position => (position, group.1)

/-- The names of all candidates, in order. -/
def names (candidates : List Candidate) : List String :=
  let groups := (groupsFrom 0 [] candidates).map fun group =>
    (group.1, componentsFirst group.2)
  let assignment := numberGroups groups ⟨bareNames groups, groups.map Prod.fst⟩
  (List.range candidates.length).map fun position =>
    (assignment.given.lookup position).getD ""

end Allocation

end SceneMarkup
