import SceneMarkup.Text.CaseTable
import SceneMarkup.Text.ClusterTable

namespace SceneMarkup
namespace Text

/-!
# Capital and lower-case text

Case mapping works on whole texts because one letter needs its surroundings: a
capital sigma becomes a final sigma at the end of a word.  Every other character
is mapped on its own, possibly to several characters.
-/

/-- Apply the first run that covers the character. -/
def CaseRun.mapped? (runs : Array CaseRun) (char : Char) : Option Char :=
  (runs.find? fun run => run.covers char.toNat).map fun run =>
    Char.ofNat (Int.ofNat char.toNat + run.offset).toNat

/-- The capital form of a character, which may be a sequence. -/
def capitalOf (char : Char) : List Char :=
  if char.toNat < 128 then [char.toUpper]
  else
    match capitalSequences.find? fun entry => entry.1 == char.toNat with
    | some entry => entry.2.map Char.ofNat
    | none => [(CaseRun.mapped? capitalRuns char).getD char]

/-- The lower-case form of a character outside its surroundings.  A dotted
capital I keeps its dot as a mark of its own. -/
def smallOf (char : Char) : List Char :=
  if char.toNat < 128 then [char.toLower]
  else if char.toNat = 0x130 then ['i', Char.ofNat 0x307]
  else [(CaseRun.mapped? smallRuns char).getD char]

def isCased (char : Char) : Bool :=
  inRanges casedRanges char.toNat

/-- Whether a character is passed over when a neighbour with a case is sought. -/
def isCaseIgnorable (char : Char) : Bool :=
  inRanges caseIgnorableRanges char.toNat

/-- Whether the nearest character that counts has a case. -/
def facesCased (chars : List Char) : Bool :=
  match chars.dropWhile isCaseIgnorable with
  | [] => false
  | char :: _ => isCased char

def capitalSigma : Char := Char.ofNat 0x3A3

/-- The sigma inside a word. -/
def innerSigma : Char := Char.ofNat 0x3C3

/-- The sigma at the end of a word. -/
def finalSigma : Char := Char.ofNat 0x3C2

/-- Lower-case a text, given what stands before it in reverse.  A sigma is final
when a letter with a case stands before it and none after it. -/
def lowerAfter : List Char -> List Char -> List Char
  | _, [] => []
  | before, char :: rest =>
      let small :=
        if char = capitalSigma then
          [if facesCased before && !facesCased rest then finalSigma else innerSigma]
        else smallOf char
      small ++ lowerAfter (char :: before) rest

/-- Lower-case a text. -/
def lowered (chars : List Char) : List Char :=
  lowerAfter [] chars

/-- Write a text in capitals. -/
def capitals (chars : List Char) : List Char :=
  chars.flatMap capitalOf

/-- A capital letter followed by lower-case text.  The rest is lower-cased on
its own, so the first letter is no surrounding of a sigma in it. -/
def capitalized : List Char -> List Char
  | [] => []
  | char :: rest => capitalOf char ++ lowered rest

/-- Lower-case a string. -/
def lowerString (text : String) : String :=
  String.ofList (lowered text.toList)

/-!
## Letters as a reader sees them

Words are cut between letters, and a letter may be written with several
characters: a base with its marks, a leading sign with its base, pictographs
chained by a joiner.  Sequences in which no character has a case, such as
syllable blocks or flags, need not be kept together: cutting words treats their
parts alike.
-/

/-- One letter: a sequence of characters, never empty where `letters` makes it. -/
abbrev Letter := List Char

/-- Whether a character is a mark without width. -/
def isAttachedMark (char : Char) : Bool :=
  inRanges attachedMarkRanges char.toNat

/-- Whether a character belongs to the one before it. -/
def isMark (char : Char) : Bool :=
  isAttachedMark char || inRanges spacingMarkRanges char.toNat

/-- Whether a character belongs to the one after it. -/
def isLeadingSign (char : Char) : Bool :=
  inRanges leadingSignRanges char.toNat

def isPictograph (char : Char) : Bool :=
  inRanges pictographRanges char.toNat

/-- Whether a letter, given in reverse, ends in a pictograph with marks and then
a joiner. -/
def awaitsPictograph : List Char -> Bool
  | [] => false
  | last :: before =>
      last == joiner
        && match before.dropWhile isAttachedMark with
          | [] => false
          | base :: _ => isPictograph base

/-- Whether a character continues a letter, given in reverse. -/
def continues (reversed : List Char) (next : Char) : Bool :=
  match reversed with
  | [] => false
  | last :: _ =>
      isMark next || isLeadingSign last
        || (isPictograph next && awaitsPictograph reversed)

/-- Cut a text into letters, the one in progress being given in reverse. -/
def lettersFrom : List Char -> List Char -> List Letter
  | current, [] => if current.isEmpty then [] else [current.reverse]
  | current, char :: rest =>
      if current.isEmpty || continues current char then
        lettersFrom (char :: current) rest
      else
        current.reverse :: lettersFrom [char] rest

/-- Cut a text into letters. -/
def letters (text : List Char) : List Letter :=
  lettersFrom [] text

/-- A capital letter: it has two cases and this is the capital one. -/
def isCapital (letter : Letter) : Bool :=
  capitals letter != lowered letter && letter == capitals letter

/-- A lower-case letter: it has two cases and this is the small one. -/
def isSmall (letter : Letter) : Bool :=
  capitals letter != lowered letter && letter == lowered letter

/-- A decimal digit; only the ten ASCII digits count. -/
def isNumeral (letter : Letter) : Bool :=
  letter.all Char.isDigit

/-!
## Words of a name

A name is cut into words where a reader would cut it: at separators, which are
dropped, between a small letter and a capital, between letters and digits, and
before the last capital of a run that a small letter follows.  The words are
then put together again in one of four casings.
-/

/-- Whether a letter separates words and is dropped itself. -/
def isSeparator (letter : Letter) : Bool :=
  letter == ['-'] || letter == ['_'] || letter == [' ']

/-- Whether a word ends between two neighbouring letters. -/
def cutsBetween (left right : Letter) : Bool :=
  (isSmall left && isCapital right)
    || (isCapital left && isNumeral right)
    || (isNumeral left && (isCapital right || isSmall right))
    || (isSmall left && isNumeral right)

/-- Whether the middle one of three letters begins a word after a run of
capitals. -/
def endsCapitalRun (left middle right : Letter) : Bool :=
  isCapital left && isCapital middle && isSmall right

/-- Whether a word begins at a letter, given its neighbours. -/
def beginsWord (left : Option Letter) (letter : Letter) (right : Option Letter) : Bool :=
  match left with
  | none => false
  | some left =>
      cutsBetween left letter
        || match right with
          | none => false
          | some right => endsCapitalRun left letter right

/-- Cut letters into words; the word in progress is given in reverse, with the
letter that stands before the rest. -/
def wordsFrom : List Letter -> Option Letter -> List Letter -> List (List Letter)
  | word, _, [] => [word.reverse]
  | word, left, letter :: rest =>
      if isSeparator letter then
        word.reverse :: wordsFrom [] (some letter) rest
      else if beginsWord left letter rest.head? then
        word.reverse :: wordsFrom [letter] (some letter) rest
      else
        wordsFrom (letter :: word) (some letter) rest

/-- The words of a name; empty ones are dropped. -/
def words (name : String) : List (List Char) :=
  ((wordsFrom [] none (letters name.toList)).map List.flatten).filter (! ·.isEmpty)

/-- The casings in which words are put together. -/
inductive Casing where
  | camel
  | kebab
  | pascal
  | snake
  deriving Repr, BEq, DecidableEq

/-- Put words together.  Camel casing leaves the first word small. -/
def Casing.join : Casing -> List (List Char) -> List Char
  | .camel, [] => []
  | .camel, word :: rest => lowered word ++ rest.flatMap capitalized
  | .pascal, words => words.flatMap capitalized
  | .kebab, words => ['-'].intercalate (words.map lowered)
  | .snake, words => ['_'].intercalate (words.map lowered)

/-- Write a name in a casing. -/
def Casing.apply (casing : Casing) (name : String) : String :=
  String.ofList (casing.join (words name))

end Text
end SceneMarkup
