namespace SceneMarkup
namespace Escape

/-!
# Text inside markup

Five characters would be read as markup and are written as references.  A run of
line breaks becomes one break tag.
-/

/-- Whether a character breaks a line. -/
def isBreak (char : Char) : Bool :=
  char == '\n' || char == '\r'

/-- What one character that breaks no line is written as. -/
def reference (char : Char) : List Char :=
  if char = '&' then ['&', 'a', 'm', 'p', ';']
  else if char = '<' then ['&', 'l', 't', ';']
  else if char = '>' then ['&', 'g', 't', ';']
  else if char = '\x7b' then ['&', '#', '1', '2', '3', ';']
  else if char = '\x7d' then ['&', '#', '1', '2', '5', ';']
  else [char]

/-- What a run of line breaks is written as. -/
def breakTag : List Char :=
  [' ', '<', 'b', 'r', ' ', '/', '>', ' ']

/-- Escape characters; `inRun` holds behind a line break. -/
def escapeFrom : Bool -> List Char -> List Char
  | _, [] => []
  | inRun, char :: rest =>
      if isBreak char then
        (if inRun then [] else breakTag) ++ escapeFrom true rest
      else reference char ++ escapeFrom false rest

def text (characters : String) : String :=
  String.ofList (escapeFrom false characters.toList)

end Escape
end SceneMarkup
