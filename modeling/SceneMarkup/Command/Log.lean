import SceneMarkup.Report

namespace SceneMarkup

/-!
# Log lines

What is noticed while a command works is logged.  A warning is logged when it is
first raised, with the layer it is about; milestones are of interest only to
those who ask for them.
-/

/-- How much a log line matters. -/
inductive LogLevel where
  | debug
  | info
  | warn
  deriving Repr, BEq, DecidableEq

def LogLevel.name : LogLevel -> String
  | .debug => "DEBUG"
  | .info => "INFO"
  | .warn => "WARN"

/-- A line of the log. -/
structure LogLine where
  level : LogLevel
  message : String
  deriving Repr, BEq, DecidableEq

def isBlankChar (char : Char) : Bool :=
  let code := char.toNat
  (9 <= code && code <= 13) || code == 32 || code == 133 || code == 160 || code == 5760
    || (8192 <= code && code <= 8202) || code == 8232 || code == 8233 || code == 8239
    || code == 8287 || code == 12288

namespace LogLine

/-- A line in full; it does not end in blanks. -/
def text (line : LogLine) : String :=
  let characters := (line.level.name ++ " " ++ line.message).toList
  String.ofList (characters.reverse.dropWhile isBlankChar).reverse

/-- A milestone that counts something. -/
def counted (message field : String) (count : Nat) : LogLine :=
  ⟨.debug, message ++ " " ++ field ++ "=" ++ Number.digitString count⟩

/-- The line for a milestone, given the number of warnings so far. -/
def ofMilestone (warningCount : Nat) : Milestone -> LogLine
  | .instancesResolved count => counted "instances resolved" "instances" count
  | .importsWritten count => counted "imports translated" "imports" count
  | .rulesWritten count => counted "styles translated" "rules" count
  | .declarationsWritten count => counted "components translated" "components" count
  | .previewsWritten count => counted "previews translated" "previews" count
  | .finished bytes =>
      ⟨.debug, "translation finished bytes=" ++ Number.digitString bytes ++ " warnings="
        ++ Number.digitString warningCount⟩
  | .exportsPlanned batches => counted "exports planned" "batches" batches

def ofWarning (warning : Warning) : LogLine :=
  ⟨.warn, warning.kind.message ++ " node_id=" ++ warning.nodeId ++ " node_name="
    ++ warning.nodeName⟩

/-- The lines for notices, given the warnings that were logged before. -/
def ofNoticesAfter : List Warning -> List Notice -> List LogLine
  | _, [] => []
  | logged, .warning raised :: rest =>
      if logged.contains raised then ofNoticesAfter logged rest
      else ofWarning raised :: ofNoticesAfter (raised :: logged) rest
  | logged, .milestone reached :: rest =>
      ofMilestone logged.length reached :: ofNoticesAfter logged rest

def ofNotices (notices : List Notice) : List LogLine :=
  ofNoticesAfter [] notices

/-- The lines that are shown, which are all of them only where that is wanted. -/
def shown (verbose : Bool) (lines : List LogLine) : List LogLine :=
  lines.filter fun line => verbose || line.level != .debug

end LogLine
end SceneMarkup
