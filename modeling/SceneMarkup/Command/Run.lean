import SceneMarkup.Command.Arguments
import SceneMarkup.Command.Files
import SceneMarkup.Command.Log
import SceneMarkup.Data.Tree
import SceneMarkup.Export.Plan
import SceneMarkup.Json.Printer
import SceneMarkup.Json.Reader
import SceneMarkup.Markup.Page

namespace SceneMarkup
namespace Command

/-!
# Running commands

A command reads its files, works on them, and writes or prints the result.  Each
way in which it can fail is a failure of its own; what was logged before a
failure stays.
-/

/-- Why a command fails. -/
inductive Failure where
  | usage
  | unreadable (path : String)
  | noJson (path : String)
  | invalidDesignFile (path : String)
  | invalidDocument (path : String)
  | invalidImports (path : String)
  | unreadableConfig (path : String)
  | invalidConfig (path : String)
  | noDirectory (path : String)
  | notWritten (path : String)
  | notTranslated (path : String) (fault : Fault)
  | notPlanned (path : String) (fault : Fault)
  deriving Repr, BEq, DecidableEq

/-- A cause on lines of its own, each of them indented. -/
def causeText (fault : Fault) : String :=
  let indented := fault.message.toList.flatMap fun char =>
    if char = '\n' then ['\n', ' ', ' ', ' ', ' '] else [char]
  "\n\nCaused by:\n    " ++ String.ofList indented

/-- What a user is told about a failure. -/
def Failure.message : Failure -> String
  | .usage => "usage"
  | .unreadable path => "Failed to read " ++ path
  | .noJson path => "Failed to parse " ++ path
  | .invalidDesignFile path => "Invalid design file " ++ path
  | .invalidDocument path => "Invalid document " ++ path
  | .invalidImports path => "Invalid dependency map " ++ path
  | .unreadableConfig path => "Failed to read config " ++ path
  | .invalidConfig path => "Invalid config " ++ path
  | .noDirectory path => "Failed to create " ++ path
  | .notWritten path => "Failed to write " ++ path
  | .notTranslated path fault => "Failed to translate " ++ path ++ causeText fault
  | .notPlanned path fault => "Failed to plan exports for " ++ path ++ causeText fault

/-- The status with which a command ends. -/
def exitStatus : Option Failure -> Nat
  | none => 0
  | some .usage => 2
  | some _ => 1

/-- What a command leaves behind, apart from files. -/
structure Result where
  failure : Option Failure
  output : String
  log : List LogLine
  deriving Repr, BEq, DecidableEq

/-- A failure before anything was logged. -/
def Result.failed (failure : Failure) : Result := ⟨some failure, "", []⟩

/-- A document with the name of its design file. -/
structure LoadedDocument where
  name : String
  document : Node

/-- Read a document from data: a design file, or the document alone.  A design
file without a name is called after the file it was read from. -/
def loadedFrom (path : String) (json : Json) : Except Failure LoadedDocument :=
  let stem := Path.fileStem path
  match json.get? "document" with
  | some _ =>
      match DesignFile.decode? json with
      | some file => .ok ⟨if file.name = "" then stem else file.name, file.document⟩
      | none => .error (.invalidDesignFile path)
  | none =>
      match Node.decode? json with
      | some document => .ok ⟨stem, document⟩
      | none => .error (.invalidDocument path)

section Effects

variable {Effect : Type -> Type} [Monad Effect]

/-- Read data from a file; the order of entries means nothing. -/
def readJson (files : FileAccess Effect) (path : String) :
    Effect (Except Failure Json) := do
  match ← files.read path with
  | none => return .error (.unreadable path)
  | some text =>
      match Json.read? text with
      | some json => return .ok json.sorted
      | none => return .error (.noJson path)

/-- Read a configuration, or take the standard one. -/
def readConfig (files : FileAccess Effect) : Option String ->
    Effect (Except Failure Config)
  | none => return .ok .standard
  | some path => do
      match ← files.read path with
      | none => return .error (.unreadableConfig path)
      | some text =>
          match (Json.read? text).bind Config.decode? with
          | some config => return .ok config
          | none => return .error (.invalidConfig path)

def readDocument (files : FileAccess Effect) (path : String) :
    Effect (Except Failure LoadedDocument) := do
  return (← readJson files path).bind (loadedFrom path)

/-- Read imported files, if there are any. -/
def readImports (files : FileAccess Effect) : Option String ->
    Effect (Except Failure Imports)
  | none => return .ok OrderedMap.empty
  | some path => do
      match ← readJson files path with
      | .error failure => return .error failure
      | .ok json =>
          match Imports.decode? json with
          | some imports => return .ok imports
          | none => return .error (.invalidImports path)

/-- Everything that translating needs. -/
structure Task where
  project : Except Fault Project
  out : String

/-- Read everything that translating needs: the configuration, the document and
the imported files, in this order. -/
def readTask (files : FileAccess Effect) (arguments : TranslateArguments) :
    Effect (Except Failure Task) := do
  match ← readConfig files arguments.config with
  | .error failure => return .error failure
  | .ok config =>
      let config := config.without arguments.noPreviews arguments.noAbsoluteLayout
      match ← readDocument files arguments.document with
      | .error failure => return .error failure
      | .ok loaded =>
          match ← readImports files arguments.deps with
          | .error failure => return .error failure
          | .ok imports =>
              let out := arguments.out.getD
                (sourceFilePath arguments.dest arguments.project loaded.name config.naming)
              return .ok ⟨Project.build loaded.document imports config.options out, out⟩

/-- Write a file unless it holds the same text already.  The result says whether
it was written. -/
def writeIfChanged (files : FileAccess Effect) (path content : String) :
    Effect (Except Failure Bool) := do
  if (← files.read path) = some content then return .ok false
  else
    let directory := Path.directoryText path
    let ready ← if directory = "" then pure true else files.makeDirectory directory
    if !ready then return .error (.noDirectory directory)
    else if ← files.write path content then return .ok true
    else return .error (.notWritten path)

def runTranslate (files : FileAccess Effect) (verbose : Bool)
    (arguments : TranslateArguments) : Effect Result := do
  match ← readTask files arguments with
  | .error failure => return .failed failure
  | .ok task =>
      let translated := (Reported.ofExcept task.project).bind Project.translate
      let log := LogLine.ofNotices translated.notices
      match translated.outcome with
      | .error fault =>
          return ⟨some (.notTranslated arguments.document fault), "", LogLine.shown verbose log⟩
      | .ok markup =>
          match ← writeIfChanged files task.out markup with
          | .error failure => return ⟨some failure, "", LogLine.shown verbose log⟩
          | .ok written =>
              let count := Number.digitString (Notice.warnings translated.notices).length
              let outcome : LogLine :=
                ⟨.info, if written then "Wrote " ++ task.out else task.out ++ " is up to date"⟩
              let summary : List LogLine :=
                if (Notice.warnings translated.notices).isEmpty then []
                else [⟨.warn, count ++ " warnings"⟩]
              return ⟨none, count ++ " warnings\n",
                LogLine.shown verbose (log ++ outcome :: summary)⟩

/-- Print the exports that a document needs. -/
def runExports (files : FileAccess Effect) (verbose : Bool) (path : String) :
    Effect Result := do
  match ← readDocument files path with
  | .error failure => return .failed failure
  | .ok loaded =>
      let planned := planExports loaded.document
      let log := LogLine.ofNotices planned.notices
      match planned.outcome with
      | .error fault => return ⟨some (.notPlanned path fault), "", LogLine.shown verbose log⟩
      | .ok plan =>
          let summary : LogLine :=
            ⟨.info, Number.digitString plan.fileCount ++ " files in "
              ++ Number.digitString plan.batches.length ++ " batches"⟩
          return ⟨none, plan.encode.pretty ++ "\n", LogLine.shown verbose (log ++ [summary])⟩

/-- The name and version that are printed on request. -/
def versionText : String := "canvasmark 0.1.0\n"

/-- Run a command line. -/
def run (files : FileAccess Effect) (arguments : List String) : Effect Result :=
  match request? arguments with
  | none => return .failed .usage
  | some .version => return ⟨none, versionText, []⟩
  | some (.translate verbose arguments) => runTranslate files verbose arguments
  | some (.exports verbose document) => runExports files verbose document

end Effects

end Command
end SceneMarkup
