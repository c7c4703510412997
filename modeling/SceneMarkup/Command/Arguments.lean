namespace SceneMarkup
namespace Command

/-!
# Command lines

A command line names one of two commands, the document it works on, and options.
Options are read one argument at a time: an option that takes a value leaves the
reader waiting for it.  An option may be given once, and only where its command
knows it; asking for more log output is possible before and after the command.
-/

/-- The commands. -/
inductive Verb where
  | translate
  | exports
  deriving Repr, BEq, DecidableEq

/-- The options. -/
inductive OptionName where
  | verbose
  | version
  | deps
  | out
  | dest
  | project
  | config
  | noPreviews
  | noAbsoluteLayout
  deriving Repr, BEq, DecidableEq

/-- What an option takes. -/
inductive Takes where
  | nothing
  | path
  | text
  deriving Repr, BEq, DecidableEq

namespace OptionName

/-- What an option takes.  A path cannot be empty, a text can. -/
def takes : OptionName -> Takes
  | .verbose => .nothing
  | .version => .nothing
  | .noPreviews => .nothing
  | .noAbsoluteLayout => .nothing
  | .project => .text
  | .deps => .path
  | .out => .path
  | .dest => .path
  | .config => .path

/-- The long spelling of an option, without its dashes. -/
def long : OptionName -> String
  | .verbose => "verbose"
  | .version => "version"
  | .deps => "deps"
  | .out => "out"
  | .dest => "dest"
  | .project => "project"
  | .config => "config"
  | .noPreviews => "no-previews"
  | .noAbsoluteLayout => "no-absolute-layout"

/-- The one-letter spelling of an option, where it has one. -/
def short? : OptionName -> Option Char
  | .verbose => some 'v'
  | .version => some 'V'
  | .out => some 'o'
  | _ => none

end OptionName

/-- The options that can be given behind a command, or before any. -/
def knownOptions : Option Verb -> List OptionName
  | none => [.verbose, .version]
  | some .exports => [.verbose]
  | some .translate =>
      [.verbose, .deps, .out, .dest, .project, .config, .noPreviews, .noAbsoluteLayout]

/-- The reader between two arguments.  `given` lists the options of the current
level with their values. -/
structure Reading where
  verb : Option Verb
  verboseBefore : Bool
  given : List (OptionName × String)
  documents : List String
  pending : Option OptionName
  optionsEnded : Bool
  versionAsked : Bool

namespace Reading

/-- The reader before the first argument. -/
def start : Reading := ⟨none, false, [], [], none, false, false⟩

/-- The value of an option that was given. -/
def value? (reading : Reading) (name : OptionName) : Option String :=
  reading.given.lookup name

/-- Whether an option was given. -/
def has (reading : Reading) (name : OptionName) : Bool :=
  (reading.value? name).isSome

/-- Take in an option with its value, which is empty for one that takes none. -/
def give? (reading : Reading) (name : OptionName) (value : String) : Option Reading :=
  if reading.has name then none
  else if name.takes = .path ∧ value = "" then none
  else some { reading with given := (name, value) :: reading.given, pending := none }

/-- Take in an option without a value in the same argument. -/
def begin? (reading : Reading) (name : OptionName) : Option Reading :=
  if name = .version then some { reading with versionAsked := true }
  else if name.takes = .nothing then reading.give? name ""
  else some { reading with pending := some name }

/-- Take in an option in its long spelling, without the dashes.  A value may
follow after an equals sign. -/
def takeLong? (reading : Reading) (text : List Char) : Option Reading :=
  let spelling := String.ofList (text.takeWhile (· ≠ '='))
  match (knownOptions reading.verb).find? fun name => name.long == spelling with
  | none => none
  | some name =>
      match text.dropWhile (· ≠ '=') with
      | [] => reading.begin? name
      | _ :: value =>
          if name.takes = .nothing then none else reading.give? name (String.ofList value)

/-- Take in options in their one-letter spellings, without the dash.  The first
that takes a value ends them: what is left of the argument is its value, behind
an equals sign or not. -/
def takeShort? (reading : Reading) : List Char -> Option Reading
  | [] => some reading
  | letter :: rest =>
      match (knownOptions reading.verb).find? fun name => name.short? == some letter with
      | none => none
      | some name =>
          if name.takes = .nothing then
            match reading.begin? name with
            | none => none
            | some next => if next.versionAsked then some next else takeShort? next rest
          else
            match rest with
            | [] => reading.begin? name
            | '=' :: value => reading.give? name (String.ofList value)
            | value => reading.give? name (String.ofList value)

/-- Take in an argument that is no option: the command, or what it works on. -/
def takePlain? (reading : Reading) (argument : String) : Option Reading :=
  let enter (verb : Verb) : Option Reading :=
    some { reading with
      verb := some verb, verboseBefore := reading.has .verbose, given := [] }
  match reading.verb with
  | some _ => some { reading with documents := reading.documents ++ [argument] }
  | none =>
      if argument = "translate" then enter .translate
      else if argument = "exports" then enter .exports
      else none

/-- Take in the next argument.  Once the version was asked for, nothing else
counts.  A value cannot begin with a dash, unless it is a dash. -/
def step? (reading : Reading) (argument : String) : Option Reading :=
  if reading.versionAsked then some reading
  else
    match reading.pending with
    | some name =>
        if argument ≠ "-" ∧ argument.toList.head? = some '-' then none
        else reading.give? name argument
    | none =>
        if reading.optionsEnded then reading.takePlain? argument
        else
          match argument.toList with
          | ['-', '-'] => reading.verb.map fun _ => { reading with optionsEnded := true }
          | '-' :: '-' :: text => reading.takeLong? text
          | '-' :: letter :: rest => reading.takeShort? (letter :: rest)
          | _ => reading.takePlain? argument

end Reading

/-- What translating works with. -/
structure TranslateArguments where
  document : String
  deps : Option String
  out : Option String
  dest : String
  project : String
  config : Option String
  noPreviews : Bool
  noAbsoluteLayout : Bool
  deriving Repr, BEq, DecidableEq

/-- What a command line asks for. -/
inductive Request where
  | version
  | translate (verbose : Bool) (arguments : TranslateArguments)
  | exports (verbose : Bool) (document : String)
  deriving Repr, BEq, DecidableEq

/-- What was asked for, once all arguments are read. -/
def Reading.request? (reading : Reading) : Option Request :=
  if reading.versionAsked then some .version
  else if reading.pending.isSome then none
  else
    let verbose := reading.verboseBefore || reading.has .verbose
    match reading.verb, reading.documents with
    | some .translate, [document] =>
        if document = "" then none
        else
          some (.translate verbose
            { document
              deps := reading.value? .deps
              out := reading.value? .out
              dest := (reading.value? .dest).getD "."
              project := (reading.value? .project).getD "design"
              config := reading.value? .config
              noPreviews := reading.has .noPreviews
              noAbsoluteLayout := reading.has .noAbsoluteLayout })
    | some .exports, [document] =>
        if document = "" then none else some (.exports verbose document)
    | _, _ => none

/-- What a command line asks for, unless it is malformed. -/
def request? (arguments : List String) : Option Request :=
  (arguments.foldlM Reading.step? Reading.start).bind Reading.request?

end Command
end SceneMarkup
