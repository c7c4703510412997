import SceneMarkup.Path

namespace SceneMarkup

/-!
# Files

Commands read and write files through a small interface, so that they run in any
monad that offers it.  `Workspace` is a file system as a value: the files below
one directory with their contents, and the directories among them.
-/

/-- What commands ask of a file system.  Reading fails for anything but a text
file; making a directory makes those above it too. -/
structure FileAccess (Effect : Type -> Type) where
  read : String -> Effect (Option String)
  makeDirectory : String -> Effect Bool
  write : String -> String -> Effect Bool

/-- The files and directories below one directory.  A place is a list of names
that lead down from there. -/
structure Workspace where
  files : List (List String × String)
  directories : List (List String)
  deriving Repr, BEq, DecidableEq

namespace Workspace

def isDirectory (workspace : Workspace) (place : List String) : Bool :=
  place.isEmpty || workspace.directories.contains place

def file? (workspace : Workspace) (place : List String) : Option String :=
  workspace.files.lookup place

/-- Walk down from a directory; every step must start in a directory, and no
step leads out of the workspace. -/
def walk? (workspace : Workspace) : List String -> List Path.Segment -> Option (List String)
  | place, [] => some place
  | _, .root :: _ => none
  | place, .here :: rest => walk? workspace place rest
  | place, .up :: rest =>
      if place.isEmpty || !workspace.isDirectory place then none
      else walk? workspace place.dropLast rest
  | place, .name name :: rest =>
      if workspace.isDirectory place then walk? workspace (place ++ [name]) rest else none

/-- Whether a path can only mean a directory: it is empty, or does not end in a
name. -/
def meansDirectory (path : String) : Bool :=
  match (Path.pieces path).getLast? with
  | none => true
  | some piece => piece = "" || piece = "." || piece = ".."

def filePlace? (workspace : Workspace) (path : String) : Option (List String) :=
  if meansDirectory path then none else workspace.walk? [] (Path.segments path)

/-- Read a file. -/
def read (workspace : Workspace) (path : String) : Option String :=
  (workspace.filePlace? path).bind workspace.file?

/-- Make the directories along a path, as far as they are missing.  A file in
the way ends it. -/
def makeAlong? : List String -> List Path.Segment -> Workspace -> Option Workspace
  | _, [], workspace => some workspace
  | _, .root :: _, _ => none
  | place, .here :: rest, workspace => makeAlong? place rest workspace
  | place, .up :: rest, workspace =>
      if place.isEmpty then none else makeAlong? place.dropLast rest workspace
  | place, .name name :: rest, workspace =>
      let below := place ++ [name]
      if (workspace.file? below).isSome then none
      else if workspace.isDirectory below then makeAlong? below rest workspace
      else
        makeAlong? below rest
          { workspace with directories := workspace.directories ++ [below] }

def putFile (place : List String) (content : String) :
    List (List String × String) -> List (List String × String)
  | [] => [(place, content)]
  | entry :: rest =>
      if entry.1 = place then (place, content) :: rest else entry :: putFile place content rest

/-- Write a file into a directory that is there. -/
def write? (workspace : Workspace) (path content : String) : Option Workspace :=
  match workspace.filePlace? path with
  | none => none
  | some place =>
      if workspace.isDirectory place then none
      else some { workspace with files := putFile place content workspace.files }

/-- The workspace that holds files with given paths and contents. -/
def ofFiles (entries : List (String × String)) : Workspace :=
  entries.foldl
    (fun workspace entry =>
      let above := (Path.segments entry.1).dropLast
      let prepared := (makeAlong? [] above workspace).getD workspace
      (prepared.write? entry.1 entry.2).getD prepared)
    ⟨[], []⟩

/-- The files that are new or have new contents compared with an earlier state,
with their paths. -/
def changesSince (workspace before : Workspace) : List (String × String) :=
  (workspace.files.filter fun entry => before.file? entry.1 != some entry.2).map fun entry =>
    ("/".intercalate entry.1, entry.2)

/-- A workspace as a file system. -/
def access : FileAccess (StateM Workspace) where
  read path := return (← get).read path
  makeDirectory path := do
    match makeAlong? [] (Path.segments path) (← get) with
    | some next => do
        set next
        return true
    | none => return false
  write path content := do
    match (← get).write? path content with
    | some next => do
        set next
        return true
    | none => return false

end Workspace
end SceneMarkup
