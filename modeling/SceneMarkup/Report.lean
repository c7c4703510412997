import SceneMarkup.Data.Field
import SceneMarkup.Scene.Node

namespace SceneMarkup

/-!
# Reports

What the work on a file has to tell besides its result: the fault that ends it,
the warnings about what markup cannot express, and how far it has come.
-/

/-!
## Faults

A fault ends the work on a file.  Each one names its cause; the wording stands
in one place.
-/

/-- Why the work on a file ends. -/
inductive Fault where
  | notADocument (found : NodeType)
  | malformedTree (nodeId : String) (depth : Nat)
  | componentNotFound (instanceId instanceName componentId : String)
  | structureMismatch (nodeId nodeName instanceId : String)
  | unbalancedBlock (depth : Int)
  deriving Repr, BEq, DecidableEq

/-- What a reader is told about a fault. -/
def Fault.message : Fault -> String
  | .notADocument found => "Expected a DOCUMENT root, found " ++ found.name
  | .malformedTree nodeId depth =>
      "Malformed tree: node " ++ nodeId ++ " is nested " ++ Number.digitString depth
        ++ " levels deep"
  | .componentNotFound instanceId instanceName componentId =>
      "Layer " ++ instanceName ++ " (" ++ instanceId ++ "): cannot find component "
        ++ componentId
  | .structureMismatch nodeId nodeName instanceId =>
      "Layer " ++ nodeName ++ " (" ++ nodeId
        ++ "): no matching layer in the component of instance " ++ instanceId
  | .unbalancedBlock depth =>
      "Unbalanced markup block (depth " ++ Number.wholeString depth ++ ")"

/-!
## Warnings

What a scene shows and markup cannot express is reported and left out; it never
ends the work on a file.  The same warning about the same layer counts once, at
the place where it was first raised.
-/

/-- What could not be expressed. -/
inductive WarningKind where
  | unsupportedFill (typeName : String)
  | unsupportedStroke
  | nonSolidTextFill
  | unrecognizedTextCase (letterCase : String)
  | backgroundBlur
  | pdfExport
  | nonScaleConstraint (kind : String)
  | vectorWithoutExport
  | missingOverrideInstance (instanceId : String)
  deriving Repr, BEq, DecidableEq, ReflBEq, LawfulBEq

namespace WarningKind

/-- What a reader is told. -/
def message : WarningKind -> String
  | .unsupportedFill typeName => "cannot translate " ++ typeName ++ " fill to CSS"
  | .unsupportedStroke => "only one solid stroke is supported"
  | .nonSolidTextFill => "cannot translate non-solid text color to CSS"
  | .unrecognizedTextCase letterCase => "cannot convert text case " ++ letterCase ++ " to CSS"
  | .backgroundBlur => "contains background blur which has minimal CSS support"
  | .pdfExport => "cannot export PDF"
  | .nonScaleConstraint kind =>
      "cannot export with " ++ kind ++ " constraint, only SCALE is supported"
  | .vectorWithoutExport =>
      "vector layer has no export settings, referencing the default PNG export"
  | .missingOverrideInstance instanceId => "cannot find instance " ++ instanceId ++ " for overrides"

def name : WarningKind -> String
  | .unsupportedFill _ => "unsupportedFill"
  | .unsupportedStroke => "unsupportedStroke"
  | .nonSolidTextFill => "nonSolidTextFill"
  | .unrecognizedTextCase _ => "unrecognizedTextCase"
  | .backgroundBlur => "backgroundBlur"
  | .pdfExport => "pdfExport"
  | .nonScaleConstraint _ => "nonScaleConstraint"
  | .vectorWithoutExport => "vectorWithoutExport"
  | .missingOverrideInstance _ => "missingOverrideInstance"

def detail? : WarningKind -> Option String
  | .unsupportedFill typeName => some typeName
  | .unrecognizedTextCase letterCase => some letterCase
  | .nonScaleConstraint kind => some kind
  | .missingOverrideInstance instanceId => some instanceId
  | _ => none

/-- The warning about an export that cannot be made. -/
def ofObstacle : ExportSetting.Obstacle -> WarningKind
  | .portableDocument => .pdfExport
  | .sizedBy kind => .nonScaleConstraint kind.name

end WarningKind

/-- A warning about a layer. -/
structure Warning where
  nodeId : String
  nodeName : String
  kind : WarningKind
  deriving Repr, BEq, DecidableEq, ReflBEq, LawfulBEq

namespace Warning

def about (node : Node) (kind : WarningKind) : Warning :=
  ⟨node.id, node.name, kind⟩

/-- What a reader is told. -/
def message (warning : Warning) : String :=
  "Layer " ++ warning.nodeName ++ " (" ++ warning.nodeId ++ "): " ++ warning.kind.message

def encode (warning : Warning) : Json :=
  .object
    ([ ("nodeId", .string warning.nodeId), ("nodeName", .string warning.nodeName),
       ("kind", .string warning.kind.name) ]
      ++ (match warning.kind.detail? with
          | some detail => [("detail", .string detail)]
          | none => []))

/-- Every warning once, at the place of its first occurrence. -/
def distinct : List Warning -> List Warning
  | [] => []
  | warning :: rest => warning :: (distinct rest).filter (· ≠ warning)

end Warning

/-!
## Reported computations

A computation over a scene may raise warnings, announce how far it has come, and
end with a fault.  What it noticed up to then is kept, in order, also when a
fault ends it.  Notices never influence values: they are only added to.
-/

/-- How far the work on a file has come. -/
inductive Milestone where
  | instancesResolved (count : Nat)
  | importsWritten (count : Nat)
  | rulesWritten (count : Nat)
  | declarationsWritten (count : Nat)
  | previewsWritten (count : Nat)
  | finished (bytes : Nat)
  | exportsPlanned (batches : Nat)
  deriving Repr, BEq, DecidableEq

/-- Something noticed on the way. -/
inductive Notice where
  | warning (warning : Warning)
  | milestone (milestone : Milestone)
  deriving Repr, BEq, DecidableEq

/-- The warnings among notices, each once, in the order of first occurrence. -/
def Notice.warnings (notices : List Notice) : List Warning :=
  Warning.distinct (notices.filterMap fun notice =>
    match notice with
    | .warning raised => some raised
    | .milestone _ => none)

/-- A computation with what it noticed and how it ended. -/
structure Reported (Value : Type) where
  notices : List Notice
  outcome : Except Fault Value

namespace Reported

/-- A value about which there is nothing to notice. -/
def pure (value : Value) : Reported Value :=
  ⟨[], .ok value⟩

/-- Go on with the value of a computation, unless it ended with a fault. -/
def bind (first : Reported First) (next : First -> Reported Second) : Reported Second :=
  match first.outcome with
  | .error fault => ⟨first.notices, .error fault⟩
  | .ok value =>
      let second := next value
      ⟨first.notices ++ second.notices, second.outcome⟩

instance : Monad Reported where
  pure := pure
  bind := bind

/-- End with a fault. -/
def fail (fault : Fault) : Reported Value :=
  ⟨[], .error fault⟩

def raise (warnings : List Warning) : Reported Unit :=
  ⟨warnings.map .warning, .ok ()⟩

def announce (milestone : Milestone) : Reported Unit :=
  ⟨[.milestone milestone], .ok ()⟩

/-- Take over a result that raises no warnings. -/
def ofExcept (outcome : Except Fault Value) : Reported Value :=
  ⟨[], outcome⟩

end Reported

end SceneMarkup
