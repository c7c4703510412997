import SceneMarkup.Data.Field
import SceneMarkup.Path

namespace SceneMarkup

/-!
# Options

What generated markup contains can be chosen in two respects, and how generated
files are named in a third.  Everything that is not chosen takes its standard
value.
-/

/-- What generated markup contains: absolute positions, and previews of
components. -/
structure Options where
  absoluteLayout : Bool
  previews : Bool
  deriving Repr, BEq, DecidableEq

namespace Options

/-- Everything is generated. -/
def standard : Options := ⟨true, true⟩

def decode? (json : Json) : Option Options := do
  let entries ← json.fields? ["includeAbsoluteLayout", "includePreviews"]
  let absoluteLayout ← Json.defaulted? entries "includeAbsoluteLayout" true Json.asBool?
  let previews ← Json.defaulted? entries "includePreviews" true Json.asBool?
  return ⟨absoluteLayout, previews⟩

def encode (options : Options) : Json :=
  .object
    [ ("includeAbsoluteLayout", .bool options.absoluteLayout),
      ("includePreviews", .bool options.previews) ]

end Options

def FileNaming.decode? (json : Json) : Option FileNaming :=
  json.asChoice?.bind FileNaming.ofName?

def FileNaming.encode (naming : FileNaming) : Json :=
  .string naming.name

/-- Everything that can be configured in a file. -/
structure Config where
  options : Options
  naming : FileNaming
  deriving Repr, BEq, DecidableEq

namespace Config

/-- The configuration where there is no file. -/
def standard : Config := ⟨.standard, .standard⟩

def decode? (json : Json) : Option Config := do
  let entries ← json.fields? ["compilerOptions", "fileNameFormat"]
  let options ← Json.defaulted? entries "compilerOptions" Options.standard Options.decode?
  let naming ← Json.defaulted? entries "fileNameFormat" FileNaming.standard FileNaming.decode?
  return ⟨options, naming⟩

def encode (config : Config) : Json :=
  .object
    [("compilerOptions", config.options.encode), ("fileNameFormat", config.naming.encode)]

/-- Switch previews or absolute positions off, whatever the file chose. -/
def without (config : Config) (previews absoluteLayout : Bool) : Config :=
  { config with
    options :=
      { absoluteLayout := config.options.absoluteLayout && !absoluteLayout
        previews := config.options.previews && !previews } }

end Config
end SceneMarkup
