import ActiveObjects.Config.Files
import ActiveObjects.Config.Format
import ActiveObjects.Config.Variables
import ActiveObjects.Log
import ActiveObjects.Text.Quoted
import ActiveObjects.Toml.Reading

/-!
# Loading configurations

A configuration is either parsed from one file, in which every setting has its own type, or loaded
from layers: a base file, the file of an environment, and variables. Loading also replaces the
references to variables in some settings.
-/

namespace ActiveObjects

open Text

/-! ## Failures -/

/-- The settings in which references to variables are replaced. -/
inductive ExpandedSetting where
  | host
  | parent
  | certificatePath
deriving DecidableEq, Repr

inductive LoadError where
  | unreadable (path : String)
  | unparsable
  | unbuildable
  | mistyped
  /-- A setting refers to an unset variable. -/
  | unset (setting : ExpandedSetting)
  | fault (fault : RuntimeConfig.Fault)
deriving DecidableEq, Repr

def LoadError.message : LoadError → String
  | unreadable path => s!"Failed to read config file {path}"
  | unparsable => "Failed to parse config"
  | unbuildable => "Failed to build configuration"
  | mistyped => "Failed to deserialize configuration"
  | unset .host => "Failed to expand runtime host"
  | unset .parent => "Failed to expand parent URL"
  | unset .certificatePath => "Failed to expand certificate path"
  | fault f => f.message

/-- The value of a step, or why it failed. -/
def LoadError.unless {α : Type} (e : LoadError) : Option α → Except LoadError α
  | some a => .ok a
  | none => .error e

namespace RuntimeConfig

/-- A configuration without faults. -/
def validated (config : RuntimeConfig) : Except LoadError RuntimeConfig :=
  match config.fault? with
  | some f => .error (.fault f)
  | none => .ok config

/-- Replaces the references to variables in a setting that may be unset. -/
def expandSetting (vars : Variables) (setting : ExpandedSetting) :
    Option String → Except LoadError (Option String)
  | none => .ok none
  | some s => (LoadError.unset setting).unless ((vars.expand? s).map some)

/-- Replaces the references to variables in the host, the parent and the certificate's path. -/
def expanded (vars : Variables) (config : RuntimeConfig) : Except LoadError RuntimeConfig := do
  let host ← (LoadError.unset .host).unless (vars.expand? config.runtime.host)
  let parent ← expandSetting vars .parent config.runtime.parent
  let path ← expandSetting vars .certificatePath config.security.certificatePath
  return { config with
    runtime := { config.runtime with host, parent }
    security := { config.security with certificatePath := path } }

/-! ## One file -/

/-- The configuration in a file, whose settings have their own types. -/
def ofFile (files : FileTree) (generated path : String) : Except LoadError RuntimeConfig := do
  let text ← (LoadError.unreadable path).unless ((files.file? path).bind Utf8.decode)
  let config ← LoadError.unparsable.unless
    ((Toml.parse? (String.ofList text)).bind (RuntimeConfig.read? generated))
  config.validated

/-- What is logged about a file: that its configuration is good. -/
def ofFileLog (files : FileTree) (generated path : String) : List LogLine :=
  match ofFile files generated path with
  | .ok _ => [⟨.debug, s!"Parsed runtime config from {path}"⟩]
  | .error _ => []

/-! ## Layers -/

/-- The file that a path names and its format. The extension may be left out of the path, unless
there is a file of just that name. -/
def source? (files : FileTree) (path : String) : Option (FileFormat × List UInt8) :=
  match files.file? path with
  | some octets => ((extension? path).bind FileFormat.ofExtension?).map (·, octets)
  | none => FileFormat.all.findSome? fun format =>
    format.extensions.findSome? fun extension =>
      ((addExtension? path extension).bind files.file?).map (format, ·)

/-- The layer in a file. -/
def fileLayer? (files : FileTree) (path : String) : Option Layer := do
  let (format, octets) ← source? files path
  format.layer? (String.ofList (← Utf8.decode octets))

/-- The path of the base file when none is given. -/
def defaultPath : String := "config/runtime.toml"

/-- The path of the file for an environment. -/
def environmentPath (environment : String) : String :=
  if environment.startsWith "/" then environment ++ ".toml"
  else s!"config/environments/{environment}.toml"

/-- The paths of the files to load: the base, and that of the environment if it exists. -/
def paths (files : FileTree) (base environment : Option String) : List String :=
  let overlay := (environment.map environmentPath).filter fun path => (files.find? path).isSome
  base.getD defaultPath :: overlay.toList

/-- What is logged about the files to load: whether that of the environment exists. -/
def loadLog (files : FileTree) (environment : Option String) : List LogLine :=
  match environment.map environmentPath with
  | none => []
  | some path =>
    if (files.find? path).isSome then
      [⟨.info, s!"Loading environment config: {quotedPath path}"⟩]
    else [⟨.warn, s!"Environment config not found: {quotedPath path}"⟩]

/-- All layers: files in order, and the variables over them. -/
def layers? (files : FileTree) (vars : Variables) (base environment : Option String) :
    Option (List Layer) := do
  return (← (paths files base environment).mapM (fileLayer? files)) ++ [vars.layer]

/-- The configuration that layers make. -/
def build (vars : Variables) (generated : String) (layers : List Layer) :
    Except LoadError RuntimeConfig := do
  let config ← LoadError.mistyped.unless (RuntimeConfig.read? generated (Setting.ofLayers layers))
  (← config.expanded vars).validated

/-- The configuration that the base file, that of the environment and the variables make. -/
def load (files : FileTree) (vars : Variables) (generated : String)
    (base environment : Option String) : Except LoadError RuntimeConfig := do
  build vars generated (← LoadError.unbuildable.unless (layers? files vars base environment))

end RuntimeConfig

end ActiveObjects
