import ActiveObjects.Config.Ini
import ActiveObjects.Config.Json5
import ActiveObjects.Config.Layers
import ActiveObjects.Config.Ron
import ActiveObjects.Json.Parser
import ActiveObjects.Toml.Document
import ActiveObjects.Yaml.Document

/-!
# Formats of layers

A layer in a file is a table of settings in one of several formats, which the extension of the file
tells.
-/

namespace ActiveObjects

inductive FileFormat where
  | toml
  | json
  | yaml
  | ini
  | ron
  | json5
deriving DecidableEq, Repr

namespace FileFormat

def all : List FileFormat := [toml, json, yaml, ini, ron, json5]

/-- The extensions of files in a format. -/
def extensions : FileFormat → List String
  | toml => ["toml"]
  | json => ["json"]
  | yaml => ["yaml", "yml"]
  | ini => ["ini"]
  | ron => ["ron"]
  | json5 => ["json5"]

/-- The format that goes with an extension. -/
def ofExtension? (s : String) : Option FileFormat := all.find? (·.extensions.contains s)

/-- The settings in a text. A text of more than one document is refused, one of none is an empty
table. -/
def settings? (format : FileFormat) (text : String) : Option Setting :=
  match format with
  | toml => (Toml.parse? text).bind Setting.ofToml?
  | json => (Json.parse? text).map Setting.ofJson
  | yaml =>
    match Yaml.documents? text with
    | some [] => some (.table [])
    | some [document] => Setting.ofYaml? document
    | some (_ :: _ :: _) | none => none
  | ini => Ini.parse? text
  | ron => Ron.parse? text
  | json5 => Json5.parse? text

/-- The settings in a text, which have to be a table. -/
def layer? (format : FileFormat) (text : String) : Option Layer :=
  match format.settings? text with
  | some (.table fields) => some fields
  | _ => none

end FileFormat

end ActiveObjects
