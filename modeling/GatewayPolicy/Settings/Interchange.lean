import GatewayPolicy.Error
import GatewayPolicy.Policy.Interchange
import GatewayPolicy.Settings
import GatewayPolicy.Text.LowerCase
import GatewayPolicy.Yaml.Document
/-!
# Settings files

Settings are kept in JSON or YAML files. A file gives the settings that differ from the default
ones; a field that is no setting makes the whole file invalid. The extension of its name says how a
file is written.
-/

namespace GatewayPolicy

/-- Reads the style of references. -/
def NamedValueStyle.read? {σ : Type} [Source σ] (v : σ) : Option NamedValueStyle :=
  (Source.name? v).bind ofName?

namespace Settings

open Json Source

/-- The settings as a JSON value. -/
def toJson (s : Settings) : Json :=
  .object [("indent_width", .nat s.indentWidth), ("default_scope", .text s.defaultScope.name),
    ("coerce_scalars", .bool s.coerceScalars), ("named_value_style", .text s.namedValueStyle.name)]

/-- Reads settings; what is missing has its default. -/
def read? {σ : Type} [Source σ] (v : σ) : Option Settings := do
  let fields ← Source.fields? true
    ["indent_width", "default_scope", "coerce_scalars", "named_value_style"] v
  let indentWidth ← optional fields "indent_width" nat64?
  let defaultScope ← optional fields "default_scope" Scope.read?
  let coerceScalars ← optional fields "coerce_scalars" Source.bool?
  let namedValueStyle ← optional fields "named_value_style" NamedValueStyle.read?
  let default : Settings := {}
  return { indentWidth := indentWidth.getD default.indentWidth
           defaultScope := defaultScope.getD default.defaultScope
           coerceScalars := coerceScalars.getD default.coerceScalars
           namedValueStyle := namedValueStyle.getD default.namedValueStyle }

/-- The settings that a JSON value holds. -/
def ofJson (v : Json) : Except Error Settings :=
  match read? v with
  | some s => .ok s
  | none => .error (.config "invalid compiler config")

/-- The settings that a JSON text holds. -/
def ofJsonText (s : String) : Except Error Settings :=
  match Json.readMerged? s with
  | some v => ofJson v
  | none => .error (.config "invalid compiler config JSON")

/-- The settings that a YAML text holds. -/
def ofYamlText (s : String) : Except Error Settings :=
  match Yaml.readAs? read? s with
  | some s => .ok s
  | none => .error (.config "invalid compiler config YAML")

/-- The last part of a path, after its last slash. -/
def lastPart (path : String) : List Char := (path.toList.reverse.takeWhile (· ≠ '/')).reverse

/-- The extension of a file: what follows the last dot in the last part of its path, unless that dot
is the first character there. -/
def extensionOf (path : String) : String :=
  let name := lastPart path
  let suffix := (name.reverse.takeWhile (· ≠ '.')).reverse
  if suffix.length + 1 < name.length then .ofList suffix else ""

/-- The settings that a file holds, given its content if there is such a file. -/
def ofFile (name : String) (content : Option String) : Except Error Settings :=
  match content with
  | none => .error (.io ("no file '" ++ name ++ "'"))
  | some content =>
    let ext := Text.lowerCase (extensionOf name)
    if ext = "yaml" || ext = "yml" then ofYamlText content
    else if ext = "json" then ofJsonText content
    else .error (.config ("unsupported config extension '" ++ ext ++ "'"))

end Settings

end GatewayPolicy
