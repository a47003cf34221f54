import GatewayPolicy.Policy.Interchange
import GatewayPolicy.Yaml.Document
import GatewayPolicy.Yaml.Free
import GatewayPolicy.Yaml.Printer
/-!
# Policy models as YAML

The same fields as in JSON, for people who write models by hand.
-/

namespace GatewayPolicy.Model

/-- The model as YAML text. -/
def toYamlText (m : Model) : String := Yaml.print m.toJson

/-- The model that a YAML text holds. -/
def ofYamlText (s : String) : Except Error Model :=
  match Yaml.readAs? read? s with
  | some m => .ok m
  | none => .error (.validation "Invalid policy model YAML")

end GatewayPolicy.Model
