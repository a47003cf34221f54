import GatewayPolicy.Json.Printer
import GatewayPolicy.Numeral.Decimal
import GatewayPolicy.Policy.NamedValue
import GatewayPolicy.Xml.Layout
/-!
# Configuration values as text

The values of a configuration are JSON values, the attributes of an element are texts. A value
becomes text by `scalarText?`; text becomes a value by `coerce`, which takes it for a number or a
truth value only if writing that value gives the same text back. So `007` and `1e3` stay texts, and
nothing is lost in either direction.
-/

namespace GatewayPolicy

open Json

/-- The named value that an object refers to: its name is the only field, key vault data aside. -/
def referenceName? (fields : Fields) : Option String :=
  match fields.get? "name" with
  | some (.text name) =>
    if fields.length = 1 || (fields.length = 2 && fields.contains "keyVault") then some name
    else none
  | _ => none

mutual

/-- A value as attribute text that is not escaped yet; `null` has none. Lists are joined by commas,
references become tokens, and other objects are written as JSON. -/
def scalarText? (style : NamedValueStyle) : Json → Option String
  | .null => none
  | .bool b => some (boolWord b)
  | .number n => some n.print
  | .text s => some s
  | .array items => some (String.intercalate "," (scalarTexts style items))
  | .object fields =>
    match referenceName? fields with
    | some name => some (NamedValue.token style name)
    | none => some (Json.object fields).compact

/-- The texts of the items that have one. -/
def scalarTexts (style : NamedValueStyle) : List Json → List String
  | [] => []
  | v :: vs =>
    match scalarText? style v with
    | some s => s :: scalarTexts style vs
    | none => scalarTexts style vs

end

/-- A value as it stands in an attribute. Tokens are left alone. -/
def attributeForm? (style : NamedValueStyle) (v : Json) : Option String :=
  (scalarText? style v).map fun s => if NamedValue.isToken s then s else Xml.attributeText s

/-- The number that a text is, if writing the number gives the text back. -/
def numberOf? (s : String) : Option Number :=
  match (Text.readSigned64? s).filter fun n => toString n = s with
  | some n => some (.int n)
  | none =>
    match RealText.read? s with
    | some (.finite x) => if (Number.float x).print = s then some (.float x) else none
    | _ => none

/-- Attribute text as a value. -/
def coerce (enabled : Bool) (s : String) : Json :=
  if enabled then
    if s = "true" then .bool true
    else if s = "false" then .bool false
    else match numberOf? s with
      | some n => .number n
      | none => .text s
  else .text s

end GatewayPolicy
