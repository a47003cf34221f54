import GatewayPolicy.Policy.Interchange
import GatewayPolicy.Text.Search
/-!
# Deployment resources

A policy document is deployed as a resource of the gateway's service. The type of the resource and
its name follow from the scope: the name leads from the service by way of the product, the API or
the operation to the policy. The same resource can be declared in a Bicep file.
-/

namespace GatewayPolicy

/-- Where a policy document is deployed. -/
structure ExportOptions where
  /-- The name of the service. -/
  serviceName : String
  /-- The version of the management interface. -/
  apiVersion : String := "2022-08-01"
  /-- The product, for documents at product scope; models do not know theirs. -/
  productId : Option String := none
  deriving DecidableEq, Repr

/-- A deployment resource that carries a policy document. -/
structure Resource where
  /-- The type of the resource. -/
  type : String
  /-- The version of the management interface. -/
  apiVersion : String
  /-- The name, as a path. -/
  name : String
  /-- The format of the document. -/
  format : String
  /-- The document. -/
  value : String
  deriving DecidableEq, Repr

namespace Scope

/-- The type of the resource for documents of a scope. -/
def resourceType (s : Scope) : String :=
  let inner := match s with
    | .global => ""
    | .product => "/products"
    | .api => "/apis"
    | .operation => "/apis/operations"
  "Microsoft.ApiManagement/service" ++ inner ++ "/policies"

/-- The name of the declaration for documents of a scope. -/
def declarationName : Scope → String
  | .global => "servicePolicy"
  | .product => "productPolicy"
  | .api => "apiPolicy"
  | .operation => "operationPolicy"

end Scope

/-- The format of documents that are not wrapped in any way. -/
def rawFormat : String := "rawxml"

/-! ## Names -/

/-- A segment of a name, trimmed; a missing or blank one is an error that says what it should be. -/
def requiredSegment (scope : Scope) (what : String) (value : Option String) :
    Except Error String :=
  match value.filter fun s => !Text.isBlankText s with
  | some s => .ok (Text.trim s)
  | none => .error (.validation (scope.name ++ " scope export requires " ++ what))

namespace Model

/-- What the segments between the service and the policy are, with their values. -/
def innerSegments (m : Model) (options : ExportOptions) : List (String × Option String) :=
  match m.scope with
  | .global => []
  | .product => [("a product id", options.productId)]
  | .api => [("an apiId", m.apiId)]
  | .operation => [("an apiId", m.apiId), ("an operationId", m.operationId)]

/-- The name of the resource that deploys the document of a model. -/
def resourceName (m : Model) (options : ExportOptions) : Except Error String := do
  let segments := ("a service name", some options.serviceName) :: m.innerSegments options
  let names ← segments.mapM fun (what, value) => requiredSegment m.scope what value
  return String.intercalate "/" (names ++ ["policy"])

/-- The resource that deploys a document at the scope of a model. -/
def resource (m : Model) (xml : String) (options : ExportOptions) : Except Error Resource := do
  let name ← m.resourceName options
  return { type := m.scope.resourceType, apiVersion := options.apiVersion, name,
           format := rawFormat, value := xml }

/-! ## Bicep -/

/-- The quotes around a text of several lines. -/
def multilineQuote : String := "'''"

/-- The lines that declare a resource, given the name of the declaration. -/
def declarationLines (declaration : String) (r : Resource) : List String :=
  ["resource " ++ declaration ++ " '" ++ r.type ++ "@" ++ r.apiVersion ++ "' = \x7b",
    "  name: '" ++ r.name ++ "'",
    "  properties: \x7b",
    "    format: '" ++ r.format ++ "'",
    "    value: " ++ multilineQuote,
    r.value,
    multilineQuote,
    "  \x7d",
    "\x7d"]

/-- The Bicep declaration of the resource. A document that contains the quotes around it cannot be
declared. -/
def bicep (m : Model) (xml : String) (options : ExportOptions) : Except Error String :=
  if Text.containsText multilineQuote xml then
    .error (.validation
      "policy XML contains ''' and cannot be embedded in a Bicep multi-line string")
  else do
    let r ← m.resource xml options
    return Text.unlines (declarationLines m.scope.declarationName r) ++ "\n"

end Model

/-! ## Interchange -/

open Json Source

/-- The options as a JSON value. -/
def ExportOptions.toJson (o : ExportOptions) : Json :=
  .object ([("serviceName", .text o.serviceName), ("apiVersion", .text o.apiVersion)] ++
    field? "productId" (o.productId.map .text))

/-- Reads options. -/
def ExportOptions.read? {σ : Type} [Source σ] (v : σ) : Option ExportOptions := do
  let fields ← Source.fields? false ["serviceName", "apiVersion", "productId"] v
  let serviceName ← required fields "serviceName" Source.text?
  let apiVersion ← required fields "apiVersion" Source.text?
  let productId ← optional fields "productId" Source.text?
  return { serviceName, apiVersion, productId }

/-- The resource as a JSON value. -/
def Resource.toJson (r : Resource) : Json :=
  .object [("type", .text r.type), ("apiVersion", .text r.apiVersion), ("name", .text r.name),
    ("properties", .object [("format", .text r.format), ("value", .text r.value)])]

/-- Reads a resource. -/
def Resource.read? {σ : Type} [Source σ] (v : σ) : Option Resource := do
  let fields ← Source.fields? false ["type", "apiVersion", "name", "properties"] v
  let type ← required fields "type" Source.text?
  let apiVersion ← required fields "apiVersion" Source.text?
  let name ← required fields "name" Source.text?
  let properties ← required fields "properties" (Source.fields? false ["format", "value"])
  let format ← required properties "format" Source.text?
  let value ← required properties "value" Source.text?
  return { type, apiVersion, name, format, value }

end GatewayPolicy
