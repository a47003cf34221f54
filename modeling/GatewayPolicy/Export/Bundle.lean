import GatewayPolicy.Digest
import GatewayPolicy.Export.Resource
import GatewayPolicy.Policy.Writing
import GatewayPolicy.Timestamp
import GatewayPolicy.Validation
/-!
# Export bundles

A bundle holds all that a deployment needs to know about one policy document: the document with its
digest, the resource that deploys it, a summary of the validation, and what the model says about
itself. Everything in a bundle is about the same model.
-/

namespace GatewayPolicy

/-- The findings about a model in short. -/
structure ValidationSummary where
  /-- There are no errors. -/
  valid : Bool
  /-- How many errors there are. -/
  errorCount : Nat
  /-- How many warnings there are. -/
  warningCount : Nat
  /-- The codes of all findings. -/
  codes : NameSet

/-- The summary of a validation. -/
def ValidationSummary.ofResult (r : ValidationResult) : ValidationSummary where
  valid := r.valid
  errorCount := r.errors.length
  warningCount := r.warnings.length
  codes := .ofNames ((r.errors ++ r.warnings).map (·.code.name))

/-- A policy document with all that its deployment needs. -/
structure Bundle where
  /-- The version of the format of bundles. -/
  version : String := "1.0.0"
  /-- When the bundle was made. -/
  generatedAt : Timestamp
  /-- The scope of the document. -/
  scope : Scope
  /-- The API. -/
  apiId : Option String
  /-- The operation. -/
  operationId : Option String
  /-- The document. -/
  xml : String
  /-- The digest of the document. -/
  fingerprint : String
  /-- The resource that deploys the document. -/
  resource : Option Resource
  /-- The findings about the model in short. -/
  validation : ValidationSummary
  /-- What the model says about itself. -/
  metadata : Option Metadata

namespace Model

/-- The error about a model that had to be valid and is not. -/
def invalidError (errors : List Issue) : Error :=
  .validation ("policy has " ++ toString errors.length ++ " validation error(s): " ++
    String.intercalate ", " (errors.map (·.code.name)))

/-- The bundle of a model, with a resource if there are options for it. A model that has errors is
refused if it has to be valid. -/
def bundle (m : Model) (now : Timestamp) (options : Option ExportOptions) (requireValid : Bool) :
    Except Error Bundle := do
  let result := m.validate
  if requireValid && !result.valid then throw (invalidError result.errors)
  let xml := m.toXml
  let resource ← options.mapM (m.resource xml)
  return { generatedAt := now, scope := m.scope, apiId := m.apiId, operationId := m.operationId,
           xml, fingerprint := fingerprint xml, resource,
           validation := .ofResult result, metadata := m.metadata }

end Model

/-! ## Interchange -/

open Json Source

/-- Reads a timestamp. -/
def Timestamp.readValue? {σ : Type} [Source σ] (v : σ) : Option Timestamp :=
  (Source.text? v).bind Timestamp.read?

namespace ValidationSummary

/-- The summary as a JSON value. -/
def toJson (s : ValidationSummary) : Json :=
  .object [("valid", .bool s.valid), ("errorCount", .nat s.errorCount),
    ("warningCount", .nat s.warningCount), ("codes", .texts s.codes.keys)]

/-- Reads a summary. -/
def read? {σ : Type} [Source σ] (v : σ) : Option ValidationSummary := do
  let fields ← Source.fields? false ["valid", "errorCount", "warningCount", "codes"] v
  let valid ← required fields "valid" Source.bool?
  let errorCount ← required fields "errorCount" nat64?
  let warningCount ← required fields "warningCount" nat64?
  let codes ← required fields "codes" (listOf? Source.text?)
  return { valid, errorCount, warningCount, codes := .ofNames codes }

end ValidationSummary

namespace Bundle

/-- The bundle as a JSON value. -/
def toJson (b : Bundle) : Json :=
  .object ([("version", .text b.version), ("generatedAt", .text b.generatedAt.text),
      ("scope", .text b.scope.name)] ++
    field? "apiId" (b.apiId.map .text) ++
    field? "operationId" (b.operationId.map .text) ++
    [("xml", .text b.xml), ("fingerprint", .text b.fingerprint)] ++
    field? "armResource" (b.resource.map Resource.toJson) ++
    [("validation", b.validation.toJson)] ++
    field? "metadata" (b.metadata.map Metadata.toJson))

/-- Reads a bundle. -/
def read? {σ : Type} [Source σ] (v : σ) : Option Bundle := do
  let fields ← Source.fields? false ["version", "generatedAt", "scope", "apiId", "operationId",
    "xml", "fingerprint", "armResource", "validation", "metadata"] v
  let version ← required fields "version" Source.text?
  let generatedAt ← required fields "generatedAt" Timestamp.readValue?
  let scope ← required fields "scope" Scope.read?
  let apiId ← optional fields "apiId" Source.text?
  let operationId ← optional fields "operationId" Source.text?
  let xml ← required fields "xml" Source.text?
  let fingerprint ← required fields "fingerprint" Source.text?
  let resource ← optional fields "armResource" Resource.read?
  let validation ← required fields "validation" ValidationSummary.read?
  let metadata ← optional fields "metadata" Metadata.read?
  return { version, generatedAt, scope, apiId, operationId, xml, fingerprint, resource, validation,
           metadata }

/-- The bundle as JSON text, one item per line. -/
def toJsonText (b : Bundle) : String := b.toJson.pretty

/-- The bundle that a JSON text holds. -/
def ofJsonText (s : String) : Except Error Bundle :=
  match Json.readAs? read? s with
  | some b => .ok b
  | none => .error (.validation "Invalid export bundle JSON")

end Bundle

end GatewayPolicy
