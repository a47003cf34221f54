import GatewayPolicy.Error
import GatewayPolicy.FreeForm
import GatewayPolicy.Json.Printer
import GatewayPolicy.Policy.Model
/-!
# Policy models as JSON

Editors and stores exchange policy models as JSON. A field that is absent is left out when a model
is written; the reader accepts a missing field wherever the model has a value for it. An item tells
its kind in the field `type`.

Items, attribute values and configurations are read from free-form values, the records around them
from any source of such values.
-/

namespace GatewayPolicy

open Json Source

/-! ## Enumerated values -/

/-- Reads a scope. -/
def Scope.read? {σ : Type} [Source σ] (v : σ) : Option Scope := (Source.name? v).bind ofName?

/-- Reads the context of an expression. -/
def ExpressionContext.read? {κ : Type} [FreeForm κ] (v : κ) : Option ExpressionContext :=
  (FreeForm.choice? (all.map name) v).map ofName

/-! ## Attribute values -/

/-- The secret as a JSON value. -/
def KeyVaultSecret.toJson (s : KeyVaultSecret) : Json :=
  .object ([("secretIdentifier", .text s.secretIdentifier)] ++
    field? "identityClientId" (s.identityClientId.map .text))

/-- Reads a secret. -/
def KeyVaultSecret.read? {σ : Type} [Source σ] (v : σ) : Option KeyVaultSecret := do
  let fields ← Source.fields? false ["secretIdentifier", "identityClientId"] v
  let secretIdentifier ← required fields "secretIdentifier" Source.text?
  let identityClientId ← optional fields "identityClientId" Source.text?
  return { secretIdentifier, identityClientId }

/-- The reference as a JSON value. -/
def NamedValueReference.toJson (r : NamedValueReference) : Json :=
  .object ([("name", .text r.name)] ++ field? "keyVault" (r.keyVault.map KeyVaultSecret.toJson))

/-- Reads a reference. -/
def NamedValueReference.read? {σ : Type} [Source σ] (v : σ) : Option NamedValueReference := do
  let fields ← Source.fields? false ["name", "keyVault"] v
  let name ← required fields "name" Source.text?
  let keyVault ← optional fields "keyVault" KeyVaultSecret.read?
  return { name, keyVault }

/-- The attribute value as a JSON value. -/
def AttributeValue.toJson : AttributeValue → Json
  | .literal s => .text s
  | .namedValue r => r.toJson

/-- Reads an attribute value: a text is literal, everything else has to be a reference. -/
def AttributeValue.read? {σ : Type} [Source σ] (v : σ) : Option AttributeValue :=
  match Source.text? v with
  | some s => some (.literal s)
  | none => (NamedValueReference.read? v).map .namedValue

/-- The attributes as a JSON value. -/
def attributesToJson (m : NameMap AttributeValue) : Json :=
  .object (m.entries.map fun (k, v) => (k, v.toJson))

/-- Reads attributes; of a repeated name the last one counts. -/
def readAttributes? {κ : Type} [FreeForm κ] (v : κ) : Option (NameMap AttributeValue) := do
  let fields ← FreeForm.named? v
  let bindings ← fields.mapM fun (k, v) => (AttributeValue.read? v).map (k, ·)
  return .ofList bindings

/-- Reads a configuration, with repeated keys merged. -/
def readConfiguration? {κ : Type} [FreeForm κ] (v : κ) : Option Fields :=
  (FreeForm.json? v).bind fun v => v.merged.object?

/-! ## Items -/

/-- The fields of a catalog item. -/
def CatalogItem.fields (i : CatalogItem) : Fields :=
  [("id", .text i.id), ("order", .int i.order), ("policyId", .text i.policyId),
    ("configuration", .object i.configuration)] ++
    field? "attributes"
      (if i.attributes.isEmpty then none else some (attributesToJson i.attributes))

/-- Reads a catalog item. -/
def CatalogItem.read? {κ : Type} [FreeForm κ] (v : κ) : Option CatalogItem := do
  let fields ← Source.fields? false ["id", "order", "policyId", "configuration", "attributes"] v
  let id ← required fields "id" Source.text?
  let order ← required fields "order" int64?
  let policyId ← required fields "policyId" Source.text?
  let configuration ← withDefault fields "configuration" [] readConfiguration?
  let attributes ← withDefault fields "attributes" .empty readAttributes?
  return { id, order, policyId, configuration, attributes }

/-- The fields of a fragment item. -/
def FragmentItem.fields (i : FragmentItem) : Fields :=
  [("id", .text i.id), ("order", .int i.order), ("fragmentId", .text i.fragmentId)]

/-- Reads a fragment item. -/
def FragmentItem.read? {κ : Type} [FreeForm κ] (v : κ) : Option FragmentItem := do
  let fields ← Source.fields? false ["id", "order", "fragmentId"] v
  let id ← required fields "id" Source.text?
  let order ← required fields "order" int64?
  let fragmentId ← required fields "fragmentId" Source.text?
  return { id, order, fragmentId }

/-- The fields of a raw XML item. -/
def CustomXmlItem.fields (i : CustomXmlItem) : Fields :=
  [("id", .text i.id), ("order", .int i.order), ("xml", .text i.xml)]

/-- Reads a raw XML item. -/
def CustomXmlItem.read? {κ : Type} [FreeForm κ] (v : κ) : Option CustomXmlItem := do
  let fields ← Source.fields? false ["id", "order", "xml"] v
  let id ← required fields "id" Source.text?
  let order ← required fields "order" int64?
  let xml ← required fields "xml" Source.text?
  return { id, order, xml }

/-- The fields of an expression item. -/
def ExpressionItem.fields (i : ExpressionItem) : Fields :=
  [("id", .text i.id), ("order", .int i.order), ("expression", .text i.expression)] ++
    field? "context" (i.context.map fun c => .text c.name) ++
    field? "targetElement" (i.targetElement.map .text) ++
    field? "targetAttribute" (i.targetAttribute.map .text)

/-- Reads an expression item. -/
def ExpressionItem.read? {κ : Type} [FreeForm κ] (v : κ) : Option ExpressionItem := do
  let fields ← Source.fields? false
    ["id", "order", "expression", "context", "targetElement", "targetAttribute"] v
  let id ← required fields "id" Source.text?
  let order ← required fields "order" int64?
  let expression ← required fields "expression" Source.text?
  let context ← optional fields "context" ExpressionContext.read?
  let targetElement ← optional fields "targetElement" Source.text?
  let targetAttribute ← optional fields "targetAttribute" Source.text?
  return { id, order, expression, context, targetElement, targetAttribute }

/-- The fields of an item besides its kind. -/
def Item.fields : Item → Fields
  | .catalog i => i.fields
  | .fragment i => i.fields
  | .customXml i => i.fields
  | .expression i => i.fields

/-- The item as a JSON value. -/
def Item.toJson (i : Item) : Json := .object (("type", .text i.kindName) :: i.fields)

/-- Reads an item whose kind is known. -/
def Item.readKind? {κ : Type} [FreeForm κ] (kind : String) (v : κ) : Option Item :=
  if kind = "catalog" then (CatalogItem.read? v).map .catalog
  else if kind = "fragment" then (FragmentItem.read? v).map .fragment
  else if kind = "custom-xml" then (CustomXmlItem.read? v).map .customXml
  else if kind = "expression" then (ExpressionItem.read? v).map .expression
  else none

/-- Reads an item, which tells its kind in the field `type`. -/
def Item.read? {κ : Type} [FreeForm κ] (v : κ) : Option Item :=
  (FreeForm.kind? "type" v).bind fun (kind, v) => readKind? kind v

/-! ## Sections and models -/

/-- The section as a JSON value. -/
def Section.toJson (s : Section) : Json :=
  .object (field? "includeBase" (s.includeBase.map .bool) ++
    [("items", .array (s.items.map Item.toJson))])

/-- Reads a section. -/
def Section.read? {σ κ : Type} [FreeSource σ κ] [FreeForm κ] (v : σ) : Option Section := do
  let fields ← Source.fields? false ["includeBase", "items"] v
  let includeBase ← optional fields "includeBase" Source.bool?
  let items ← withDefault fields "items" []
    (listOf? fun item => (FreeSource.free? item).bind Item.read?)
  return { includeBase, items }

/-- The sections as a JSON value. -/
def Sections.toJson (s : Sections) : Json :=
  .object (field? "inbound" (s.inbound.map Section.toJson) ++
    field? "backend" (s.backend.map Section.toJson) ++
    field? "outbound" (s.outbound.map Section.toJson) ++
    field? "onError" (s.onError.map Section.toJson))

/-- Reads sections. -/
def Sections.read? {σ κ : Type} [FreeSource σ κ] [FreeForm κ] (v : σ) : Option Sections := do
  let fields ← Source.fields? false ["inbound", "backend", "outbound", "onError"] v
  let inbound ← optional fields "inbound" Section.read?
  let backend ← optional fields "backend" Section.read?
  let outbound ← optional fields "outbound" Section.read?
  let onError ← optional fields "onError" Section.read?
  return { inbound, backend, outbound, onError }

/-- The metadata as a JSON value. -/
def Metadata.toJson (m : Metadata) : Json :=
  .object (field? "name" (m.name.map .text) ++
    field? "description" (m.description.map .text) ++
    field? "version" (m.version.map .text) ++
    field? "tags" (if m.tags.isEmpty then none else some (.texts m.tags)))

/-- Reads metadata. -/
def Metadata.read? {σ : Type} [Source σ] (v : σ) : Option Metadata := do
  let fields ← Source.fields? false ["name", "description", "version", "tags"] v
  let name ← optional fields "name" Source.text?
  let description ← optional fields "description" Source.text?
  let version ← optional fields "version" Source.text?
  let tags ← withDefault fields "tags" [] (listOf? Source.text?)
  return { name, description, version, tags }

namespace Model

/-- The model as a JSON value. -/
def toJson (m : Model) : Json :=
  .object ([("scope", .text m.scope.name)] ++
    field? "apiId" (m.apiId.map .text) ++
    field? "operationId" (m.operationId.map .text) ++
    [("sections", m.sections.toJson)] ++
    field? "metadata" (m.metadata.map Metadata.toJson))

/-- Reads a model. -/
def read? {σ κ : Type} [FreeSource σ κ] [FreeForm κ] (v : σ) : Option Model := do
  let fields ← Source.fields? false ["scope", "apiId", "operationId", "sections", "metadata"] v
  let scope ← required fields "scope" Scope.read?
  let apiId ← optional fields "apiId" Source.text?
  let operationId ← optional fields "operationId" Source.text?
  let sections ← withDefault fields "sections" {} Sections.read?
  let metadata ← optional fields "metadata" Metadata.read?
  return { scope, apiId, operationId, sections, metadata }

/-- The model as JSON text, one item per line. -/
def toJsonText (m : Model) : String := m.toJson.pretty

/-- The model that a JSON text holds. -/
def ofJsonText (s : String) : Except Error Model :=
  match Json.readAs? read? s with
  | some m => .ok m
  | none => .error (.validation "Invalid policy model JSON")

end Model

end GatewayPolicy
