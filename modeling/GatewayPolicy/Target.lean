import GatewayPolicy.Policy.Interchange
/-!
# Targets

A target says which policy document a store or a gateway is asked for: the scope with the
identifiers of the API and the operation. Stores file documents under the key of their target.
-/

namespace GatewayPolicy

/-- Which policy document is meant. -/
structure Target where
  /-- The scope. -/
  scope : Scope
  /-- The API. -/
  apiId : Option String := none
  /-- The operation. -/
  operationId : Option String := none
  deriving DecidableEq, Repr

namespace Target

/-- The target of a model. -/
def ofModel (m : Model) : Target := ⟨m.scope, m.apiId, m.operationId⟩

/-- The key of a target: the scope and the identifiers that are there, with slashes between. -/
def key (t : Target) : String :=
  String.intercalate "/" (t.scope.name :: (t.apiId.toList ++ t.operationId.toList))

/-- The target as a JSON value. -/
def toJson (t : Target) : Json :=
  .object ([("scope", .text t.scope.name)] ++
    Json.field? "apiId" (t.apiId.map .text) ++
    Json.field? "operationId" (t.operationId.map .text))

/-- Reads a target. -/
def read? {σ : Type} [Source σ] (v : σ) : Option Target := do
  let fields ← Source.fields? false ["scope", "apiId", "operationId"] v
  let scope ← Source.required fields "scope" Scope.read?
  let apiId ← Source.optional fields "apiId" Source.text?
  let operationId ← Source.optional fields "operationId" Source.text?
  return { scope, apiId, operationId }

end Target

end GatewayPolicy
