/-!
# Scopes and sections

A policy document applies at one of four levels of a gateway and has up to four sections, one for
each phase of handling a request.
-/

namespace GatewayPolicy

/-- The level at which a policy document applies. -/
inductive Scope where
  /-- All APIs of the gateway. -/
  | global
  /-- The APIs of a product. -/
  | product
  /-- One API. -/
  | api
  /-- One operation of an API. -/
  | operation
  deriving DecidableEq, Repr, Inhabited

namespace Scope

/-- The scopes, from the widest to the narrowest. -/
def all : List Scope := [global, product, api, operation]

/-- The name of a scope. -/
def name : Scope → String
  | global => "global"
  | product => "product"
  | api => "api"
  | operation => "operation"

/-- The scope with the name. -/
def ofName? (s : String) : Option Scope := all.find? (·.name == s)

/-- A document at this scope belongs to an API. -/
def requiresApi : Scope → Bool
  | api => true
  | operation => true
  | _ => false

/-- A document at this scope belongs to an operation. -/
def allowsOperation : Scope → Bool
  | operation => true
  | _ => false

end Scope

/-- A section of a policy document. -/
inductive SectionKind where
  /-- Applied to the request. -/
  | inbound
  /-- Applied around the call of the backend. -/
  | backend
  /-- Applied to the response. -/
  | outbound
  /-- Applied when another section fails. -/
  | onError
  deriving DecidableEq, Repr

namespace SectionKind

/-- The sections in document order. -/
def all : List SectionKind := [inbound, backend, outbound, onError]

/-- The key of a section in JSON. -/
def key : SectionKind → String
  | inbound => "inbound"
  | backend => "backend"
  | outbound => "outbound"
  | onError => "onError"

/-- The name of the element of a section. -/
def elementName : SectionKind → String
  | inbound => "inbound"
  | backend => "backend"
  | outbound => "outbound"
  | onError => "on-error"

/-- The section with the JSON key. -/
def ofKey? (s : String) : Option SectionKind := all.find? (·.key == s)

/-- The section whose element has the name. -/
def ofElementName? (s : String) : Option SectionKind := all.find? (·.elementName == s)

end SectionKind

end GatewayPolicy
