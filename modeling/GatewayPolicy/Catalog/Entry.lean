import GatewayPolicy.Catalog.Parameter
import GatewayPolicy.Catalog.Template
import GatewayPolicy.Policy.Scope
/-!
# Catalog entries

What is known about a policy of the gateway: where it may stand, which parameters it takes, and how
it is written.
-/

namespace GatewayPolicy

open Json

/-- What a policy is about. -/
inductive Category where
  /-- Who may call, and how often. -/
  | accessControl
  /-- Changes of requests and responses. -/
  | transformation
  /-- Calls of backends. -/
  | backend
  /-- Traces and logs. -/
  | observability
  /-- Caches. -/
  | caching
  /-- Checks of requests and responses. -/
  | security
  /-- Language models. -/
  | aiGateway
  /-- Control flow. -/
  | advanced
  deriving DecidableEq, Repr, Hashable

namespace Category

/-- The categories in the order in which they are shown. -/
def all : List Category :=
  [accessControl, transformation, backend, observability, caching, security, aiGateway, advanced]

/-- The name of a category. -/
def name : Category → String
  | accessControl => "access-control"
  | transformation => "transformation"
  | backend => "backend"
  | observability => "observability"
  | caching => "caching"
  | security => "security"
  | aiGateway => "ai-gateway"
  | advanced => "advanced"

/-- The category with the name. -/
def ofName? (s : String) : Option Category := all.find? (·.name == s)

end Category

/-- An entry of the catalog. -/
structure Entry where
  /-- The identifier, which is also the name of the policy's element. -/
  id : String
  /-- The name that is shown. -/
  name : String
  /-- What it is about. -/
  category : Category
  /-- What it does. -/
  description : String
  /-- The sections it may stand in. -/
  sections : List SectionKind
  /-- The scopes it works at. -/
  scopes : List Scope
  /-- Its parameters. -/
  parameters : List Parameter
  /-- The parameter that is carried as the text of the element. -/
  textParameter : Option String := none
  /-- The template that writes it, one of those that there are. -/
  template : Option Template := none
  deriving DecidableEq, Repr

namespace Entry

/-- The policy may stand in the section. -/
def supportsSection (e : Entry) (kind : SectionKind) : Bool := e.sections.contains kind

/-- The policy works at the scope. -/
def supportsScope (e : Entry) (scope : Scope) : Bool := e.scopes.contains scope

/-- The parameter with the name. -/
def parameter? (e : Entry) (name : String) : Option Parameter :=
  e.parameters.find? (·.name == name)

/-- The parameters that have to be given. -/
def requiredParameters (e : Entry) : List Parameter := e.parameters.filter (·.required)

/-- The entry as a JSON value. -/
def toJson (e : Entry) : Json :=
  .object ([("id", .text e.id), ("name", .text e.name), ("category", .text e.category.name),
    ("description", .text e.description),
    ("supportedSections", .texts (e.sections.map (·.key))),
    ("supportedScopes", .texts (e.scopes.map (·.name))),
    ("parameters", .array (e.parameters.map Parameter.toJson))] ++
    field? "textParameter" (e.textParameter.map .text))

end Entry

end GatewayPolicy
