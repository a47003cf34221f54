import GatewayPolicy.Json.Basic
import GatewayPolicy.NameMap
/-!
# Policy items

What a section of a policy document is made of: policies of the catalog with their configuration,
references to fragments, raw XML, and expressions. Every item has an identifier and an order; items
are emitted by ascending order.
-/

namespace GatewayPolicy

/-- The key vault secret behind a named value. -/
structure KeyVaultSecret where
  /-- Where the secret is. -/
  secretIdentifier : String
  /-- The identity that reads it. -/
  identityClientId : Option String := none
  deriving DecidableEq, Repr

/-- A reference to a named value. -/
structure NamedValueReference where
  /-- The name. -/
  name : String
  /-- The secret behind the named value. -/
  keyVault : Option KeyVaultSecret := none
  deriving DecidableEq, Repr

/-- The value of an attribute. -/
inductive AttributeValue where
  /-- A text. -/
  | literal (value : String)
  /-- A reference to a named value. -/
  | namedValue (reference : NamedValueReference)
  deriving DecidableEq, Repr

/-- A policy of the catalog. -/
structure CatalogItem where
  /-- The identifier. -/
  id : String
  /-- The place among the items of the section. -/
  order : Int
  /-- The policy. -/
  policyId : String
  /-- The parameters, in the order they were written. -/
  configuration : Json.Fields := []
  /-- The attributes that are not parameters. -/
  attributes : NameMap AttributeValue := .empty

/-- A reference to a fragment that the gateway keeps. -/
structure FragmentItem where
  /-- The identifier. -/
  id : String
  /-- The place among the items of the section. -/
  order : Int
  /-- The fragment. -/
  fragmentId : String
  deriving DecidableEq, Repr

/-- A piece of a document that is kept as it is. -/
structure CustomXmlItem where
  /-- The identifier. -/
  id : String
  /-- The place among the items of the section. -/
  order : Int
  /-- The text. -/
  xml : String
  deriving DecidableEq, Repr

/-- Where an expression is placed. -/
inductive ExpressionContext where
  /-- In an attribute of an element. -/
  | inAttribute
  /-- As the content of an element. -/
  | inElement
  /-- On its own. -/
  | condition
  /-- Some other place, which is treated like `condition`. -/
  | other
  deriving DecidableEq, Repr

namespace ExpressionContext

/-- The name of a context. -/
def name : ExpressionContext → String
  | inAttribute => "attribute"
  | inElement => "value"
  | condition => "condition"
  | other => "other"

/-- The contexts. -/
def all : List ExpressionContext := [inAttribute, inElement, condition, other]

/-- The context with the name; every name that is not known is some other place. -/
def ofName (s : String) : ExpressionContext := (all.find? (·.name == s)).getD other

end ExpressionContext

/-- An expression. -/
structure ExpressionItem where
  /-- The identifier. -/
  id : String
  /-- The place among the items of the section. -/
  order : Int
  /-- The expression. -/
  expression : String
  /-- Where it is placed. -/
  context : Option ExpressionContext := none
  /-- The element that it is placed in. -/
  targetElement : Option String := none
  /-- The attribute that it is placed in. -/
  targetAttribute : Option String := none
  deriving DecidableEq, Repr

/-- An item of a section. -/
inductive Item where
  /-- A policy of the catalog. -/
  | catalog (item : CatalogItem)
  /-- A reference to a fragment. -/
  | fragment (item : FragmentItem)
  /-- Raw XML. -/
  | customXml (item : CustomXmlItem)
  /-- An expression. -/
  | expression (item : ExpressionItem)

namespace Item

/-- A catalog item without attributes. A configuration that is no object is taken as empty. -/
def ofPolicy (id : String) (order : Int) (policyId : String) (configuration : Json) : Item :=
  .catalog { id, order, policyId, configuration := configuration.object?.getD [] }

/-- Gives a catalog item an attribute; other items stay as they are. -/
def withAttribute (item : Item) (key : String) (value : AttributeValue) : Item :=
  match item with
  | .catalog c => .catalog { c with attributes := c.attributes.insert key value }
  | _ => item

/-- The identifier. -/
def id : Item → String
  | .catalog i => i.id
  | .fragment i => i.id
  | .customXml i => i.id
  | .expression i => i.id

/-- The place among the items of the section. -/
def order : Item → Int
  | .catalog i => i.order
  | .fragment i => i.order
  | .customXml i => i.order
  | .expression i => i.order

/-- The name of the kind of an item. -/
def kindName : Item → String
  | .catalog _ => "catalog"
  | .fragment _ => "fragment"
  | .customXml _ => "custom-xml"
  | .expression _ => "expression"

/-- The catalog item that the item is, if it is one. -/
def catalog? : Item → Option CatalogItem
  | .catalog i => some i
  | _ => none

/-- The fragment that the item refers to, if it does. -/
def fragmentId? : Item → Option String
  | .fragment i => some i.fragmentId
  | _ => none

end Item

end GatewayPolicy
