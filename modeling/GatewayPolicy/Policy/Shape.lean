import GatewayPolicy.SendRequest
import GatewayPolicy.Xml.Element
/-!
# Shapes of policy elements

How an element of a section is taken into a model depends on its shape alone: documents may hold
policies that no catalog knows. An element with attributes and plain text can be a configuration;
one with structure that a configuration cannot express is kept as raw XML.
-/

namespace GatewayPolicy

open Xml

/-- How an element of a section is taken into a model. -/
inductive Shape where
  /-- The mark that policies of the enclosing scope are included. -/
  | base
  /-- A reference to a fragment. -/
  | fragment
  /-- The policy `send-request`, with its nested body. -/
  | sendRequest
  /-- Attributes and plain text, and the children of plain text that some policies have. -/
  | simple
  /-- Nested elements, comments or CDATA. -/
  | complex
  deriving DecidableEq, Repr

/-- The parameter that a policy carries as the text of its element. -/
def textParameter? (policyId : String) : Option String :=
  [("set-body", "value"), ("set-method", "method"), ("log-to-eventhub", "message")].lookup policyId

/-- The parameters that a policy carries as child elements of plain text. -/
def leafParameters (policyId : String) : List String :=
  if policyId = "trace" then ["message"] else []

/-- A child element that is a parameter: its name is one, and it holds plain text only. -/
def isLeaf (leaves : List String) (e : Element) : Bool :=
  leaves.contains e.name && e.attributes.isEmpty && e.children.all Node.isText

/-- The nodes have structure beyond plain text and one leaf per parameter; `seen` are the leaves
that were met before. -/
def isStructured (leaves seen : List String) : List Node → Bool
  | [] => false
  | .text _ :: rest => isStructured leaves seen rest
  | .element name attributes children :: rest =>
    if isLeaf leaves ⟨name, attributes, children⟩ && !seen.contains name then
      isStructured leaves (name :: seen) rest
    else true
  | _ :: _ => true

/-- The fragment that an element refers to, if it refers to one. -/
def fragmentReference? (e : Element) : Option String :=
  ((e.attribute? "fragment-id").map Text.trim).filter (!·.isEmpty)

/-- The shape of an element. -/
def shape (e : Element) : Shape :=
  if e.name = "base" then .base
  else if e.name = "include-fragment" || e.name = "include" then
    if (fragmentReference? e).isSome && !e.hasElementChildren then .fragment else .complex
  else if e.name = SendRequest.policyId then .sendRequest
  else if isStructured (leafParameters e.name) [] e.children then .complex
  else .simple

end GatewayPolicy
