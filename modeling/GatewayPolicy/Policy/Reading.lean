import GatewayPolicy.Policy.Model
import GatewayPolicy.Policy.Shape
import GatewayPolicy.Xml.Document
/-!
# Policy documents, read

A document becomes a model section by section. Every child of a section that carries meaning becomes
one item, in order; the items are numbered from zero and named after their section. Nothing in a
section makes reading fail: what a configuration cannot express is kept as raw XML.
-/

namespace GatewayPolicy

open Json Xml

/-- The name of the root element. -/
def rootName : String := "policies"

/-- The key of a configuration under which the text of an element is kept. -/
def textKey : String := "#text"

/-- An element as a raw XML item. -/
def rawItem (settings : Settings) (id : String) (order : Int) (e : Element) : Item :=
  .customXml { id, order, xml := e.serialize settings.indentWidth }

/-- The attributes of an element that are references to named values. -/
def referenceAttributes (attributes : Attributes) : NameMap AttributeValue :=
  .ofList (attributes.filterMap fun (key, value) =>
    (NamedValue.name? value).map fun name => (key, .namedValue { name }))

/-- The attributes of an element that are parameters. -/
def parameterAttributes (settings : Settings) (attributes : Attributes) : Fields :=
  .merge ((attributes.filter fun (_, value) => !NamedValue.isToken value).map fun (key, value) =>
    (key, coerce settings.coerceScalars value))

/-- The child elements that are parameters. -/
def leafFields (e : Element) : Fields :=
  e.childElements.filterMap fun child => child.trimmedText?.map fun t => (child.name, .text t)

/-- The key under which the text of an element is kept: the parameter that it is, unless an
attribute or a leaf has taken it. -/
def textKeyFor (policyId : String) (configuration : Fields) : String :=
  match textParameter? policyId with
  | some key => if configuration.contains key then textKey else key
  | none => textKey

/-- The configuration that a simple element holds. -/
def simpleConfiguration (settings : Settings) (e : Element) : Fields :=
  let named := (leafFields e).foldl (fun acc (k, v) => Fields.set acc k v)
    (parameterAttributes settings e.attributes)
  match e.trimmedText? with
  | some t => Fields.set named (textKeyFor e.name named) (.text t)
  | none => named

/-- A simple element as a catalog item. -/
def simpleItem (settings : Settings) (id : String) (order : Int) (e : Element) : Item :=
  .catalog
    { id, order
      policyId := e.name
      configuration := simpleConfiguration settings e
      attributes := referenceAttributes e.attributes }

/-- An element of a section as an item; the mark for the enclosing scope is none. -/
def elementItem? (settings : Settings) (id : String) (order : Int) (e : Element) : Option Item :=
  match shape e with
  | .base => none
  | .fragment => some (.fragment { id, order, fragmentId := (fragmentReference? e).getD "" })
  | .sendRequest =>
    match SendRequest.ofElement? settings e with
    | some s =>
      some (.catalog
        { id, order, policyId := SendRequest.policyId, configuration := s.toConfiguration })
    | none => some (rawItem settings id order e)
  | .simple => some (simpleItem settings id order e)
  | .complex => some (rawItem settings id order e)

/-- Character data of a section as an item, if it is an expression. -/
def charactersItem? (id : String) (order : Int) (s : String) : Option Item :=
  let expression := Text.trim s
  if isExpression expression then
    some (.expression { id, order, expression, context := some .condition })
  else none

/-- A child of a section as an item, if it carries meaning. -/
def nodeItem? (settings : Settings) (id : String) (order : Int) : Node → Option Item
  | .element name attributes children => elementItem? settings id order ⟨name, attributes, children⟩
  | .comment s => some (.customXml { id, order, xml := commentText s })
  | .text s => charactersItem? id order s
  | .cdata s => charactersItem? id order s

/-- The identifier of an item that is read from a document. -/
def itemId (kind : SectionKind) (n : Nat) : String := kind.key ++ "-" ++ toString n

/-- The items of a section's children, numbered from `n` on. -/
def sectionItems (settings : Settings) (kind : SectionKind) (n : Nat) : List Node → List Item
  | [] => []
  | node :: rest =>
    match nodeItem? settings (itemId kind n) n node with
    | some item => item :: sectionItems settings kind (n + 1) rest
    | none => sectionItems settings kind n rest

/-- The section that an element holds. -/
def readSection (settings : Settings) (kind : SectionKind) (e : Element) : Section where
  includeBase := some (e.childElements.any fun child => shape child = .base)
  items := sectionItems settings kind 0 e.children

/-- Takes an element under the root into the sections: the first element of each kind counts, all
others are ignored. -/
def addSection (settings : Settings) (s : Sections) (e : Element) : Sections :=
  match SectionKind.ofElementName? e.name with
  | some kind =>
    if (s.get? kind).isSome then s else s.set kind (some (readSection settings kind e))
  | none => s

namespace Model

/-- The model of a document with the given root element. -/
def ofRoot (settings : Settings) (root : Element) : Model where
  scope := settings.defaultScope
  sections := root.childElements.foldl (addSection settings) {}

/-- The model of a document. -/
def ofXml (settings : Settings) (document : String) : Except Error Model :=
  match Xml.parse document with
  | .error e => .error e
  | .ok root =>
    if root.name = rootName then .ok (ofRoot settings root)
    else .error (.parse ("expected <" ++ rootName ++ "> root, found <" ++ root.name ++ ">") 0)

end Model

end GatewayPolicy
