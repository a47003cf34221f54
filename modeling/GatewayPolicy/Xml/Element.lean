import GatewayPolicy.Text.Blank
/-!
# Element trees

A policy document is a tree of elements with attributes, text, CDATA sections and comments. Values
and texts are kept as they are meant, without references.
-/

namespace GatewayPolicy.Xml

/-- The attributes of an element, in document order. -/
abbrev Attributes := List (String × String)

/-- A node of a document. -/
inductive Node where
  /-- An element. -/
  | element (name : String) (attributes : Attributes) (children : List Node)
  /-- Character data. -/
  | text (value : String)
  /-- A CDATA section. -/
  | cdata (value : String)
  /-- A comment. -/
  | comment (value : String)
  deriving Inhabited, Repr

/-- An element. -/
structure Element where
  /-- The name. -/
  name : String
  /-- The attributes, in document order. -/
  attributes : Attributes := []
  /-- What stands between the tags, in document order. -/
  children : List Node := []
  deriving Inhabited, Repr

namespace Node

/-- The element that the node is, if it is one. -/
def element? : Node → Option Element
  | element name attributes children => some ⟨name, attributes, children⟩
  | _ => none

/-- Character data, marked up as CDATA or not. -/
def characters : Node → String
  | text s => s
  | cdata s => s
  | _ => ""

/-- Character data without CDATA markup and without a visible character. -/
def isBlank : Node → Bool
  | text s => Text.isBlankText s
  | _ => false

/-- Character data, marked up as CDATA or not. -/
def isCharacters : Node → Bool
  | text _ => true
  | cdata _ => true
  | _ => false

/-- Character data without CDATA markup. -/
def isText : Node → Bool
  | text _ => true
  | _ => false

end Node

namespace Element

/-- The element as a node. -/
def node (e : Element) : Node := .element e.name e.attributes e.children

/-- The value of the first attribute with the name. -/
def attribute? (e : Element) (name : String) : Option String := e.attributes.lookup name

/-- The child elements, in order. -/
def childElements (e : Element) : List Element := e.children.filterMap Node.element?

/-- The first child element with the name. -/
def child? (e : Element) (name : String) : Option Element :=
  e.childElements.find? (·.name == name)

/-- Some child is an element. -/
def hasElementChildren (e : Element) : Bool := e.children.any (·.element?.isSome)

/-- The character data of the direct children, put together. -/
def text (e : Element) : String := String.join (e.children.map Node.characters)

/-- The trimmed character data, if any of it is visible. -/
def trimmedText? (e : Element) : Option String :=
  let t := Text.trim e.text
  if t.isEmpty then none else some t

end Element

end GatewayPolicy.Xml
