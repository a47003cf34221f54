import GatewayPolicy.Text.Blank
/-!
# What can be wrong with a document

A document that is not well-formed is refused at the first fault. A fault says what is wrong; where
it is wrong is said by the input that was still unread there, from which the position in bytes
follows for any document that ends in it.
-/

namespace GatewayPolicy.Xml

/-- The parts of a document that run up to a closing mark. -/
inductive Construct where
  /-- From `<?` to `?>`. -/
  | instruction
  /-- From `<!--` to `-->`. -/
  | comment
  /-- From `<![CDATA[` to `]]>`. -/
  | cdata
  deriving DecidableEq, Repr

/-- How messages call the construct. -/
def Construct.description : Construct → String
  | instruction => "processing instruction"
  | comment => "comment"
  | cdata => "CDATA section"

/-- Why a document is refused. -/
inductive Fault where
  /-- The document does not start with an element. -/
  | noRoot
  /-- Something follows the root element. -/
  | contentAfterRoot
  /-- A construct has no closing mark. -/
  | unterminated (construct : Construct)
  /-- A document type declaration has no end. -/
  | unterminatedDoctype
  /-- A name is empty or starts with a character that no name starts with. -/
  | invalidName (name : String)
  /-- The input ends inside a start tag. -/
  | unterminatedStartTag (name : String)
  /-- No equals sign follows the name of an attribute. -/
  | attributeWithoutValue (name : String)
  /-- An element has two attributes of one name. -/
  | duplicateAttribute (name : String)
  /-- An attribute value does not start with a quote. -/
  | unquotedValue
  /-- An attribute value has no closing quote. -/
  | unterminatedValue
  /-- The input ends inside an element. -/
  | unclosedElement (name : String)
  /-- An end tag does not end after its name. -/
  | malformedEndTag
  /-- An end tag names another element than the innermost open one. -/
  | mismatchedEndTag (name opened : String)
  deriving DecidableEq, Repr

/-- The message of a fault. -/
def Fault.message : Fault → String
  | noRoot => "expected a root element"
  | contentAfterRoot => "unexpected content after the root element"
  | unterminated construct => "unterminated " ++ construct.description
  | unterminatedDoctype => "unterminated DOCTYPE"
  | invalidName name => "invalid name '" ++ name ++ "'"
  | unterminatedStartTag name => "unterminated start tag <" ++ name ++ ">"
  | attributeWithoutValue name => "attribute '" ++ name ++ "' has no value"
  | duplicateAttribute name => "duplicate attribute '" ++ name ++ "'"
  | unquotedValue => "attribute value must be quoted"
  | unterminatedValue => "unterminated attribute value"
  | unclosedElement name => "unclosed element <" ++ name ++ ">"
  | malformedEndTag => "malformed closing tag"
  | mismatchedEndTag name opened =>
    "mismatched closing tag </" ++ name ++ "> for <" ++ opened ++ ">"

/-- A fault with the input that was unread where it was found. -/
structure Failure where
  /-- What is wrong. -/
  fault : Fault
  /-- The input from the place of the fault on. -/
  rest : List Char
  deriving DecidableEq, Repr

/-- The place of the fault in a document, in bytes of UTF-8. -/
def Failure.position (f : Failure) (document : List Char) : Nat :=
  Text.utf8Length document - Text.utf8Length f.rest

end GatewayPolicy.Xml
