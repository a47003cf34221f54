import GatewayPolicy.Text.Lines
import GatewayPolicy.Xml.Element
import GatewayPolicy.Xml.Expression
import GatewayPolicy.Xml.Reference
/-!
# Documents, written

Elements are laid out with one node per line and a fixed number of spaces per level. An element
without visible content is one closed tag; one that holds character data only stays on one line.
Texts are trimmed, because the layout adds blanks around them, and blank texts are left out.
Expressions are written as they are; all other values and texts are escaped.
-/

namespace GatewayPolicy.Xml

open Text

/-- An attribute value between its quotes. -/
def attributeText (s : String) : String := if isExpression s then s else escape s

/-- Trimmed character data as it is written. -/
def contentText (s : String) : String := if isExpression s then s else escapeText s

/-- The attributes as they follow the name of an element. -/
def attributesText (attributes : Attributes) : String :=
  String.join (attributes.map fun (k, v) => " " ++ k ++ "=\"" ++ attributeText v ++ "\"")

/-- A start tag up to where it closes. -/
def openTag (name : String) (attributes : Attributes) : String :=
  "<" ++ name ++ attributesText attributes

/-- A CDATA section. -/
def cdataText (s : String) : String := "<![CDATA[" ++ s ++ "]]>"

/-- A comment. -/
def commentText (s : String) : String := "<!--" ++ s ++ "-->"

/-- An end tag. -/
def endTag (name : String) : String := "</" ++ name ++ ">"

/-- Character data inside a line. -/
def inlineText : Node → String
  | .text s => contentText (trim s)
  | .cdata s => cdataText s
  | _ => ""

mutual

/-- The lines of a node at the given depth; `width` is the number of spaces per level. -/
def nodeLines (width depth : Nat) : Node → List String
  | .element name attributes children =>
    let pad := indentation width depth
    let start := pad ++ openTag name attributes
    if children.all Node.isBlank then [start ++ " />"]
    else if children.all Node.isCharacters then
      [start ++ ">" ++ String.join (children.map inlineText) ++ endTag name]
    else (start ++ ">") :: (childLines width (depth + 1) children ++ [pad ++ endTag name])
  | .text s => if isBlankText s then [] else [indentation width depth ++ contentText (trim s)]
  | .cdata s => [indentation width depth ++ cdataText s]
  | .comment s => [indentation width depth ++ commentText s]

/-- The lines of nodes at the given depth. -/
def childLines (width depth : Nat) : List Node → List String
  | [] => []
  | n :: ns => nodeLines width depth n ++ childLines width depth ns

end

/-- The text of an element, laid out with `width` spaces per level. -/
def Element.serialize (e : Element) (width : Nat) : String := unlines (nodeLines width 0 e.node)

end GatewayPolicy.Xml
