import GatewayPolicy.Settings
import GatewayPolicy.Scalar
import GatewayPolicy.Xml.Layout
/-!
# Templates

Some policies have nested elements in place of flat attributes. A template writes such a policy from
its configuration; the lines start without indentation, and the document around them adds it.
-/

namespace GatewayPolicy

open Json Xml

/-- The policies that are written by a template. They are a closed world: an entry of a catalog has
one of these templates or none, and does not bring a way of writing of its own. -/
inductive Template where
  /-- A header with a list of allowed values. -/
  | checkHeader
  /-- A body as the text of the element. -/
  | setBody
  /-- A method as the text of the element. -/
  | setMethod
  /-- A message in a child element. -/
  | trace
  /-- A message as the text of the element. -/
  | logToEventhub
  /-- Branches of raw policies. -/
  | choose
  deriving DecidableEq, Repr

namespace Template

/-- The text of a parameter, if it has one that is not empty. -/
def text? (style : NamedValueStyle) (c : Fields) (key : String) : Option String :=
  ((c.get? key).bind (scalarText? style)).filter (!·.isEmpty)

/-- The parts of a text between commas. -/
def splitCommas (cs : List Char) : List (List Char) := cs.splitOn ','

/-- The texts of a parameter that is a list, or a text with commas. -/
def texts (style : NamedValueStyle) (c : Fields) (key : String) : List String :=
  match c.get? key with
  | some (.array items) => (scalarTexts style items).filter (!·.isEmpty)
  | some (.text s) =>
    ((splitCommas s.toList).map fun part => String.ofList (Text.trimChars part)).filter (!·.isEmpty)
  | some v => (scalarText? style v).toList
  | none => []

/-- The objects of a parameter that is an object or a list of them. -/
def objects (c : Fields) (key : String) : List Fields :=
  match c.get? key with
  | some (.array items) => items.filterMap Json.object?
  | some (.object fields) => [fields]
  | _ => []

/-- The parameters that are attributes. -/
def attributes (style : NamedValueStyle) (c : Fields) (keys : List String) : Attributes :=
  keys.filterMap fun key => (text? style c key).map (key, ·)

/-- An element that holds a text. -/
def leaf (name content : String) : Node := .element name [] [.text content]

/-- Lines of raw policies inside a branch. -/
def indented (settings : Settings) (lines : List String) : List String :=
  lines.map fun l => settings.indent 1 ++ settings.indent 1 ++ l

/-- The lines of an element with lines of raw policies in it. -/
def branch (settings : Settings) (start name : String) (body : List String) : List String :=
  if body.isEmpty then [settings.indent 1 ++ start ++ " />"]
  else (settings.indent 1 ++ start ++ ">") ::
    (indented settings body ++ [settings.indent 1 ++ endTag name])

/-- The raw policies of a parameter. -/
def rawLines (c : Fields) (key : String) : Option (List String) :=
  ((c.get? key).bind Json.text?).map Text.reindent

/-- The lines of a branch with a condition. -/
def whenLines (settings : Settings) (fields : Fields) : List String :=
  let condition := (text? settings.namedValueStyle fields "condition").getD ""
  branch settings ("<when condition=\"" ++ attributeText condition ++ "\"") "when"
    ((rawLines fields "policies").getD [])

/-- The lines of the branch without condition. -/
def otherwiseLines (settings : Settings) (c : Fields) : List String :=
  match rawLines c "otherwise" with
  | some body => branch settings "<otherwise" "otherwise" body
  | none => []

/-- The lines of the branches. -/
def chooseLines (settings : Settings) (c : Fields) : List String :=
  ["<choose>"] ++ (objects c "when").flatMap (whenLines settings) ++ otherwiseLines settings c ++
    [endTag "choose"]

/-- The element of a policy that has no raw policies in it. -/
def element (style : NamedValueStyle) (c : Fields) : Template → Element
  | checkHeader =>
    { name := "check-header"
      attributes := attributes style c
        ["name", "failed-check-httpcode", "failed-check-error-message", "ignore-case"]
      children := (texts style c "values").map (leaf "value") }
  | setBody =>
    { name := "set-body"
      attributes := attributes style c ["template", "xsi-nil"]
      children := (((text? style c "value").or (text? style c "body")).map Node.text).toList }
  | setMethod =>
    { name := "set-method"
      children := ((text? style c "method").map Node.text).toList }
  | trace =>
    { name := "trace"
      attributes := attributes style c ["source", "severity"]
      children := ((text? style c "message").map (leaf "message")).toList }
  | logToEventhub =>
    { name := "log-to-eventhub"
      attributes := attributes style c ["logger-id", "partition-id", "partition-key"]
      children := ((text? style c "message").map Node.text).toList }
  | choose => { name := "choose" }

/-- The text of a policy with the given configuration. -/
def render (t : Template) (settings : Settings) (c : Fields) : String :=
  match t with
  | choose => Text.unlines (chooseLines settings c)
  | _ => (t.element settings.namedValueStyle c).serialize settings.indentWidth

end Template

end GatewayPolicy
