import GatewayPolicy.Catalog.Builtin
import GatewayPolicy.Policy.Model
import GatewayPolicy.Policy.Reading
import GatewayPolicy.SendRequest
/-!
# Policy documents, written

Every model has a document. Sections are written in a fixed order, whether they are present or not,
and the items of a section by ascending order. A catalog policy with nested elements is written by
its template; all other policies, known or not, become one element with their configuration and
attributes as attributes.
-/

namespace GatewayPolicy

open Json Xml

/-- What the writer needs besides the model. -/
structure Writer where
  /-- The policies that are known. -/
  catalog : Catalog := Catalog.builtin
  /-- The settings. -/
  settings : Settings := {}

namespace Writer

/-! ## Items -/

/-- The configuration values that become attributes, with their texts. -/
def configurationAttributes (style : NamedValueStyle) (i : CatalogItem) : List (String × String) :=
  (i.configuration.filter fun (key, _) => key != textKey && !i.attributes.contains key).filterMap
    fun (key, v) => (attributeForm? style v).map (key, ·)

/-- An attribute value as it stands in the document. -/
def attributeValueText (style : NamedValueStyle) : AttributeValue → String
  | .literal s => attributeText s
  | .namedValue r => NamedValue.token style r.name

/-- The attributes of a policy element as they follow its name. -/
def rawAttributes (attributes : List (String × String)) : String :=
  String.join (attributes.map fun (key, value) => " " ++ key ++ "=\"" ++ value ++ "\"")

/-- The last value under the text key as text. -/
def elementText? (style : NamedValueStyle) (i : CatalogItem) : Option String :=
  (((i.configuration.get? textKey).bind (scalarText? style))).filter (!·.isEmpty)

/-- A policy as one element. -/
def renderGeneric (w : Writer) (i : CatalogItem) : String :=
  let style := w.settings.namedValueStyle
  let start := "<" ++ i.policyId ++ rawAttributes (configurationAttributes style i ++
    i.attributes.entries.map fun (key, v) => (key, attributeValueText style v))
  match elementText? style i with
  | some t => start ++ ">" ++ contentText t ++ endTag i.policyId
  | none => start ++ " />"

/-- The configuration that a template is given: the text of the element stands in for the parameter
that is carried as text. None if there is a text and no such parameter is free. -/
def templateConfiguration? (e : Entry) (c : Fields) : Option Fields :=
  match c.get? textKey with
  | none => some c
  | some v =>
    match e.textParameter with
    | none => none
    | some key => if c.contains key then none else some ((c.erase textKey).set key v)

/-- A catalog policy. A template is used only if the policy has no attributes, because templates do
not know them. -/
def renderCatalog (w : Writer) (i : CatalogItem) : String :=
  if i.policyId = SendRequest.policyId then
    ((SendRequest.ofConfiguration i.configuration).toElement w.settings).serialize
      w.settings.indentWidth
  else
    match w.catalog.get? i.policyId with
    | none => renderGeneric w i
    | some e =>
      match e.template with
      | none => renderGeneric w i
      | some t =>
        if i.attributes.isEmpty then
          match templateConfiguration? e i.configuration with
          | some c => t.render w.settings c
          | none => renderGeneric w i
        else renderGeneric w i

/-- An expression with its mark; one without is put in brackets. -/
def markedExpression (s : String) : String :=
  let t := Text.trim s
  if isExpression t then t else "@(" ++ t ++ ")"

/-- An expression in its place. Without a complete target it stands on its own. -/
def renderExpression (i : ExpressionItem) : String :=
  let expression := markedExpression i.expression
  match i.context, i.targetElement, i.targetAttribute with
  | some .inAttribute, some element, some attr =>
    "<" ++ element ++ " " ++ attr ++ "=\"" ++ expression ++ "\" />"
  | some .inElement, some element, _ => "<" ++ element ++ ">" ++ expression ++ endTag element
  | _, _, _ => expression

/-- A reference to a fragment. -/
def renderFragment (i : FragmentItem) : String :=
  "<include-fragment fragment-id=\"" ++ escape i.fragmentId ++ "\" />"

/-- An item, without indentation. -/
def renderItem (w : Writer) : Item → String
  | .catalog i => renderCatalog w i
  | .fragment i => renderFragment i
  | .customXml i => Text.unlines (Text.reindent i.xml)
  | .expression i => renderExpression i

/-! ## Documents -/

/-- The lines inside a section, without indentation. -/
def bodyLines (w : Writer) (s : Section) : List String :=
  (if s.includesBase then ["<base />"] else []) ++
    s.sortedItems.flatMap fun i => Text.lines (w.renderItem i)

/-- A line at a depth; an empty line stays empty. -/
def padLine (w : Writer) (depth : Nat) (line : String) : String :=
  if line.isEmpty then line else w.settings.indent depth ++ line

/-- The lines of a section with the given lines inside. -/
def sectionWith (w : Writer) (kind : SectionKind) (body : List String) : List String :=
  let pad := w.settings.indent 1
  if body.isEmpty then [pad ++ "<" ++ kind.elementName ++ " />"]
  else (pad ++ "<" ++ kind.elementName ++ ">") ::
    (body.map (w.padLine 2) ++ [pad ++ endTag kind.elementName])

/-- The lines of a section. An absent backend section forwards the request, which is what a gateway
needs there; other absent sections are empty. -/
def sectionLines (w : Writer) (kind : SectionKind) : Option Section → List String
  | some s => w.sectionWith kind (w.bodyLines s)
  | none => w.sectionWith kind (if kind = .backend then ["<forward-request />"] else [])

/-- The lines of a document. -/
def documentLines (w : Writer) (m : Model) : List String :=
  ["<" ++ rootName ++ ">"] ++
    SectionKind.all.flatMap (fun kind => w.sectionLines kind (m.sections.get? kind)) ++
    [endTag rootName]

/-- The document of a model. -/
def write (w : Writer) (m : Model) : String := Text.unlines (w.documentLines m)

end Writer

/-- The document of a model, with the built-in catalog. -/
def Model.toXml (m : Model) (settings : Settings := {}) : String := ({ settings } : Writer).write m

end GatewayPolicy
