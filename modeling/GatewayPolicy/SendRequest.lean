import GatewayPolicy.Scalar
import GatewayPolicy.Settings
import GatewayPolicy.Xml.Element
/-!
# The `send-request` policy

This policy has a body of nested elements. Its configuration is a flat object; the two are related
here by a record that both are read into and written from.

The address of the request has two forms. Without `setUrl`, the `url` is the base address of the
backend. With `setUrl`, the address goes into an element `set-url`: the `url` itself if `setUrl` is
`true`, and the text of `setUrl` otherwise, next to the base address.
-/

namespace GatewayPolicy

open Json Xml

/-- What `setUrl` says. -/
inductive SetUrl where
  /-- Whether `url` is the address of the request. -/
  | flag (value : Bool)
  /-- The address of the request. -/
  | target (value : String)
  deriving DecidableEq, Repr

/-- A header of the request. -/
structure SendRequestHeader where
  /-- The name. -/
  name : String
  /-- The value: a text, a reference to a named value, or nothing. -/
  value : Json
  /-- What to do when the header is already there. -/
  existsAction : Option String := none

/-- The configuration of a `send-request` policy. -/
structure SendRequest where
  /-- Whether to start from a new request or a copy. -/
  mode : Option String := none
  /-- The address. -/
  url : Option String := none
  /-- How the address is used. -/
  setUrl : Option SetUrl := none
  /-- The method. -/
  method : Option String := none
  /-- The headers. -/
  headers : List SendRequestHeader := []
  /-- The body. -/
  body : Option String := none
  /-- How long to wait. -/
  timeout : Option Json := none
  /-- Whether to go on when the request fails. -/
  ignoreErrors : Option Bool := none
  /-- The variable that receives the response. -/
  responseVariableName : Option String := none

namespace SendRequest

/-- The policy that the record is about. -/
def policyId : String := "send-request"

/-! ## Configurations -/

/-- The text of a value that is a text, a number or a truth value. -/
def plainText? : Json → Option String
  | .text s => some s
  | .number n => some n.print
  | .bool b => some (boolWord b)
  | _ => none

/-- A truth value, or the word for one. -/
def truthValue? : Json → Option Bool
  | .bool b => some b
  | .text s => if s = "true" then some true else if s = "false" then some false else none
  | _ => none

/-- What the value of `setUrl` says. -/
def setUrl? (v : Json) : Option SetUrl :=
  match truthValue? v with
  | some b => some (.flag b)
  | none => v.text?.map .target

/-- The header that an object describes, if it has a name. -/
def header? (fields : Fields) : Option SendRequestHeader :=
  ((fields.get? "name").bind plainText?).map fun name =>
    { name
      value := (fields.get? "value").getD .null
      existsAction := ((fields.get? "existsAction").or (fields.get? "exists-action")).bind
        plainText? }

/-- The headers that a value describes: a list of objects, or an object from names to values. -/
def headersOf : Json → List SendRequestHeader
  | .array items => items.filterMap fun v => v.object?.bind header?
  | .object fields => fields.map fun (name, value) => { name, value }
  | _ => []

/-- The record of a configuration. Parameters that are not known or have another type are left
out. -/
def ofConfiguration (c : Fields) : SendRequest where
  mode := (c.get? "mode").bind plainText?
  url := (c.get? "url").bind plainText?
  setUrl := (c.get? "setUrl").bind setUrl?
  method := (c.get? "method").bind plainText?
  headers := ((c.get? "headers").map headersOf).getD []
  body := (c.get? "body").bind plainText?
  timeout := (c.get? "timeout").filter (!·.isNull)
  ignoreErrors := (c.get? "ignoreErrors").bind truthValue?
  responseVariableName := (c.get? "responseVariableName").bind plainText?

/-- What `setUrl` says, as a JSON value. -/
def setUrlToJson : SetUrl → Json
  | .flag b => .bool b
  | .target s => .text s

/-- The header as a JSON value. -/
def headerToJson (h : SendRequestHeader) : Json :=
  .object ([("name", .text h.name), ("value", h.value)] ++
    field? "existsAction" (h.existsAction.map .text))

/-- The configuration of a record. -/
def toConfiguration (s : SendRequest) : Fields :=
  field? "mode" (s.mode.map .text) ++
    field? "url" (s.url.map .text) ++
    field? "setUrl" (s.setUrl.map setUrlToJson) ++
    field? "method" (s.method.map .text) ++
    field? "headers"
      (if s.headers.isEmpty then none else some (.array (s.headers.map headerToJson))) ++
    field? "body" (s.body.map .text) ++
    field? "timeout" s.timeout ++
    field? "ignoreErrors" (s.ignoreErrors.map .bool) ++
    field? "responseVariableName" (s.responseVariableName.map .text)

/-! ## Elements -/

/-- The text of the element `set-url`, and the base address of the backend. -/
def targets (s : SendRequest) : Option String × Option String :=
  match s.setUrl with
  | some (.flag true) => (s.url, none)
  | some (.target t) => (some t, s.url)
  | _ => (none, s.url)

/-- An element that holds a text. -/
def textElement (name text : String) : Node := .element name [] [.text text]

/-- An attribute that is left out when its value is absent. -/
def attribute? (name : String) (value : Option String) : Attributes :=
  (value.map (name, ·)).toList

/-- The element of a header. -/
def headerElement (style : NamedValueStyle) (h : SendRequestHeader) : Node :=
  .element "header"
    ([("name", h.name)] ++ attribute? "value" (scalarText? style h.value) ++
      attribute? "exists-action" h.existsAction) []

/-- The element of a record. -/
def toElement (s : SendRequest) (settings : Settings) : Element where
  name := policyId
  attributes :=
    [("mode", s.mode.getD "new")] ++
      attribute? "response-variable-name" s.responseVariableName ++
      attribute? "timeout" (s.timeout.bind (scalarText? settings.namedValueStyle)) ++
      attribute? "ignore-error" (s.ignoreErrors.map boolWord)
  children :=
    (s.targets.1.map (textElement "set-url")).toList ++
      (s.method.map (textElement "set-method")).toList ++
      (if s.headers.isEmpty then []
        else [.element "set-headers" [] (s.headers.map (headerElement settings.namedValueStyle))])
      ++ (s.body.map (textElement "set-body")).toList ++
      (s.targets.2.map fun base => .element "set-backend-service" [("base-url", base)] []).toList

/-- A text as the value of a header: a reference if it is a token. -/
def headerValue (s : String) : Json :=
  match NamedValue.name? s with
  | some name => .object [("name", .text name)]
  | none => .text s

/-- The value of a header that may have none. -/
def headerValue? : Option String → Json
  | some s => headerValue s
  | none => .null

/-- Takes an attribute of the element into the record; none if the record has no place for it. -/
def readAttribute? (settings : Settings) (s : SendRequest) (a : String × String) :
    Option SendRequest :=
  if a.1 = "mode" then some { s with mode := some a.2 }
  else if a.1 = "response-variable-name" then some { s with responseVariableName := some a.2 }
  else if a.1 = "timeout" then some { s with timeout := some (coerce settings.coerceScalars a.2) }
  else if a.1 = "ignore-error" then
    (truthValue? (.text a.2)).map fun b => { s with ignoreErrors := some b }
  else none

/-- The header of an element `header`. -/
def readHeader? (e : Element) : Option SendRequestHeader :=
  if e.name = "header" then
    (e.attribute? "name").map fun name =>
      { name
        value := headerValue? (e.attribute? "value")
        existsAction := e.attribute? "exists-action" }
  else none

/-- The header of an element `set-header`, whose values are child elements. -/
def readSetHeader? (e : Element) : Option SendRequestHeader :=
  let values := (e.childElements.filter (·.name == "value")).map fun v => Text.trim v.text
  (e.attribute? "name").map fun name =>
    { name
      value := if values.isEmpty then .null else headerValue (String.intercalate "," values)
      existsAction := e.attribute? "exists-action" }

/-- What has been read of the children of the element. -/
structure Parts where
  /-- The record so far. -/
  request : SendRequest
  /-- The text of the last element `set-url`. -/
  setUrl : Option String := none
  /-- The base address of the last element `set-backend-service`. -/
  baseUrl : Option String := none

/-- Takes a child element into the record; none if the record has no place for it. -/
def readChild? (p : Parts) (e : Element) : Option Parts :=
  if e.name = "set-url" then some { p with setUrl := some (e.trimmedText?.getD "") }
  else if e.name = "set-method" then
    some { p with request := { p.request with method := e.trimmedText? } }
  else if e.name = "set-body" then
    some { p with request := { p.request with body := e.trimmedText? } }
  else if e.name = "set-backend-service" then
    (e.attribute? "base-url").map fun base => { p with baseUrl := some base }
  else if e.name = "set-headers" then
    (e.childElements.mapM readHeader?).map fun hs =>
      { p with request := { p.request with headers := p.request.headers ++ hs } }
  else if e.name = "set-header" then
    (readSetHeader? e).map fun h =>
      { p with request := { p.request with headers := p.request.headers ++ [h] } }
  else none

/-- Takes a child node into the record: blank text is skipped, anything else has to be an element
that the record has a place for. -/
def readNode? (p : Parts) (n : Node) : Option Parts :=
  if n.isBlank then some p else n.element?.bind (readChild? p)

/-- The record with its address set. -/
def Parts.complete (p : Parts) : SendRequest :=
  match p.setUrl with
  | some target =>
    match p.baseUrl with
    | some base => { p.request with setUrl := some (.target target), url := some base }
    | none => { p.request with setUrl := some (.flag true), url := some target }
  | none => { p.request with url := p.baseUrl }

/-- The record of an element; none if the element has something that the record cannot hold. -/
def ofElement? (settings : Settings) (e : Element) : Option SendRequest := do
  let request ← e.attributes.foldlM (readAttribute? settings) {}
  let parts ← e.children.foldlM readNode? { request }
  return parts.complete

end SendRequest

end GatewayPolicy
