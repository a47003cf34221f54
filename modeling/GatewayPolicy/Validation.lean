import GatewayPolicy.Policy.Path
import GatewayPolicy.Policy.Writing
/-!
# Validation of models

A model that can be read may still be wrong: a policy may be unknown or misplaced, a parameter may
be missing. Such findings are data. Errors make a model invalid; warnings do not.

A finding is about one item, about the scope of the model, or about all items together: identifiers
and variables that are used more than once. Findings are listed in document order, those about
variables last and in the order of the names.
-/

namespace GatewayPolicy

open Json

/-- What is wrong. -/
inductive IssueCode where
  /-- A policy is not in the catalog. -/
  | unknownPolicy
  /-- A policy stands in a section that it does not support. -/
  | invalidSection
  /-- A parameter that has to be given is not. -/
  | missingRequiredParameter
  /-- A reference to a named value has a blank name. -/
  | emptyNamedValue
  /-- A reference to a fragment has a blank name. -/
  | emptyFragmentId
  /-- A variable is assigned more than once. -/
  | duplicateVariableName
  /-- An identifier is used more than once. -/
  | duplicateItemId
  /-- The scope needs an API and has none. -/
  | scopeMissingApiId
  /-- The scope needs an operation and has none. -/
  | scopeMissingOperationId
  /-- The scope has an operation and needs none. -/
  | scopeUnexpectedOperationId
  /-- A policy does not work at the scope. -/
  | unsupportedScope
  /-- A value is of another type than its parameter. -/
  | parameterTypeMismatch
  /-- A value is none of the words that its parameter takes. -/
  | parameterInvalidEnum
  /-- A raw XML item is blank. -/
  | emptyCustomXml
  /-- An expression is to be placed and has no place. -/
  | expressionTargetMissing
  deriving DecidableEq, Repr

namespace IssueCode

/-- The codes. -/
def all : List IssueCode :=
  [unknownPolicy, invalidSection, missingRequiredParameter, emptyNamedValue, emptyFragmentId,
    duplicateVariableName, duplicateItemId, scopeMissingApiId, scopeMissingOperationId,
    scopeUnexpectedOperationId, unsupportedScope, parameterTypeMismatch, parameterInvalidEnum,
    emptyCustomXml, expressionTargetMissing]

/-- The name of a code. -/
def name : IssueCode → String
  | unknownPolicy => "UNKNOWN_POLICY"
  | invalidSection => "INVALID_SECTION"
  | missingRequiredParameter => "MISSING_REQUIRED_PARAMETER"
  | emptyNamedValue => "EMPTY_NAMED_VALUE"
  | emptyFragmentId => "EMPTY_FRAGMENT_ID"
  | duplicateVariableName => "DUPLICATE_VARIABLE_NAME"
  | duplicateItemId => "DUPLICATE_ITEM_ID"
  | scopeMissingApiId => "SCOPE_MISSING_API_ID"
  | scopeMissingOperationId => "SCOPE_MISSING_OPERATION_ID"
  | scopeUnexpectedOperationId => "SCOPE_UNEXPECTED_OPERATION_ID"
  | unsupportedScope => "UNSUPPORTED_SCOPE"
  | parameterTypeMismatch => "PARAMETER_TYPE_MISMATCH"
  | parameterInvalidEnum => "PARAMETER_INVALID_ENUM"
  | emptyCustomXml => "EMPTY_CUSTOM_XML"
  | expressionTargetMissing => "EXPRESSION_TARGET_MISSING"

/-- The code with the name. -/
def ofName? (s : String) : Option IssueCode := all.find? (·.name == s)

end IssueCode

/-- A finding. -/
structure Issue where
  /-- The text of the place that it is about. -/
  path : String
  /-- What is wrong, in words. -/
  message : String
  /-- What is wrong. -/
  code : IssueCode
  deriving DecidableEq, Repr

/-- The findings about a model. -/
structure ValidationResult where
  /-- There are no errors. -/
  valid : Bool
  /-- The findings that make the model invalid. -/
  errors : List Issue
  /-- The other findings. -/
  warnings : List Issue
  deriving DecidableEq, Repr

namespace ValidationResult

/-- The result with the given findings. -/
def ofIssues (errors warnings : List Issue) : ValidationResult :=
  ⟨errors.isEmpty, errors, warnings⟩

/-- All findings, errors first. -/
def issues (r : ValidationResult) : List Issue := r.errors ++ r.warnings

/-- How many findings have the code. -/
def count (r : ValidationResult) (code : IssueCode) : Nat :=
  (r.issues.filter (·.code == code)).length

end ValidationResult

namespace Validation

/-- A finding at a place. -/
def issue (path : Path) (code : IssueCode) (message : String) : Issue := ⟨path.text, message, code⟩

/-- A list with one member if the condition holds, and none otherwise. -/
def when (condition : Bool) (i : Issue) : List Issue := if condition then [i] else []

/-! ## References to named values -/

/-- The name in a reference is blank or missing. -/
def isBlankReference (fields : Fields) : Bool :=
  match (fields.get? "name").bind Json.text? with
  | some name => Text.isBlankText name
  | none => true

/-- The value of an attribute is a reference with a blank name. -/
def isBlankAttribute : AttributeValue → Bool
  | .literal _ => false
  | .namedValue r => Text.isBlankText r.name

/-- The value of a header is a reference with a blank name. -/
def isBlankHeader (h : SendRequestHeader) : Bool := (h.value.object?).any isBlankReference

/-- Blank references among the attributes. -/
def attributeErrors (path : Path) (i : CatalogItem) : List Issue :=
  i.attributes.entries.flatMap fun (key, v) =>
    when (isBlankAttribute v)
      (issue (path ++ [.field "attributes", .field key]) .emptyNamedValue
        "named value reference has an empty name")

/-- Blank references among the headers of the policy `send-request`. -/
def headerErrors (path : Path) (i : CatalogItem) : List Issue :=
  if i.policyId = SendRequest.policyId then
    ((SendRequest.ofConfiguration i.configuration).headers.mapIdx fun n h =>
      when (isBlankHeader h)
        (issue (path ++ [.field "configuration", .field "headers", .index n, .field "value"])
          .emptyNamedValue
          ("header '" ++ h.name ++ "' references a named value with an empty name"))).flatten
  else []

/-! ## Policies of the catalog -/

/-- The value under the key is there and not `null`. -/
def isGiven (c : Fields) (key : String) : Bool := (c.get? key).any (!·.isNull)

/-- The parameter is given: in the configuration, as the text of the element, or as an attribute. -/
def hasParameter (e : Entry) (i : CatalogItem) (name : String) : Bool :=
  isGiven i.configuration name ||
    (e.textParameter == some name && isGiven i.configuration textKey) ||
    i.attributes.contains name

/-- The place of a parameter. -/
def parameterPath (path : Path) (name : String) : Path :=
  path ++ [.field "configuration", .field name]

/-- Parameters that have to be given and are not. -/
def missingParameters (e : Entry) (i : CatalogItem) : List Parameter :=
  e.requiredParameters.filter fun p => !hasParameter e i p.name

/-- Errors of an item whose policy is known. -/
def entryErrors (e : Entry) (kind : SectionKind) (path : Path) (i : CatalogItem) : List Issue :=
  when (!e.supportsSection kind)
    (issue path .invalidSection ("policy '" ++ i.policyId ++ "' is not allowed in the " ++
      kind.elementName ++ " section")) ++
  (missingParameters e i).map fun p =>
    issue (parameterPath path p.name) .missingRequiredParameter
      ("policy '" ++ i.policyId ++ "' requires parameter '" ++ p.name ++ "'")

/-- The finding about a value that does not fit its parameter. -/
def mismatchIssue (path : Path) (key : String) : Mismatch → Issue
  | .wrongType expected =>
    issue (parameterPath path key) .parameterTypeMismatch
      ("parameter '" ++ key ++ "' should be a " ++ expected)
  | .notAllowed allowed =>
    issue (parameterPath path key) .parameterInvalidEnum
      ("parameter '" ++ key ++ "' must be one of: " ++ String.intercalate ", " allowed)

/-- Why a configuration value does not fit its parameter. The text of an element, a missing value
and a key that is no parameter always fit. -/
def valueMismatch? (e : Entry) (key : String) (v : Json) : Option Mismatch :=
  if key = textKey || v.isNull then none
  else (e.parameter? key).bind fun p => p.kind.mismatch? v

/-- Warnings about an item whose policy is known. -/
def entryWarnings (e : Entry) (scope : Scope) (path : Path) (i : CatalogItem) : List Issue :=
  when (!e.supportsScope scope)
    (issue path .unsupportedScope ("policy '" ++ i.policyId ++ "' is not supported at " ++
      scope.name ++ " scope")) ++
  i.configuration.filterMap fun (key, v) => (valueMismatch? e key v).map (mismatchIssue path key)

/-! ## Items -/

/-- Errors of an item. -/
def itemErrors (catalog : Catalog) (p : PlacedItem) : List Issue :=
  match p.item with
  | .catalog i =>
    attributeErrors p.path i ++ headerErrors p.path i ++
      match catalog.get? i.policyId with
      | some e => entryErrors e p.kind p.path i
      | none =>
        [issue (p.path ++ [.field "policyId"]) .unknownPolicy
          ("unknown policy '" ++ i.policyId ++ "'")]
  | .fragment i =>
    when (Text.isBlankText i.fragmentId)
      (issue (p.path ++ [.field "fragmentId"]) .emptyFragmentId
        "fragment item has an empty fragment id")
  | _ => []

/-- An expression is to be placed and has no place. -/
def lacksTarget (i : ExpressionItem) : Bool :=
  match i.context with
  | some .inAttribute => i.targetElement.isNone || i.targetAttribute.isNone
  | some .inElement => i.targetElement.isNone
  | _ => false

/-- Warnings about an item. -/
def itemWarnings (catalog : Catalog) (scope : Scope) (p : PlacedItem) : List Issue :=
  match p.item with
  | .catalog i =>
    match catalog.get? i.policyId with
    | some e => entryWarnings e scope p.path i
    | none => []
  | .fragment _ => []
  | .customXml i =>
    when (Text.isBlankText i.xml)
      (issue (p.path ++ [.field "xml"]) .emptyCustomXml "custom XML item is empty")
  | .expression i =>
    when (lacksTarget i)
      (issue p.path .expressionTargetMissing
        "expression has no target and will be emitted as a bare expression")

/-! ## The scope -/

/-- An identifier that is there and visible. -/
def isVisible (id : Option String) : Bool := id.any (!Text.isBlankText ·)

/-- Warnings about the scope. -/
def scopeWarnings (m : Model) : List Issue :=
  when (m.scope.requiresApi && !isVisible m.apiId)
    (issue [.field "apiId"] .scopeMissingApiId (m.scope.name ++ " scope requires an apiId")) ++
  if m.scope.allowsOperation then
    when (!isVisible m.operationId)
      (issue [.field "operationId"] .scopeMissingOperationId
        "operation scope requires an operationId")
  else
    when m.operationId.isSome
      (issue [.field "operationId"] .scopeUnexpectedOperationId
        ("operationId is only meaningful at operation scope, not " ++ m.scope.name))

/-! ## Identifiers and variables -/

/-- Warnings about identifiers, given those of the items before: one for the second item of each
identifier. -/
def duplicateIdWarnings (before : List String) : List PlacedItem → List Issue
  | [] => []
  | p :: rest =>
    when (before.count p.item.id == 1)
      (issue (p.path ++ [.field "id"]) .duplicateItemId
        ("item id '" ++ p.item.id ++ "' is used more than once")) ++
      duplicateIdWarnings (p.item.id :: before) rest

/-- The parameter that names the variable a policy assigns. -/
def variableParameter? (policyId : String) : Option String :=
  [("set-variable", "name"), ("cache-lookup-value", "variable-name")].lookup policyId

/-- The trimmed text, if any of it is visible. -/
def visible? (s : String) : Option String := if Text.isBlankText s then none else some (Text.trim s)

/-- The text of a literal attribute. -/
def literal? : AttributeValue → Option String
  | .literal s => some s
  | .namedValue _ => none

/-- The variable that an item assigns: its parameter in the configuration, or else as a literal
attribute. -/
def assignedVariable? (i : CatalogItem) : Option String :=
  (variableParameter? i.policyId).bind fun key =>
    (((i.configuration.get? key).bind SendRequest.plainText?).bind visible?).or
      (((i.attributes.get? key).bind literal?).bind visible?)

/-- Adds the place of an assignment to those of its variable. -/
def addAssignment (m : NameMap (List Path)) (p : PlacedItem) : NameMap (List Path) :=
  match p.item.catalog?.bind assignedVariable? with
  | some name => m.insert name ((m.get? name).getD [] ++ [p.path])
  | none => m

/-- The places where each variable is assigned, in document order. -/
def assignments (m : Model) : NameMap (List Path) := m.placedItems.foldl addAssignment .empty

/-- The warning about a variable, if it is assigned more than once. -/
def variableWarning? (name : String) : List Path → Option Issue
  | first :: second :: rest =>
    let paths := first :: second :: rest
    some (issue second .duplicateVariableName
      ("variable '" ++ name ++ "' is assigned " ++ toString paths.length ++ " times (" ++
        String.intercalate ", " (paths.map Path.text) ++ ")"))
  | _ => none

/-- Warnings about variables that are assigned more than once. -/
def variableWarnings (m : Model) : List Issue :=
  (assignments m).entries.filterMap fun (name, paths) => variableWarning? name paths

/-! ## Models -/

/-- All errors of a model. -/
def errors (catalog : Catalog) (m : Model) : List Issue :=
  m.placedItems.flatMap (itemErrors catalog)

/-- All warnings about a model. -/
def warnings (catalog : Catalog) (m : Model) : List Issue :=
  scopeWarnings m ++ m.placedItems.flatMap (itemWarnings catalog m.scope) ++
    duplicateIdWarnings [] m.placedItems ++ variableWarnings m

end Validation

/-- The findings about a model. -/
def Model.validate (m : Model) (catalog : Catalog := Catalog.builtin) : ValidationResult :=
  .ofIssues (Validation.errors catalog m) (Validation.warnings catalog m)

/-! ## Findings as JSON -/

/-- The finding as a JSON value. -/
def Issue.toJson (i : Issue) : Json :=
  .object [("path", .text i.path), ("message", .text i.message), ("code", .text i.code.name)]

/-- Reads a finding. -/
def Issue.read? {σ : Type} [Source σ] (v : σ) : Option Issue := do
  let fields ← Source.fields? false ["path", "message", "code"] v
  let path ← Source.required fields "path" Source.text?
  let message ← Source.required fields "message" Source.text?
  let code ← Source.required fields "code" fun c => (Source.name? c).bind IssueCode.ofName?
  return { path, message, code }

/-- The result as a JSON value. -/
def ValidationResult.toJson (r : ValidationResult) : Json :=
  .object [("valid", .bool r.valid), ("errors", .array (r.errors.map Issue.toJson)),
    ("warnings", .array (r.warnings.map Issue.toJson))]

/-- Reads a result. -/
def ValidationResult.read? {σ : Type} [Source σ] (v : σ) : Option ValidationResult := do
  let fields ← Source.fields? false ["valid", "errors", "warnings"] v
  let valid ← Source.required fields "valid" Source.bool?
  let errors ← Source.required fields "errors" (Source.listOf? Issue.read?)
  let warnings ← Source.required fields "warnings" (Source.listOf? Issue.read?)
  return { valid, errors, warnings }

end GatewayPolicy
