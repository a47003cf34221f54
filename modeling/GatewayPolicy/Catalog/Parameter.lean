import GatewayPolicy.Scalar
/-!
# Parameters of policies

Each parameter of a catalog policy has a kind that its values should fit. Expressions and tokens for
named values fit every kind, because the gateway replaces them when a request comes in.
-/

namespace GatewayPolicy

open Json

/-- What a parameter takes. -/
inductive ParameterKind where
  /-- Any text. -/
  | string
  /-- A whole number. -/
  | integer
  /-- A number. -/
  | number
  /-- A truth value. -/
  | boolean
  /-- A number of whole seconds. -/
  | duration
  /-- An expression, or a text in its place. -/
  | expression
  /-- One of some words, in upper or lower case. -/
  | oneOf (allowed : List String)
  /-- A list, or a text with commas. -/
  | list
  /-- An object or a list of objects. -/
  | object
  deriving DecidableEq, Repr

/-- Why a value does not fit a parameter. -/
inductive Mismatch where
  /-- It is of another type. -/
  | wrongType (expected : String)
  /-- It is none of the words. -/
  | notAllowed (allowed : List String)
  deriving DecidableEq, Repr

namespace ParameterKind

/-- The name of a kind. -/
def name : ParameterKind → String
  | string => "string"
  | integer => "integer"
  | number => "number"
  | boolean => "boolean"
  | duration => "duration"
  | expression => "expression"
  | oneOf _ => "enum"
  | list => "list"
  | object => "object"

/-- The kinds without a list of words. -/
def plain : List ParameterKind :=
  [string, integer, number, boolean, duration, expression, list, object]

/-- The kind with the name, if it has no list of words. -/
def ofName? (s : String) : Option ParameterKind := plain.find? (·.name == s)

/-- The gateway replaces the value when a request comes in. -/
def isDeferred : Json → Bool
  | .text s => Xml.isExpression s || NamedValue.isToken s
  | _ => false

/-- The two texts differ in the case of ASCII letters at most. -/
def sameWord (a b : String) : Bool := a.toList.map Char.toLower == b.toList.map Char.toLower

/-- The value is of the type that the kind asks for. -/
def hasType : ParameterKind → Json → Bool
  | string, v | expression, v | oneOf _, v =>
    match v with
    | .text _ | .number _ | .bool _ => true
    | _ => false
  | integer, v | duration, v =>
    match v with
    | .number (.int _) => true
    | .text s => (Text.readSigned64? (Text.trim s)).isSome
    | _ => false
  | number, v =>
    match v with
    | .number _ => true
    | .text s => (RealText.read? (Text.trim s)).isSome
    | _ => false
  | boolean, v =>
    match v with
    | .bool _ => true
    | .text s => s == "true" || s == "false"
    | _ => false
  | list, v =>
    match v with
    | .array _ | .text _ => true
    | _ => false
  | object, v =>
    match v with
    | .object _ | .array _ => true
    | _ => false

/-- The text of a value that is a word, a number or a truth value. -/
def wordOf : Json → String
  | .text s => s
  | .number n => n.print
  | .bool b => boolWord b
  | _ => ""

/-- Why a value does not fit the kind; none if it does. -/
def mismatch? (kind : ParameterKind) (v : Json) : Option Mismatch :=
  if isDeferred v then none
  else if !kind.hasType v then some (.wrongType kind.name)
  else match kind with
    | oneOf allowed =>
      if allowed.any (sameWord · (wordOf v)) then none else some (.notAllowed allowed)
    | _ => none

end ParameterKind

/-- A parameter of a policy. -/
structure Parameter where
  /-- The name. -/
  name : String
  /-- What it takes. -/
  kind : ParameterKind
  /-- It has to be given. -/
  required : Bool
  /-- What it is for. -/
  description : String
  /-- The value it has when it is not given. -/
  default : Option String := none
  deriving DecidableEq, Repr

namespace Parameter

/-- The fields that describe a kind. -/
def kindFields (kind : ParameterKind) : Fields :=
  ("kind", .text kind.name) ::
    match kind with
    | .oneOf allowed => [("allowed", .texts allowed)]
    | _ => []

/-- The parameter as a JSON value. -/
def toJson (p : Parameter) : Json :=
  .object ([("name", .text p.name)] ++ kindFields p.kind ++
    [("required", .bool p.required), ("description", .text p.description)] ++
    field? "default" (p.default.map .text))

end Parameter

end GatewayPolicy
