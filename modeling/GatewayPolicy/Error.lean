import GatewayPolicy.Json.Basic
/-!
# Errors

Only what stops an operation is an error. What is structurally or semantically wrong with a policy
model is a finding of its validation and never shows up here.
-/

namespace GatewayPolicy

/-- Why an operation stopped. -/
inductive Error where
  /-- A document is not well-formed or is no policy document; `position` counts bytes. -/
  | parse (message : String) (position : Nat)
  /-- Input was rejected before any work was done. -/
  | validation (message : String)
  /-- A store or gateway outside of this library failed. -/
  | adapter (source message : String)
  /-- A compiler cannot serve requests here. -/
  | unavailable (name message : String)
  /-- Settings are unreadable or invalid. -/
  | config (message : String)
  /-- A file could not be read. -/
  | io (message : String)
  /-- A text is not in the notation it should be in. -/
  | encoding (message : String)
  /-- Anything else. -/
  | internal (message : String)
  deriving DecidableEq, Repr

namespace Error

/-- The message that is shown for an error. -/
def message : Error → String
  | parse message position => "parse error at byte " ++ toString position ++ ": " ++ message
  | validation message => "validation error: " ++ message
  | adapter source message => "adapter '" ++ source ++ "' failed: " ++ message
  | unavailable name message => "compiler '" ++ name ++ "' unavailable: " ++ message
  | config message => "config error: " ++ message
  | io message => "io error: " ++ message
  | encoding message => "serialization error: " ++ message
  | internal message => "internal error: " ++ message

/-- The name of the kind of an error. -/
def kind : Error → String
  | parse .. => "Parse"
  | validation _ => "Validation"
  | adapter .. => "Adapter"
  | unavailable .. => "Unavailable"
  | config _ => "Config"
  | io _ => "Io"
  | encoding _ => "Serde"
  | internal _ => "Internal"

/-- The details of an error, under their field names. -/
def details : Error → Json
  | parse message position => .object [("message", .text message), ("position", .nat position)]
  | validation message => .object [("message", .text message)]
  | adapter source message => .object [("source_name", .text source), ("message", .text message)]
  | unavailable name message => .object [("name", .text name), ("message", .text message)]
  | config message => .object [("message", .text message)]
  | io message => .text message
  | encoding message => .text message
  | internal message => .text message

/-- An error as a JSON value: its details under the name of its kind. -/
def toJson (e : Error) : Json := .object [(e.kind, e.details)]

/-- The error is about a document that could not be read. -/
def isParse : Error → Bool
  | parse .. => true
  | _ => false

end Error

end GatewayPolicy
