import GatewayPolicy.Record
/-!
# Free-form values

Some parts of a document are taken out whole before their meaning is looked at: the items of a
section, whose kind decides what they are, and the configurations in them. Such a part is a
free-form value. All of it was evaluated when it was taken out, also what no reader asks for, and
its scalars are what they look like, whoever asks.

`FreeForm` is what readers of such values ask of them beyond what they ask of any `Source`, and
`FreeSource` says what a notation takes out. For JSON this is a JSON value.
-/

namespace GatewayPolicy

/-- What readers of free-form values ask of them. -/
class FreeForm (κ : Type) extends Source κ where
  /-- The value as one that tells its kind, in exactly one field with the key or as the first item
  of a list: its kind, and the value without it. -/
  kind? (key : String) : κ → Option (String × κ)
  /-- The value as one of the named choices: its name, or an object with the name as its only key
  and nothing in it. -/
  choice? (names : List String) : κ → Option String
  /-- The value as named values, which may be repeated. -/
  named? : κ → Option (List (String × κ))
  /-- The value as a JSON value. -/
  json? : κ → Option Json

/-- A source from which free-form values can be taken out. -/
class FreeSource (σ : Type) (κ : outParam Type) extends Source σ where
  /-- The document as a free-form value. -/
  free? : σ → Option κ

namespace Json

/-- The kind of a value and the value without it. -/
def kind? (key : String) : Json → Option (String × Json)
  | .object fields =>
    match fields.filter (·.1 == key) with
    | [(_, .text kind)] => some (kind, .object (fields.filter (·.1 != key)))
    | _ => none
  | .array (.text kind :: values) => some (kind, .array values)
  | _ => none

/-- The name of a choice: a text, or the only key of an object with nothing in it. -/
def choice? : Json → Option String
  | .text s => some s
  | .object [(k, .null)] => some k
  | .object [(k, .object [])] => some k
  | _ => none

instance : FreeForm Json where
  kind? := kind?
  choice? _ := choice?
  named? := object?
  json? := some

instance : FreeSource Json Json where
  free? := some

instance : FreeSource Nested Json where
  free? := Nested.json?

end Json

end GatewayPolicy
