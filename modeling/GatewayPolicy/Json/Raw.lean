import GatewayPolicy.Json.Literal
/-!
# JSON text as a tree

What a JSON text says before its numbers and strings are evaluated. The tree has the shape of the
value, and its leaves are literals. A reader that keeps only some parts of a text works on the tree,
so that the parts it ignores need not have a value.
-/

namespace GatewayPolicy

/-- A JSON text whose literals are not evaluated yet. -/
inductive Json.Raw where
  /-- The word `null`. -/
  | null
  /-- The word `true` or `false`. -/
  | bool (value : Bool)
  /-- A number. -/
  | number (literal : Json.NumberLiteral)
  /-- A string. -/
  | text (literal : Json.StringLiteral)
  /-- A list of items. -/
  | array (items : List Json.Raw)
  /-- Items under keys, in order; a key may be repeated. -/
  | object (fields : List (Json.StringLiteral × Json.Raw))
  deriving Inhabited, Repr

namespace Json.Raw

mutual

/-- The value of the text; none if one of its literals has none. -/
def value? : Raw → Option Json
  | .null => some .null
  | .bool b => some (.bool b)
  | .number n => n.value?.map .number
  | .text s => (stringValue? s).map .text
  | .array items => (itemValues? items).map .array
  | .object fields => (fieldValues? fields).map .object

/-- The values of items. -/
def itemValues? : List Raw → Option (List Json)
  | [] => some []
  | v :: vs => do return (← value? v) :: (← itemValues? vs)

/-- The values of fields, with their keys. -/
def fieldValues? : List (StringLiteral × Raw) → Option (List (String × Json))
  | [] => some []
  | (k, v) :: rest => do return (← stringValue? k, ← value? v) :: (← fieldValues? rest)

end

/-- The text is the word `null`. -/
def isNull : Raw → Bool
  | .null => true
  | _ => false

/-- The value of a string. -/
def text? : Raw → Option String
  | .text s => stringValue? s
  | _ => none

/-- The truth value that a word stands for. -/
def bool? : Raw → Option Bool
  | .bool b => some b
  | _ => none

/-- The value of a number that is an integer. -/
def int? : Raw → Option Int
  | .number n =>
    match n.value? with
    | some (.int n) => some n
    | _ => none
  | _ => none

/-- The items of an array. -/
def items? : Raw → Option (List Raw)
  | .array items => some items
  | _ => none

/-- The items of an object under its keys, if all keys have a value. -/
def object? : Raw → Option (List (String × Raw))
  | .object fields => fields.mapM fun (k, v) => (stringValue? k).map (·, v)
  | _ => none

end Json.Raw

end GatewayPolicy
