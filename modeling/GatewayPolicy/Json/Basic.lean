import GatewayPolicy.Numeral.Binary64
/-!
# JSON values

Free-form parts of a policy document, such as the configuration of a catalog policy, are JSON
values. Objects keep their fields in the order they were written, because that is the order in
which attributes are emitted.

A text may repeat a key. The type can hold that, so that a reader of typed records can object to it;
`Json.merged` gives the value in which a repeated key keeps its first place and takes its last
value.
-/

namespace GatewayPolicy

/-- A JSON number: an integer of 64 bits, or a binary64 number. -/
inductive Json.Number where
  /-- An integer, written in digits alone. -/
  | int (value : Int)
  /-- Any other number. -/
  | float (value : Binary64)
  deriving DecidableEq, Repr

/-- A JSON value. -/
inductive Json where
  /-- The value `null`. -/
  | null
  /-- A truth value. -/
  | bool (value : Bool)
  /-- A number. -/
  | number (value : Json.Number)
  /-- A text. -/
  | text (value : String)
  /-- A list of values. -/
  | array (items : List Json)
  /-- Named values, in order. -/
  | object (fields : List (String × Json))
  deriving Inhabited, Repr

namespace Json

/-- The fields of an object, in order. -/
abbrev Fields := List (String × Json)

/-- The integer `n` as a JSON value. -/
def int (n : Int) : Json := .number (.int n)

/-- The natural number `n` as a JSON value. -/
def nat (n : Nat) : Json := .int n

namespace Fields

/-- The value of the first field with the key. -/
def get? (fs : Fields) (key : String) : Option Json := fs.lookup key

/-- Some field has the key. -/
def contains (fs : Fields) (key : String) : Bool := fs.any (·.1 == key)

/-- Gives the key a new value, in place if it is there and at the end if it is not. -/
def set (fs : Fields) (key : String) (value : Json) : Fields :=
  match fs with
  | [] => [(key, value)]
  | (k, v) :: rest => if k = key then (key, value) :: rest else (k, v) :: set rest key value

/-- Removes the fields with the key. -/
def erase (fs : Fields) (key : String) : Fields := fs.filter (·.1 != key)

/-- Fields with repeated keys merged: the first place, the last value. -/
def merge (fs : Fields) : Fields := fs.foldl (fun acc (k, v) => set acc k v) []

end Fields

mutual

/-- The value with repeated keys merged in every object. -/
def merged : Json → Json
  | .array items => .array (mergedItems items)
  | .object fields => .object (Fields.merge (mergedFields fields))
  | v => v

/-- `merged` for each item. -/
def mergedItems : List Json → List Json
  | [] => []
  | v :: vs => merged v :: mergedItems vs

/-- `merged` for the value of each field. -/
def mergedFields : List (String × Json) → List (String × Json)
  | [] => []
  | (k, v) :: rest => (k, merged v) :: mergedFields rest

end

mutual

/-- How many arrays and objects are nested in one another. -/
def depth : Json → Nat
  | .array items => depthItems items + 1
  | .object fields => depthFields fields + 1
  | _ => 0

/-- The greatest depth of an item. -/
def depthItems : List Json → Nat
  | [] => 0
  | v :: vs => max (depth v) (depthItems vs)

/-- The greatest depth of a field's value. -/
def depthFields : List (String × Json) → Nat
  | [] => 0
  | (_, v) :: rest => max (depth v) (depthFields rest)

end

/-- The value is `null`. -/
def isNull : Json → Bool
  | .null => true
  | _ => false

/-- The fields of an object. -/
def object? : Json → Option Fields
  | .object fields => some fields
  | _ => none

/-- The characters of a text value. -/
def text? : Json → Option String
  | .text s => some s
  | _ => none

/-- A list of texts as a JSON value. -/
def texts (ss : List String) : Json := .array (ss.map .text)

/-- A text that may be absent; an absent one is `null`. -/
def ofText? : Option String → Json
  | some s => .text s
  | none => .null

/-- A field that is left out when its value is absent. -/
def field? (key : String) (value : Option Json) : Fields :=
  match value with
  | some v => [(key, v)]
  | none => []

end Json

end GatewayPolicy
