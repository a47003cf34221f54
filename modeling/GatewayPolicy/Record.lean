import GatewayPolicy.Json.Reader
/-!
# Reading typed values

Models, settings and other typed values are read from documents of more than one notation. A
`Source` is what such a reader asks of a document: a text, a truth value, the items of a list, the
fields of a record. The readers of the typed values are written once, against this interface.

A record may be written with named fields or as the list of its field values in order. Named fields
may not be repeated. Fields that the record does not declare are ignored, unless it is closed.
-/

namespace GatewayPolicy

/-- What readers of typed values ask of a document. -/
class Source (σ : Type) where
  /-- The document says that there is no value. -/
  isNull : σ → Bool
  /-- The document as a text. -/
  text? : σ → Option String
  /-- The document as a truth value. -/
  bool? : σ → Option Bool
  /-- The document as an integer. -/
  int? : σ → Option Int
  /-- The document as the name of an enumerated value. -/
  name? : σ → Option String
  /-- The document as a list. -/
  items? : σ → Option (List σ)
  /-- The document as a record with the declared field names; a closed record refuses other names,
  and as a list it has to give every field. -/
  fields? (closed : Bool) (names : List String) : σ → Option (List (String × σ))

namespace Source

/-- The declared fields among the given ones, if none of them is repeated. -/
def declaredFields? {σ : Type} (closed : Bool) (names : List String) (fields : List (String × σ)) :
    Option (List (String × σ)) :=
  let declared := fields.filter fun f => names.contains f.1
  if closed && declared.length != fields.length then none
  else if (declared.map Prod.fst).Nodup then some declared
  else none

/-- The values of the declared fields in order; trailing ones may be missing in an open record. -/
def positionalFields? {σ : Type} (closed : Bool) (names : List String) (items : List σ) :
    Option (List (String × σ)) :=
  if names.length < items.length || (closed && items.length != names.length) then none
  else some (names.zip items)

variable {σ α : Type} [Source σ]

/-- A field that has to be there. -/
def required (fields : List (String × σ)) (name : String) (read : σ → Option α) : Option α :=
  (fields.lookup name).bind read

/-- A field that may be missing or say that there is no value. -/
def optional (fields : List (String × σ)) (name : String) (read : σ → Option α) :
    Option (Option α) :=
  match fields.lookup name with
  | none => some none
  | some v => if isNull v then some none else (read v).map some

/-- A field that has a value of its own when it is missing. -/
def withDefault (fields : List (String × σ)) (name : String) (default : α)
    (read : σ → Option α) : Option α :=
  match fields.lookup name with
  | none => some default
  | some v => read v

/-- A field that tells a missing value from one that is said to be absent. -/
def threeWay (fields : List (String × σ)) (name : String) (read : σ → Option α) :
    Option (Option (Option α)) :=
  match fields.lookup name with
  | none => some none
  | some v => if isNull v then some (some none) else (read v).map (some ∘ some)

/-- A list whose items are all readable. -/
def listOf? (read : σ → Option α) (v : σ) : Option (List α) := (items? v).bind (·.mapM read)

/-- A natural number of 64 bits. -/
def nat64? (v : σ) : Option Nat := ((int? v).filter Text.fitsUnsigned64).map Int.toNat

/-- An integer of 64 bits with sign. -/
def int64? (v : σ) : Option Int := (int? v).filter Text.fitsSigned64

end Source

namespace Json

/-- An integer. -/
def int? : Json → Option Int
  | .number (.int n) => some n
  | _ => none

/-- A truth value. -/
def bool? : Json → Option Bool
  | .bool b => some b
  | _ => none

/-- An enumerated value: its name, or an object with the name as its only key and no value. -/
def name? : Json → Option String
  | .text s => some s
  | .object [(k, .null)] => some k
  | _ => none

/-- The items of an array. -/
def items? : Json → Option (List Json)
  | .array items => some items
  | _ => none

/-- The fields of a record. -/
def fields? (closed : Bool) (names : List String) : Json → Option Fields
  | .object fields => Source.declaredFields? closed names fields
  | .array items => Source.positionalFields? closed names items
  | _ => none

instance : Source Json where
  isNull := isNull
  text? := text?
  bool? := bool?
  int? := int?
  name? := name?
  items? := items?
  fields? := fields?

/-- The fields of a record in a JSON text. -/
def Raw.fields? (closed : Bool) (names : List String) : Raw → Option (List (String × Raw))
  | .array items => Source.positionalFields? closed names items
  | v => v.object?.bind (Source.declaredFields? closed names)

/-- A part of a JSON text, with the number of arrays and objects that may still be opened in it.
Only what a reader enters or keeps counts and needs a value; ignored fields may be nested at will
and hold any literals. -/
structure Nested where
  /-- The part of the text. -/
  raw : Raw
  /-- How many levels it may have. -/
  room : Nat

/-- How many arrays and objects a JSON text may nest. -/
def maxDepth : Nat := 127

namespace Nested

/-- A part of the text, one level further in. -/
def inner (n : Nested) (v : Raw) : Nested := ⟨v, n.room - 1⟩

/-- The items, if there is room for the array. -/
def items? (n : Nested) : Option (List Nested) :=
  if n.room = 0 then none else n.raw.items?.map (·.map n.inner)

/-- The fields, if there is room for the record. -/
def fields? (closed : Bool) (names : List String) (n : Nested) : Option (List (String × Nested)) :=
  if n.room = 0 then none
  else (n.raw.fields? closed names).map (·.map fun (k, v) => (k, n.inner v))

/-- The whole value, if there is room for it. -/
def json? (n : Nested) : Option Json := n.raw.value?.filter fun v => v.depth ≤ n.room

/-- The enumerated value, if there is room for the object it may be. -/
def name? (n : Nested) : Option String := n.json?.bind Json.name?

instance : Source Nested where
  isNull n := n.raw.isNull
  text? n := n.raw.text?
  bool? n := n.raw.bool?
  int? n := n.raw.int?
  name? := name?
  items? := items?
  fields? := fields?

end Nested

/-- Reads a JSON text as a typed value. -/
def readAs? {α : Type} (read : Nested → Option α) (s : String) : Option α :=
  (readRaw? s).bind fun v => read ⟨v, maxDepth⟩

/-- Reads a JSON text as a free-form value, with repeated keys merged. -/
def readMerged? (s : String) : Option Json := (readAs? Nested.json? s).map merged

end Json

end GatewayPolicy
