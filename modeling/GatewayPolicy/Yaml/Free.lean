import GatewayPolicy.FreeForm
import GatewayPolicy.Yaml.Basic
/-!
# YAML values, free of form

A YAML value that is taken out whole. A plain scalar in it is a text only if it looks like nothing
else, unlike in the records around it. Two things have no counterpart in JSON: a number that is not
finite, which is no text and no absent value but becomes `null` in a configuration; and a key that
is a number, which stands for a declared field by its place.
-/

namespace GatewayPolicy

namespace Yaml

mutual

/-- Every scalar has a value, and there are no more levels than there is room for. -/
def evaluates (room : Nat) : Yaml → Bool
  | plain s => (Plain.value? s).isSome
  | quoted _ => true
  | sequence items => room != 0 && itemsEvaluate (room - 1) items
  | mapping entries => room != 0 && entriesEvaluate (room - 1) entries

/-- The same for each item. -/
def itemsEvaluate (room : Nat) : List Yaml → Bool
  | [] => true
  | v :: rest => evaluates room v && itemsEvaluate room rest

/-- The same for each key and each value. -/
def entriesEvaluate (room : Nat) : List (Yaml × Yaml) → Bool
  | [] => true
  | (k, v) :: rest => evaluates room k && evaluates room v && entriesEvaluate room rest

end

/-- The text of a scalar that looks like a text. -/
def strictText? : Yaml → Option String
  | plain s => (Plain.value? s).bind Json.text?
  | quoted s => some s
  | _ => none

mutual

/-- The value as a JSON value; every key has to be a text. -/
def json? : Yaml → Option Json
  | plain s => Plain.value? s
  | quoted s => some (.text s)
  | sequence items => (jsonItems? items).map .array
  | mapping entries => (jsonFields? entries).map .object

/-- The items as JSON values. -/
def jsonItems? : List Yaml → Option (List Json)
  | [] => some []
  | v :: rest => do return (← json? v) :: (← jsonItems? rest)

/-- The entries as fields of a JSON value. -/
def jsonFields? : List (Yaml × Yaml) → Option (List (String × Json))
  | [] => some []
  | (k, v) :: rest => do return (← strictText? k, ← json? v) :: (← jsonFields? rest)

end

/-- The place that a plain scalar stands for: a natural number of 64 bits. -/
def place? : Yaml → Option Nat
  | plain s => (Plain.nat? s).filter (· ≤ Text.maxUnsigned64)
  | _ => none

/-- The declared name that a key stands for: a text is a name, a number counts the names from zero
on. A number beyond the last name is the name of nothing. -/
def fieldName? (names : List String) (key : Yaml) : Option String :=
  key.strictText?.or (key.place?.map fun n => names[n]?.getD (toString n))

/-- The value has nothing in it. -/
def isBlank : Yaml → Bool
  | mapping entries => entries.isEmpty
  | v => v.isNull

/-- A value that was taken out whole. -/
structure Free where
  /-- The value. -/
  value : Yaml

namespace Free

/-- The value says that there is none. -/
def isNull (v : Free) : Bool := v.value.isNull

/-- The text of a scalar that looks like a text. -/
def text? (v : Free) : Option String := v.value.strictText?

/-- The truth value that a scalar stands for. -/
def bool? (v : Free) : Option Bool := v.value.bool?

/-- The integer that a scalar stands for. -/
def int? (v : Free) : Option Int := v.value.json?.bind Json.int?

/-- The items of a sequence. -/
def items? (v : Free) : Option (List Free) :=
  match v.value with
  | sequence items => some (items.map Free.mk)
  | _ => none

/-- The entries of a mapping, with the names that its keys stand for. -/
def entries? (name? : Yaml → Option String) (v : Free) : Option (List (String × Free)) :=
  match v.value with
  | mapping entries => entries.mapM fun (k, v) => (name? k).map (·, ⟨v⟩)
  | _ => none

/-- The fields of a record. -/
def fields? (closed : Bool) (names : List String) (v : Free) : Option (List (String × Free)) :=
  match v.items? with
  | some items => Source.positionalFields? closed names items
  | none => (v.entries? (fieldName? names)).bind (Source.declaredFields? closed names)

/-- The kind of a value and the value without it. -/
def kind? (key : String) (v : Free) : Option (String × Free) :=
  match v.value with
  | mapping entries =>
    match entries.filter fun e => e.1.strictText? == some key with
    | [(_, kind)] =>
      kind.strictText?.map (·, ⟨mapping (entries.filter fun e => e.1.strictText? != some key)⟩)
    | _ => none
  | sequence (kind :: items) => kind.strictText?.map (·, ⟨sequence items⟩)
  | _ => none

/-- The name of a choice: a text, or the only key of a mapping with nothing in it. -/
def choice? (names : List String) (v : Free) : Option String :=
  match v.value with
  | mapping [(k, content)] => if content.isBlank then fieldName? names k else none
  | _ => v.text?

instance : FreeForm Free where
  isNull := isNull
  text? := text?
  bool? := bool?
  int? := int?
  name? := text?
  items? := items?
  fields? := fields?
  kind? := kind?
  choice? := choice?
  named? := entries? strictText?
  json? v := v.value.json?

end Free

instance : FreeSource Nested Free where
  free? n := if n.value.evaluates n.room then some ⟨n.value⟩ else none

end Yaml

end GatewayPolicy
