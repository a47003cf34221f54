import GatewayPolicy.Record
import GatewayPolicy.Yaml.Scalar
/-!
# YAML values

The value of a YAML document: scalars, sequences and mappings. A scalar keeps its text and whether
it was quoted, because what a plain scalar stands for depends on who asks: a reader that wants a
text takes any scalar as one.
-/

namespace GatewayPolicy

/-- The value of a YAML document. -/
inductive Yaml where
  /-- A scalar without quotes. -/
  | plain (text : String)
  /-- A scalar in quotes, or in a block of its own. -/
  | quoted (text : String)
  /-- A list of values. -/
  | sequence (items : List Yaml)
  /-- Values under keys, in order. -/
  | mapping (entries : List (Yaml × Yaml))
  deriving Inhabited, Repr

namespace Yaml

/-- The text of a scalar. -/
def text? : Yaml → Option String
  | plain s => some s
  | quoted s => some s
  | _ => none

/-- The value is a plain scalar that says that there is none. -/
def isNull : Yaml → Bool
  | plain s => Plain.isNull s
  | _ => false

/-- The truth value that a plain scalar stands for. -/
def bool? : Yaml → Option Bool
  | plain s => Plain.bool? s
  | _ => none

/-- The integer that a plain scalar stands for; zero has no minus sign. -/
def int? : Yaml → Option Int
  | plain s => ((Plain.nat? s).map Int.ofNat).or
      (((Plain.negated? s).filter (· ≠ 0)).map fun n => -Int.ofNat n)
  | _ => none

/-- The items of a sequence; an empty scalar has none. -/
def items? : Yaml → Option (List Yaml)
  | sequence items => some items
  | plain "" => some []
  | _ => none

/-- The entries of a mapping whose keys are scalars; an empty scalar has none. -/
def entries? : Yaml → Option (List (String × Yaml))
  | mapping entries => entries.mapM fun (k, v) => k.text?.map (·, v)
  | plain "" => some []
  | _ => none

/-- The declared fields of a mapping, if none of them is repeated. -/
def fields? (closed : Bool) (names : List String) (v : Yaml) : Option (List (String × Yaml)) :=
  v.entries?.bind (Source.declaredFields? closed names)

/-- The greatest depth that documents may have. -/
def maxDepth : Nat := 128

/-- A value inside a document, with the number of levels that it may have. -/
structure Nested where
  /-- The value. -/
  value : Yaml
  /-- How many levels it may have. -/
  room : Nat

namespace Nested

/-- A part of the value, one level further in. -/
def inner (n : Nested) (v : Yaml) : Nested := ⟨v, n.room - 1⟩

instance : Source Nested where
  isNull n := n.value.isNull
  text? n := n.value.text?
  bool? n := n.value.bool?
  int? n := n.value.int?
  name? n := n.value.text?
  items? n := if n.room = 0 then none else n.value.items?.map (·.map n.inner)
  fields? closed names n :=
    if n.room = 0 then none
    else (n.value.fields? closed names).map (·.map fun (k, v) => (k, n.inner v))

end Nested

end Yaml

end GatewayPolicy
