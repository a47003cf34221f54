import GatewayPolicy.Policy.Model
import GatewayPolicy.Policy.Interchange
/-!
# Places in a model

A place in the JSON form of a model is a list of steps: a field of an object or an item of an array.
Its text has the fields separated by points and the items in square brackets.
-/

namespace GatewayPolicy

/-- A step to a part of a JSON value. -/
inductive PathStep where
  /-- To the value of a field. -/
  | field (key : String)
  /-- To an item of an array. -/
  | index (n : Nat)
  deriving DecidableEq, Repr

/-- A place in a JSON value. -/
abbrev Path := List PathStep

/-- A step as it follows other steps. -/
def PathStep.text : PathStep → String
  | field key => "." ++ key
  | index n => "[" ++ toString n ++ "]"

/-- A place as text. -/
def Path.text : Path → String
  | [] => ""
  | .field key :: rest => key ++ String.join (rest.map PathStep.text)
  | steps => String.join (steps.map PathStep.text)

/-- The part of a value that a step leads to. -/
def PathStep.follow? (v : Json) : PathStep → Option Json
  | field key => v.object?.bind (·.get? key)
  | index n => v.items?.bind (·[n]?)

/-- The part of a value at a place. -/
def Path.follow? (v : Json) (p : Path) : Option Json := p.foldlM PathStep.follow? v

/-- The place of an item. -/
def itemPath (kind : SectionKind) (n : Nat) : Path :=
  [.field "sections", .field kind.key, .field "items", .index n]

/-- An item of a model with its place. -/
structure PlacedItem where
  /-- The section that holds it. -/
  kind : SectionKind
  /-- Where it is stored in the section. -/
  position : Nat
  /-- The item. -/
  item : Item

namespace PlacedItem

/-- The place of the item. -/
def path (p : PlacedItem) : Path := itemPath p.kind p.position

end PlacedItem

/-- The items of all present sections with their places, in document order. -/
def Model.placedItems (m : Model) : List PlacedItem :=
  m.sections.present.flatMap fun (kind, s) => s.items.mapIdx fun n item => ⟨kind, n, item⟩

end GatewayPolicy
