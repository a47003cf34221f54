import GatewayPolicy.Policy.Item
import GatewayPolicy.Policy.NamedValue
import GatewayPolicy.Policy.Scope
import GatewayPolicy.Scalar
/-!
# Policy models

A policy document as a value: the scope it applies at, up to four sections of items, and metadata.
A section that is absent differs from one that is empty. Items are stored in any order and emitted
by ascending `order`, items of equal order in stored order.
-/

namespace GatewayPolicy

/-- A section of a policy document. -/
structure Section where
  /-- Policies of the enclosing scope are included, unless this says no. -/
  includeBase : Option Bool := none
  /-- The items, as stored. -/
  items : List Item := []

namespace Section

/-- Policies of the enclosing scope are included. -/
def includesBase (s : Section) : Bool := s.includeBase != some false

/-- Says whether policies of the enclosing scope are included. -/
def withBase (s : Section) (value : Bool) : Section := { s with includeBase := some value }

/-- Stores an item behind the others. -/
def push (s : Section) (item : Item) : Section := { s with items := s.items ++ [item] }

/-- The items in the order in which they are emitted. -/
def sortedItems (s : Section) : List Item := s.items.mergeSort fun a b => a.order ≤ b.order

end Section

/-- The sections of a document. -/
structure Sections where
  /-- Applied to the request. -/
  inbound : Option Section := none
  /-- Applied around the call of the backend. -/
  backend : Option Section := none
  /-- Applied to the response. -/
  outbound : Option Section := none
  /-- Applied when another section fails. -/
  onError : Option Section := none

namespace Sections

/-- The section of a kind. -/
def get? (s : Sections) : SectionKind → Option Section
  | .inbound => s.inbound
  | .backend => s.backend
  | .outbound => s.outbound
  | .onError => s.onError

/-- Replaces or removes the section of a kind. -/
def set (s : Sections) (kind : SectionKind) (value : Option Section) : Sections :=
  match kind with
  | .inbound => { s with inbound := value }
  | .backend => { s with backend := value }
  | .outbound => { s with outbound := value }
  | .onError => { s with onError := value }

/-- Changes the section of a kind, if it is present. -/
def modify (s : Sections) (kind : SectionKind) (f : Section → Section) : Sections :=
  s.set kind ((s.get? kind).map f)

/-- Replaces the sections that the patch has. A merge never removes a section. -/
def merge (s patch : Sections) : Sections where
  inbound := patch.inbound.or s.inbound
  backend := patch.backend.or s.backend
  outbound := patch.outbound.or s.outbound
  onError := patch.onError.or s.onError

/-- The sections that are present, in document order. -/
def present (s : Sections) : List (SectionKind × Section) :=
  SectionKind.all.filterMap fun kind => (s.get? kind).map (kind, ·)

end Sections

/-- What is known about a document besides its policies. -/
structure Metadata where
  /-- A name for the document. -/
  name : Option String := none
  /-- What it is for. -/
  description : Option String := none
  /-- Its version. -/
  version : Option String := none
  /-- Words to find it by. -/
  tags : List String := []
  deriving DecidableEq, Repr

/-- A policy document. -/
structure Model where
  /-- The level at which it applies. -/
  scope : Scope
  /-- The API it applies to. -/
  apiId : Option String := none
  /-- The operation it applies to. -/
  operationId : Option String := none
  /-- Its sections. -/
  sections : Sections := {}
  /-- What else is known about it. -/
  metadata : Option Metadata := none

namespace Model

/-- Replaces a section. -/
def withSection (m : Model) (kind : SectionKind) (s : Section) : Model :=
  { m with sections := m.sections.set kind (some s) }

/-- The items of all present sections, in document order, as stored. -/
def items (m : Model) : List (SectionKind × Item) :=
  m.sections.present.flatMap fun (kind, s) => s.items.map (kind, ·)

/-- How many items the sections have. -/
def itemCount (m : Model) : Nat :=
  m.sections.present.foldl (fun n (_, s) => n + s.items.length) 0

/-- The catalog items of all present sections. -/
def catalogItems (m : Model) : List CatalogItem := m.items.filterMap fun (_, i) => i.catalog?

/-- The fragments that the model refers to. -/
def fragmentIds (m : Model) : NameSet := .ofNames (m.items.filterMap fun (_, i) => i.fragmentId?)

end Model

/-! ## Named values of a model -/

mutual

/-- The named values that a configuration value refers to: by a token that is a whole text, or by an
object that is a reference, at any depth. -/
def Json.namedValues : Json → List String
  | .text s => (NamedValue.name? s).toList
  | .array items => Json.namedValuesOfItems items
  | .object fields => (referenceName? fields).toList ++ Json.namedValuesOfFields fields
  | _ => []

/-- The named values that items refer to. -/
def Json.namedValuesOfItems : List Json → List String
  | [] => []
  | v :: vs => Json.namedValues v ++ Json.namedValuesOfItems vs

/-- The named values that the values of fields refer to. -/
def Json.namedValuesOfFields : List (String × Json) → List String
  | [] => []
  | (_, v) :: rest => Json.namedValues v ++ Json.namedValuesOfFields rest

end

/-- The named value that an attribute refers to. -/
def AttributeValue.namedValue? : AttributeValue → Option String
  | .literal _ => none
  | .namedValue r => some r.name

/-- The named values that a catalog item refers to. -/
def CatalogItem.namedValues (i : CatalogItem) : List String :=
  (i.attributes.entries.filterMap fun (_, v) => v.namedValue?) ++
    Json.namedValuesOfFields i.configuration

/-- The named values that the model refers to. -/
def Model.namedValues (m : Model) : NameSet :=
  .ofNames (m.catalogItems.flatMap CatalogItem.namedValues)

end GatewayPolicy
