import GatewayPolicy.Digest
import GatewayPolicy.Policy.Reading
import GatewayPolicy.Store
/-!
# Detection

The policy document of a target may be in a database, at the live gateway, at both or at neither.
Detection asks both. The copy of the gateway is the one to edit, because it is the one in force; the
copy of the database stands in where the gateway has none.

A source that fails counts as one that has nothing, and so does one with a blank document. A
document that cannot be read is still found, without a model.
-/

namespace GatewayPolicy

/-- Which sources have a document. -/
inductive DetectionSource where
  /-- The database alone. -/
  | database
  /-- The gateway alone. -/
  | gateway
  /-- The database and the gateway. -/
  | both
  /-- Neither of them. -/
  | none
  deriving DecidableEq, Repr

/-- The name of a source in JSON. -/
def DetectionSource.name : DetectionSource → String
  | database => "database"
  | gateway => "apim"
  | both => "both"
  | none => "none"

/-- The documents of two sources in one. -/
structure SourceMerge where
  /-- Who has a document. -/
  source : DetectionSource
  /-- The document to edit. -/
  xml : Option String
  /-- Both have a document, and they differ. -/
  conflict : Bool
  deriving DecidableEq, Repr

/-- Merges the documents of the database and the gateway. White space around a document makes no
difference between them. -/
def mergeSources (database gateway : Option String) : SourceMerge :=
  match database, gateway with
  | some d, some g => ⟨.both, some g, Text.trim d != Text.trim g⟩
  | some d, none => ⟨.database, some d, false⟩
  | none, some g => ⟨.gateway, some g, false⟩
  | none, none => ⟨.none, none, false⟩

/-- What detection found for a target. -/
structure Detection where
  /-- There is a document. -/
  found : Bool
  /-- Who has a document. -/
  source : DetectionSource
  /-- The document to edit. -/
  xml : Option String
  /-- Its model, if it can be read. -/
  policyModel : Option Model
  /-- The document of the database. -/
  databaseXml : Option String
  /-- The document of the gateway. -/
  gatewayXml : Option String
  /-- The model of the database's document. -/
  databaseModel : Option Model
  /-- The model of the gateway's document. -/
  gatewayModel : Option Model
  /-- Both have a document, and they differ. -/
  conflict : Bool
  /-- The digest of the document to edit. -/
  fingerprint : Option String

/-- The detection as a JSON value; what is absent is `null`. -/
def Detection.toJson (d : Detection) : Json :=
  let model (m : Option Model) : Json := (m.map Model.toJson).getD .null
  .object [("found", .bool d.found), ("source", .text d.source.name), ("xml", .ofText? d.xml),
    ("policyModel", model d.policyModel), ("databaseXml", .ofText? d.databaseXml),
    ("apimXml", .ofText? d.gatewayXml), ("databaseModel", model d.databaseModel),
    ("apimModel", model d.gatewayModel), ("conflict", .bool d.conflict),
    ("fingerprint", .ofText? d.fingerprint)]

/-- Where documents are looked up, and how they are read. -/
structure Detector where
  /-- The database, if there is one. -/
  database : Option Lookup := none
  /-- The gateway, if there is one. -/
  gateway : Option Lookup := none
  /-- The settings that documents are read with. -/
  settings : Settings := {}

namespace Detector

/-- The document of a source that has one which is not blank. -/
def fetch? (source : Option Lookup) (t : Target) : Option String :=
  match source with
  | none => none
  | some lookup =>
    match lookup t with
    | .ok document => document.filter fun s => !Text.isBlankText s
    | .error _ => none

/-- The model of a document, which belongs to the target. -/
def read? (d : Detector) (t : Target) (document : String) : Option Model :=
  match Model.ofXml d.settings document with
  | .ok m => some { m with scope := t.scope, apiId := t.apiId, operationId := t.operationId }
  | .error _ => none

/-- The model of the document to edit. -/
def chosenModel? (source : DetectionSource) (database gateway : Option Model) : Option Model :=
  match source with
  | .database => database
  | .gateway => gateway
  | .both => gateway
  | .none => none

/-- Asks both sources for the document of a target. -/
def detect (d : Detector) (t : Target) : Detection :=
  let databaseXml := fetch? d.database t
  let gatewayXml := fetch? d.gateway t
  let merge := mergeSources databaseXml gatewayXml
  let databaseModel := databaseXml.bind (d.read? t)
  let gatewayModel := gatewayXml.bind (d.read? t)
  { found := merge.xml.isSome
    source := merge.source
    xml := merge.xml
    policyModel := chosenModel? merge.source databaseModel gatewayModel
    databaseXml, gatewayXml, databaseModel, gatewayModel
    conflict := merge.conflict
    fingerprint := merge.xml.map GatewayPolicy.fingerprint }

end Detector

/-- Saves the document of a target in a database, if there is one. -/
def storePolicy {δ : Type} (database : Option (Target → String → Except Error δ)) (t : Target)
    (xml : String) : Except Error δ :=
  match database with
  | some save => save t xml
  | none => .error (.adapter "database" "no database adapter configured")

end GatewayPolicy
