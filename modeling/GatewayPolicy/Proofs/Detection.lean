import GatewayPolicy.Detection
import GatewayPolicy.Proofs.Text.Trimming
/-!
# What detection finds

A source that is missing, that fails, that has nothing and that has a blank document are the same to
detection: nothing in the result tells one from the other. What a source with a visible document adds
is described field by field, in terms of the two documents alone.
-/

namespace GatewayPolicy

open Text

/-! ## Sources -/

/-- The source has nothing to offer for the target. -/
inductive IsIdle (t : Target) : Option Lookup → Prop
  | absent : IsIdle t none
  | failed {lookup : Lookup} {e : Error} (h : lookup t = .error e) : IsIdle t (some lookup)
  | nothing {lookup : Lookup} (h : lookup t = .ok none) : IsIdle t (some lookup)
  | blank {lookup : Lookup} {document : String} (h : lookup t = .ok (some document))
      (hb : IsBlankRun document.toList) : IsIdle t (some lookup)

/-- What the source has for the target: a document with something visible, or nothing. -/
inductive Obtains (t : Target) : Option Lookup → Option String → Prop
  | nothing {source : Option Lookup} (h : IsIdle t source) : Obtains t source none
  | document {lookup : Lookup} {document : String} (h : lookup t = .ok (some document))
      (hv : ¬ IsBlankRun document.toList) : Obtains t (some lookup) (some document)

variable {t : Target} {source source' : Option Lookup} {document? : Option String} {d d' : Detector}

theorem fetch?_eq_none (h : IsIdle t source) : Detector.fetch? source t = none := by
  cases h with
  | absent => rfl
  | failed h => simp [Detector.fetch?, h]
  | nothing h => simp [Detector.fetch?, h]
  | blank h hb => simp [Detector.fetch?, h, isBlankText_iff.2 hb]

theorem fetch?_of_obtains (h : Obtains t source document?) :
    Detector.fetch? source t = document? := by
  cases h with
  | nothing h => exact fetch?_eq_none h
  | @document lookup document h hv =>
    have hvisible : isBlankText document = false := by
      rw [Bool.eq_false_iff]
      exact fun hb => hv (isBlankText_iff.1 hb)
    simp [Detector.fetch?, h, hvisible]

/-- Every source has exactly one document or nothing. -/
theorem obtains_iff : Obtains t source document? ↔ Detector.fetch? source t = document? := by
  constructor
  · exact fetch?_of_obtains
  · rintro rfl
    cases source with
    | none => exact .nothing .absent
    | some lookup =>
      cases h : lookup t with
      | error e =>
        have hidle : IsIdle t (some lookup) := .failed h
        rw [fetch?_eq_none hidle]
        exact .nothing hidle
      | ok answer =>
        cases answer with
        | none =>
          have hidle : IsIdle t (some lookup) := .nothing h
          rw [fetch?_eq_none hidle]
          exact .nothing hidle
        | some document =>
          by_cases hb : IsBlankRun document.toList
          · have hidle : IsIdle t (some lookup) := .blank h hb
            rw [fetch?_eq_none hidle]
            exact .nothing hidle
          · have hobtains : Obtains t (some lookup) (some document) := .document h hb
            rw [fetch?_of_obtains hobtains]
            exact hobtains

/-! ## Detection -/

/-- The result tells the documents of the database and the gateway, and what follows from them. -/
structure Detection.IsCoherent (r : Detection) (settings : Settings) (t : Target)
    (database gateway : Option String) : Prop where
  /-- The gateway's document is the one to edit, the database's stands in for it. -/
  xml : r.xml = gateway.or database
  databaseXml : r.databaseXml = database
  gatewayXml : r.gatewayXml = gateway
  found : r.found = true ↔ r.xml ≠ none
  fingerprinted : r.fingerprint ≠ none ↔ r.xml ≠ none
  sourced : r.source ≠ .none ↔ r.xml ≠ none
  both : r.source = .both ↔ gateway ≠ none ∧ database ≠ none
  gatewayAlone : r.source = .gateway ↔ gateway ≠ none ∧ database = none
  databaseAlone : r.source = .database ↔ gateway = none ∧ database ≠ none
  neither : r.source = .none ↔ gateway = none ∧ database = none
  conflict : r.conflict = true ↔ ∃ x y, database = some x ∧ gateway = some y ∧ trim x ≠ trim y
  fingerprint : r.fingerprint = r.xml.map GatewayPolicy.fingerprint
  /-- The model is that of the document to edit, and belongs to the target. -/
  policyModel : ∀ m, r.policyModel = some m ↔ ∃ document parsed, r.xml = some document ∧
    Model.ofXml settings document = .ok parsed ∧
      m = { parsed with scope := t.scope, apiId := t.apiId, operationId := t.operationId }

/-- The model of a document is what is read from it, with the target in place of its own. -/
theorem read?_eq_some_iff {document : String} {m : Model} :
    d.read? t document = some m ↔ ∃ parsed, Model.ofXml d.settings document = .ok parsed ∧
      m = { parsed with scope := t.scope, apiId := t.apiId, operationId := t.operationId } := by
  unfold Detector.read?
  cases h : Model.ofXml d.settings document with
  | error e => simp
  | ok parsed =>
    constructor
    · intro hm
      exact ⟨parsed, rfl, (Option.some.inj hm).symm⟩
    · rintro ⟨_, hparsed, rfl⟩
      rw [Except.ok.inj hparsed]

/-- The chosen model is the model of the chosen document. -/
theorem policyModel_detect (d : Detector) (t : Target) :
    (d.detect t).policyModel = (d.detect t).xml.bind (d.read? t) := by
  unfold Detector.detect
  cases Detector.fetch? d.database t with
  | none => cases Detector.fetch? d.gateway t <;> rfl
  | some x => cases Detector.fetch? d.gateway t <;> rfl

theorem isCoherent_detect {database gateway : Option String} (hdb : Obtains t d.database database)
    (hlive : Obtains t d.gateway gateway) :
    (d.detect t).IsCoherent d.settings t database gateway := by
  have hd := obtains_iff.1 hdb
  have hg := obtains_iff.1 hlive
  have hmodel : ∀ m, (d.detect t).policyModel = some m ↔ ∃ document parsed,
      (d.detect t).xml = some document ∧ Model.ofXml d.settings document = .ok parsed ∧
        m = { parsed with scope := t.scope, apiId := t.apiId, operationId := t.operationId } := by
    intro m
    rw [policyModel_detect, Option.bind_eq_some_iff]
    simp only [read?_eq_some_iff, exists_and_left]
  refine ⟨?_, hd, hg, ?_, ?_, ?_, ?_, ?_, ?_, ?_, ?_, rfl, hmodel⟩
  -- What is left compares two optional documents.
  all_goals
    simp only [Detector.detect, hd, hg]
    cases database <;> cases gateway <;> simp [mergeSources]

/-- Detection sees nothing of a source but the document it has. -/
theorem detect_congr (hsettings : d.settings = d'.settings)
    (hdb : Detector.fetch? d.database t = Detector.fetch? d'.database t)
    (hlive : Detector.fetch? d.gateway t = Detector.fetch? d'.gateway t) :
    d.detect t = d'.detect t := by
  have hread : d.read? t = d'.read? t := by
    unfold Detector.read?
    rw [hsettings]
  unfold Detector.detect
  rw [hdb, hlive, hread]

theorem detect_database_of_isIdle (h : IsIdle t d.database) (h' : IsIdle t source) :
    { d with database := source }.detect t = d.detect t :=
  detect_congr rfl ((fetch?_eq_none h').trans (fetch?_eq_none h).symm) rfl

theorem detect_gateway_of_isIdle (h : IsIdle t d.gateway) (h' : IsIdle t source) :
    { d with gateway := source }.detect t = d.detect t :=
  detect_congr rfl rfl ((fetch?_eq_none h').trans (fetch?_eq_none h).symm)

/-- The result describes the two documents, and the ways in which a source can have none cannot be
told apart. -/
theorem detect_coherent {database gateway : Option String} (hdb : Obtains t d.database database)
    (hlive : Obtains t d.gateway gateway) :
    (d.detect t).IsCoherent d.settings t database gateway ∧
      (∀ source, IsIdle t d.database → IsIdle t source →
        { d with database := source }.detect t = d.detect t) ∧
      (∀ source, IsIdle t d.gateway → IsIdle t source →
        { d with gateway := source }.detect t = d.detect t) :=
  ⟨isCoherent_detect hdb hlive, fun _ h h' => detect_database_of_isIdle h h',
    fun _ h h' => detect_gateway_of_isIdle h h'⟩

/-- A database with a document and a gateway that fails. -/
def halfDeafDetector : Detector where
  database := some fun _ => .ok (some "<policies />")
  gateway := some fun _ => .error (.adapter "gateway" "unreachable")

/-- The document that applies to all of the gateway. -/
def globalTarget : Target where
  scope := .global

theorem detect_coherent_halfDeafDetector :
    (Obtains globalTarget halfDeafDetector.database (some "<policies />") ∧
      Obtains globalTarget halfDeafDetector.gateway none) ∧
    (halfDeafDetector.detect globalTarget).IsCoherent halfDeafDetector.settings globalTarget
        (some "<policies />") none ∧
      (∀ source, IsIdle globalTarget halfDeafDetector.database → IsIdle globalTarget source →
        { halfDeafDetector with database := source }.detect globalTarget =
          halfDeafDetector.detect globalTarget) ∧
      (∀ source, IsIdle globalTarget halfDeafDetector.gateway → IsIdle globalTarget source →
        { halfDeafDetector with gateway := source }.detect globalTarget =
          halfDeafDetector.detect globalTarget) := by
  have hdb : Obtains globalTarget halfDeafDetector.database (some "<policies />") := by
    refine .document rfl ?_
    rw [← isBlankText_iff]
    decide
  have hlive : Obtains globalTarget halfDeafDetector.gateway none := .nothing (.failed rfl)
  exact ⟨⟨hdb, hlive⟩, detect_coherent hdb hlive⟩

end GatewayPolicy
