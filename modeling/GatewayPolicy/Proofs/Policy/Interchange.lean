import GatewayPolicy.Policy.Interchange
import GatewayPolicy.Proofs.Json.Nested
import GatewayPolicy.Proofs.Record
/-!
# Policy models as JSON, laws

Each record of a policy model is read back from the JSON value that is written for it, and reading a
part of a text is reading the value of the part.
-/

namespace GatewayPolicy

open Json Source Text

/-! ## Attribute values -/

theorem KeyVaultSecret.toJson_eq (s : KeyVaultSecret) : s.toJson = .object (written
    [("secretIdentifier", some (.text s.secretIdentifier)),
      ("identityClientId", s.identityClientId.map .text)]) := by
  simp [toJson, written_cons, written_nil, field?_some]

theorem KeyVaultSecret.read?_toJson (s : KeyVaultSecret) : read? s.toJson = some s := by
  rw [read?, toJson_eq]
  refine Eq.trans (fields?_bind _ rfl (by decide)) ?_
  refine Eq.trans (required_bind (.text s.secretIdentifier) _ (by simp) rfl) ?_
  exact optional_bind s.identityClientId .text _ (by simp) fun _ _ => ⟨rfl, rfl⟩

theorem KeyVaultSecret.isExact_toJson (s : KeyVaultSecret) : s.toJson.isExact = true := by
  rw [toJson_eq]
  exact isExact_written (by simp [isExact])

theorem NamedValueReference.toJson_eq (r : NamedValueReference) : r.toJson = .object (written
    [("name", some (.text r.name)), ("keyVault", r.keyVault.map KeyVaultSecret.toJson)]) := by
  simp [toJson, written_cons, written_nil, field?_some]

theorem NamedValueReference.read?_toJson (r : NamedValueReference) : read? r.toJson = some r := by
  rw [read?, toJson_eq]
  refine Eq.trans (fields?_bind _ rfl (by decide)) ?_
  refine Eq.trans (required_bind (.text r.name) _ (by simp) rfl) ?_
  exact optional_bind r.keyVault KeyVaultSecret.toJson _ (by simp)
    fun s _ => ⟨rfl, s.read?_toJson⟩

theorem NamedValueReference.isExact_toJson (r : NamedValueReference) :
    r.toJson.isExact = true := by
  rw [toJson_eq]
  exact isExact_written (by simp [isExact, KeyVaultSecret.isExact_toJson])

/-- A text is literal, an object is a reference. -/
theorem AttributeValue.read?_toJson (v : AttributeValue) : read? v.toJson = some v := by
  cases v with
  | literal s => rfl
  | namedValue r =>
    have htext : Source.text? r.toJson = none := rfl
    rw [toJson, read?, htext]
    dsimp only
    rw [r.read?_toJson, Option.map_some]

theorem AttributeValue.isExact_toJson (v : AttributeValue) : v.toJson.isExact = true := by
  cases v with
  | literal s => rfl
  | namedValue r => exact r.isExact_toJson

theorem readAttributes?_attributesToJson (m : NameMap AttributeValue) :
    readAttributes? (attributesToJson m) = some m := by
  have hbindings : (m.entries.map fun e => (e.1, e.2.toJson)).mapM
      (fun f => (AttributeValue.read? f.2).map (f.1, ·)) = some m.entries :=
    mapM_map _ fun e _ => by rw [e.2.read?_toJson, Option.map_some]
  change (((m.entries.map fun e => (e.1, e.2.toJson)).mapM
    (fun f => (AttributeValue.read? f.2).map (f.1, ·))).bind fun bs => some (NameMap.ofList bs)) = _
  rw [hbindings, Option.bind_some, NameMap.ofList_entries]

theorem isExact_attributesToJson (m : NameMap AttributeValue) :
    (attributesToJson m).isExact = true := by
  rw [attributesToJson, isExact]
  induction m.entries with
  | nil => rfl
  | cons e es ih => rw [List.map_cons, isExactFields, ih, e.2.isExact_toJson, Bool.and_true]

/-! ## Configurations -/

namespace Json

mutual

/-- No object has a key twice. -/
def hasDistinctKeys : Json → Bool
  | .array items => hasDistinctKeysItems items
  | .object fields => (fields.map Prod.fst).Nodup && hasDistinctKeysFields fields
  | _ => true

/-- `hasDistinctKeys` for all items. -/
def hasDistinctKeysItems : List Json → Bool
  | [] => true
  | v :: vs => hasDistinctKeys v && hasDistinctKeysItems vs

/-- `hasDistinctKeys` for the values of all fields. -/
def hasDistinctKeysFields : List (String × Json) → Bool
  | [] => true
  | (_, v) :: rest => hasDistinctKeys v && hasDistinctKeysFields rest

end

mutual

/-- Where no key is repeated, there is nothing to merge. -/
theorem merged_of_hasDistinctKeys : ∀ v : Json, v.hasDistinctKeys = true → v.merged = v
  | .null, _ => rfl
  | .bool _, _ => rfl
  | .number _, _ => rfl
  | .text _, _ => rfl
  | .array items, h => by
    rw [merged, mergedItems_of_hasDistinctKeys items (by simpa [hasDistinctKeys] using h)]
  | .object fields, h => by
    rw [hasDistinctKeys, Bool.and_eq_true, decide_eq_true_eq] at h
    rw [merged, mergedFields_of_hasDistinctKeys fields h.2, Fields.merge_of_nodup h.1]

theorem mergedItems_of_hasDistinctKeys : ∀ vs : List Json, hasDistinctKeysItems vs = true →
    mergedItems vs = vs
  | [], _ => rfl
  | v :: vs, h => by
    rw [hasDistinctKeysItems, Bool.and_eq_true] at h
    rw [mergedItems, merged_of_hasDistinctKeys v h.1, mergedItems_of_hasDistinctKeys vs h.2]

theorem mergedFields_of_hasDistinctKeys : ∀ fields : List (String × Json),
    hasDistinctKeysFields fields = true → mergedFields fields = fields
  | [], _ => rfl
  | (k, v) :: fields, h => by
    rw [hasDistinctKeysFields, Bool.and_eq_true] at h
    rw [mergedFields, merged_of_hasDistinctKeys v h.1, mergedFields_of_hasDistinctKeys fields h.2]

end

theorem hasDistinctKeysFields_iff {fields : Fields} :
    hasDistinctKeysFields fields = true ↔ ∀ f ∈ fields, f.2.hasDistinctKeys = true := by
  induction fields with
  | nil => simp [hasDistinctKeysFields]
  | cons f fields ih =>
    rw [hasDistinctKeysFields, Bool.and_eq_true, ih, List.forall_mem_cons]

theorem hasDistinctKeys_object_iff {fields : Fields} :
    (Json.object fields).hasDistinctKeys = true ↔
      (fields.map Prod.fst).Nodup ∧ ∀ f ∈ fields, f.2.hasDistinctKeys = true := by
  rw [hasDistinctKeys, Bool.and_eq_true, decide_eq_true_eq, hasDistinctKeysFields_iff]

end Json

theorem readConfiguration?_object {c : Fields} (h : (Json.object c).hasDistinctKeys = true) :
    readConfiguration? (Json.object c) = some c := by
  change (Json.object c).merged.object? = some c
  rw [merged_of_hasDistinctKeys _ h]
  rfl

/-! ## Items -/

/-- What has a place in a JSON text as it is: orders and numbers fit into 64 bits, and no key of a
configuration is repeated. -/
structure Item.IsExact (i : Item) : Prop where
  /-- The order is an integer of 64 bits with sign. -/
  order : fitsSigned64 i.order = true
  /-- The numbers of a configuration are integers of 64 bits. -/
  numbers : ∀ c, i.catalog? = some c → isExactFields c.configuration = true
  /-- The keys of a configuration are distinct, at every depth. -/
  keys : ∀ c, i.catalog? = some c → (Json.object c.configuration).hasDistinctKeys = true

theorem int64?_int {n : Int} (h : fitsSigned64 n = true) :
    Source.int64? (Json.int n) = some n := by
  change (some n).filter fitsSigned64 = some n
  rw [Option.filter_some, if_pos h]

theorem isExact_int {n : Int} (h : fitsSigned64 n = true) : (Json.int n).isExact = true := by
  simp [Json.int, isExact, Number.isExact, h]

theorem CatalogItem.fields_eq (i : CatalogItem) : i.fields = written
    [("id", some (.text i.id)), ("order", some (.int i.order)),
      ("policyId", some (.text i.policyId)), ("configuration", some (.object i.configuration)),
      ("attributes",
        if i.attributes.isEmpty then none else some (attributesToJson i.attributes))] := by
  simp [fields, written_cons, written_nil, field?_some]

theorem CatalogItem.read?_fields {i : CatalogItem} (h : (Item.catalog i).IsExact) :
    read? (Json.object i.fields) = some i := by
  rw [read?, fields_eq]
  refine Eq.trans (fields?_bind _ rfl (by decide)) ?_
  refine Eq.trans (required_bind (.text i.id) _ (by simp) rfl) ?_
  refine Eq.trans (required_bind (.int i.order) _ (by simp) (int64?_int h.order)) ?_
  refine Eq.trans (required_bind (.text i.policyId) _ (by simp) rfl) ?_
  refine Eq.trans (withDefault_bind i.configuration _ (by simp) fun v hv => ?_) ?_
  · obtain rfl : Json.object i.configuration = v := by simpa using hv
    exact readConfiguration?_object (h.keys i rfl)
  refine withDefault_bind i.attributes _ (fun hnone => ?_) fun v hv => ?_
  · have hempty : i.attributes.isEmpty = true := by simpa using hnone
    exact NameMap.eq_empty_of_isEmpty hempty
  · obtain ⟨-, rfl⟩ : i.attributes.isEmpty = false ∧ attributesToJson i.attributes = v := by
      simpa using hv
    exact readAttributes?_attributesToJson i.attributes

theorem FragmentItem.fields_eq (i : FragmentItem) : i.fields = written
    [("id", some (.text i.id)), ("order", some (.int i.order)),
      ("fragmentId", some (.text i.fragmentId))] :=
  rfl

theorem FragmentItem.read?_fields {i : FragmentItem} (h : (Item.fragment i).IsExact) :
    read? (Json.object i.fields) = some i := by
  rw [read?, fields_eq]
  refine Eq.trans (fields?_bind _ rfl (by decide)) ?_
  refine Eq.trans (required_bind (.text i.id) _ (by simp) rfl) ?_
  refine Eq.trans (required_bind (.int i.order) _ (by simp) (int64?_int h.order)) ?_
  exact required_bind (.text i.fragmentId) _ (by simp) rfl

theorem CustomXmlItem.fields_eq (i : CustomXmlItem) : i.fields = written
    [("id", some (.text i.id)), ("order", some (.int i.order)), ("xml", some (.text i.xml))] :=
  rfl

theorem CustomXmlItem.read?_fields {i : CustomXmlItem} (h : (Item.customXml i).IsExact) :
    read? (Json.object i.fields) = some i := by
  rw [read?, fields_eq]
  refine Eq.trans (fields?_bind _ rfl (by decide)) ?_
  refine Eq.trans (required_bind (.text i.id) _ (by simp) rfl) ?_
  refine Eq.trans (required_bind (.int i.order) _ (by simp) (int64?_int h.order)) ?_
  exact required_bind (.text i.xml) _ (by simp) rfl

/-- Every context is the one with its name, also the one for all other names. -/
theorem ExpressionContext.read?_name (c : ExpressionContext) :
    read? (Json.text c.name) = some c := by
  cases c <;> decide

theorem ExpressionItem.fields_eq (i : ExpressionItem) : i.fields = written
    [("id", some (.text i.id)), ("order", some (.int i.order)),
      ("expression", some (.text i.expression)),
      ("context", i.context.map fun c => .text c.name),
      ("targetElement", i.targetElement.map .text),
      ("targetAttribute", i.targetAttribute.map .text)] := by
  simp [fields, written_cons, written_nil, field?_some]

theorem ExpressionItem.read?_fields {i : ExpressionItem} (h : (Item.expression i).IsExact) :
    read? (Json.object i.fields) = some i := by
  rw [read?, fields_eq]
  refine Eq.trans (fields?_bind _ rfl (by decide)) ?_
  refine Eq.trans (required_bind (.text i.id) _ (by simp) rfl) ?_
  refine Eq.trans (required_bind (.int i.order) _ (by simp) (int64?_int h.order)) ?_
  refine Eq.trans (required_bind (.text i.expression) _ (by simp) rfl) ?_
  refine Eq.trans (optional_bind i.context (fun c => .text c.name) _ (by simp)
    fun c _ => ⟨rfl, c.read?_name⟩) ?_
  refine Eq.trans (optional_bind i.targetElement .text _ (by simp) fun _ _ => ⟨rfl, rfl⟩) ?_
  exact optional_bind i.targetAttribute .text _ (by simp) fun _ _ => ⟨rfl, rfl⟩

namespace Item

variable {i : Item}

/-- The fields of an item are a written record, none of which is its kind. -/
theorem exists_fields_eq (i : Item) :
    ∃ l, i.fields = written l ∧ "type" ∉ l.map Prod.fst := by
  cases i with
  | catalog i => exact ⟨_, i.fields_eq, by simp⟩
  | fragment i => exact ⟨_, i.fields_eq, by simp⟩
  | customXml i => exact ⟨_, i.fields_eq, by simp⟩
  | expression i => exact ⟨_, i.fields_eq, by simp⟩

/-- The kind is told by one field, and the others are those of the item. -/
theorem kind?_toJson (i : Item) : Json.kind? "type" i.toJson = some (i.kindName, .object i.fields) := by
  obtain ⟨l, hl, hkind⟩ := i.exists_fields_eq
  have hne : ∀ f ∈ i.fields, f.1 ≠ "type" := by
    intro f hf heq
    rw [hl] at hf
    exact hkind (heq ▸ keys_written_sublist.subset (List.mem_map_of_mem hf))
  have hnone : i.fields.filter (·.1 == "type") = [] :=
    List.filter_eq_nil_iff.2 fun f hf => by simpa using hne f hf
  have hall : i.fields.filter (·.1 != "type") = i.fields :=
    List.filter_eq_self.2 fun f hf => by simpa using hne f hf
  simp [toJson, Json.kind?, hnone, hall]

theorem read?_toJson (h : i.IsExact) : read? i.toJson = some i := by
  have hkind : FreeForm.kind? "type" i.toJson = some (i.kindName, .object i.fields) :=
    kind?_toJson i
  rw [read?, hkind, Option.bind_some]
  cases i with
  | catalog i => simp [readKind?, kindName, fields, CatalogItem.read?_fields h]
  | fragment i => simp [readKind?, kindName, fields, FragmentItem.read?_fields h]
  | customXml i => simp [readKind?, kindName, fields, CustomXmlItem.read?_fields h]
  | expression i => simp [readKind?, kindName, fields, ExpressionItem.read?_fields h]

theorem isExact_fields (h : i.IsExact) : (Json.object i.fields).isExact = true := by
  have horder : (Json.int i.order).isExact = true := isExact_int h.order
  cases i with
  | catalog c =>
    have hconfiguration : isExactFields c.configuration = true := h.numbers c rfl
    rw [order] at horder
    rw [fields, CatalogItem.fields_eq]
    exact isExact_written (by
      simp [isExact, horder, hconfiguration, isExact_attributesToJson])
  | fragment f =>
    rw [order] at horder
    rw [fields, FragmentItem.fields_eq]
    exact isExact_written (by simp [isExact, horder])
  | customXml c =>
    rw [order] at horder
    rw [fields, CustomXmlItem.fields_eq]
    exact isExact_written (by simp [isExact, horder])
  | expression e =>
    rw [order] at horder
    rw [fields, ExpressionItem.fields_eq]
    exact isExact_written (by simp [isExact, horder])

theorem isExact_toJson (h : i.IsExact) : i.toJson.isExact = true := by
  have hfields := isExact_fields h
  rw [isExact] at hfields
  rw [toJson, isExact, isExactFields, hfields]
  rfl

end Item

/-! ## Sections -/

/-- The items of all sections are exact. -/
def Sections.IsExact (s : Sections) : Prop :=
  ∀ kind t, s.get? kind = some t → ∀ i ∈ t.items, i.IsExact

namespace Section

variable {s : Section}

theorem toJson_eq (s : Section) : s.toJson = .object (written
    [("includeBase", s.includeBase.map .bool),
      ("items", some (.array (s.items.map Item.toJson)))]) := by
  simp [toJson, written_cons, written_nil, field?_some]

theorem read?_toJson (h : ∀ i ∈ s.items, i.IsExact) : read? s.toJson = some s := by
  rw [read?, toJson_eq]
  refine Eq.trans (fields?_bind _ rfl (by decide)) ?_
  refine Eq.trans (optional_bind s.includeBase .bool _ (by simp) fun _ _ => ⟨rfl, rfl⟩) ?_
  refine withDefault_bind s.items _ (by simp) fun v hv => ?_
  obtain rfl : Json.array (s.items.map Item.toJson) = v := by simpa using hv
  exact listOf?_map Item.toJson fun i hi => Item.read?_toJson (h i hi)

theorem isExact_toJson (h : ∀ i ∈ s.items, i.IsExact) : s.toJson.isExact = true := by
  have hitems : isExactItems (s.items.map Item.toJson) = true := by
    rw [isExactItems_map, List.all_eq_true]
    exact fun i hi => Item.isExact_toJson (h i hi)
  rw [toJson_eq]
  refine isExact_written (List.forall_mem_cons.2 ⟨fun v => isExact_of_map fun _ _ => rfl, ?_⟩)
  simp [isExact, hitems]

theorem agree_read? : Agree Section.read? Section.read? :=
  Agree.fields? fun fs gs h => by
    rw [Agree.bool?.optional "includeBase" h,
      (Agree.free?.bind Item.read?).listOf?.withDefault "items" h []]

end Section

namespace Sections

variable {s : Sections}

theorem toJson_eq (s : Sections) : s.toJson = .object (written
    [("inbound", s.inbound.map Section.toJson), ("backend", s.backend.map Section.toJson),
      ("outbound", s.outbound.map Section.toJson), ("onError", s.onError.map Section.toJson)]) := by
  simp [toJson, written_cons, written_nil]

theorem read?_toJson (h : s.IsExact) : read? s.toJson = some s := by
  have hsection (kind : SectionKind) (t : Section) (ht : s.get? kind = some t) :
      Source.isNull t.toJson = false ∧ Section.read? t.toJson = some t :=
    ⟨rfl, Section.read?_toJson (h kind t ht)⟩
  rw [read?, toJson_eq]
  refine Eq.trans (fields?_bind _ rfl (by decide)) ?_
  refine Eq.trans (optional_bind s.inbound _ _ (by simp) (hsection .inbound)) ?_
  refine Eq.trans (optional_bind s.backend _ _ (by simp) (hsection .backend)) ?_
  refine Eq.trans (optional_bind s.outbound _ _ (by simp) (hsection .outbound)) ?_
  exact optional_bind s.onError _ _ (by simp) (hsection .onError)

theorem isExact_toJson (h : s.IsExact) : s.toJson.isExact = true := by
  have hsection (kind : SectionKind) (v : Json) (hv : (s.get? kind).map Section.toJson = some v) :
      v.isExact = true :=
    isExact_of_map (fun t ht => Section.isExact_toJson (h kind t ht)) hv
  rw [toJson_eq]
  refine isExact_written ?_
  simp only [List.forall_mem_cons, List.not_mem_nil, false_implies, implies_true, and_true]
  exact ⟨hsection .inbound, hsection .backend, hsection .outbound, hsection .onError⟩

theorem agree_read? : Agree Sections.read? Sections.read? :=
  Agree.fields? fun fs gs h => by
    rw [Section.agree_read?.optional "inbound" h, Section.agree_read?.optional "backend" h,
      Section.agree_read?.optional "outbound" h, Section.agree_read?.optional "onError" h]

end Sections

/-! ## Models -/

namespace Metadata

theorem toJson_eq (m : Metadata) : m.toJson = .object (written
    [("name", m.name.map .text), ("description", m.description.map .text),
      ("version", m.version.map .text),
      ("tags", if m.tags.isEmpty then none else some (.texts m.tags))]) := by
  simp [toJson, written_cons, written_nil]

theorem read?_toJson (m : Metadata) : read? m.toJson = some m := by
  rw [read?, toJson_eq]
  refine Eq.trans (fields?_bind _ rfl (by decide)) ?_
  refine Eq.trans (optional_bind m.name .text _ (by simp) fun _ _ => ⟨rfl, rfl⟩) ?_
  refine Eq.trans (optional_bind m.description .text _ (by simp) fun _ _ => ⟨rfl, rfl⟩) ?_
  refine Eq.trans (optional_bind m.version .text _ (by simp) fun _ _ => ⟨rfl, rfl⟩) ?_
  refine withDefault_bind m.tags _ (fun hnone => ?_) fun v hv => ?_
  · simpa using hnone
  · obtain ⟨-, rfl⟩ : m.tags ≠ [] ∧ Json.texts m.tags = v := by simpa using hv
    exact listOf?_map .text fun _ _ => rfl

theorem isExact_texts (ss : List String) : (Json.texts ss).isExact = true := by
  rw [Json.texts, isExact, isExactItems_map, List.all_eq_true]
  exact fun _ _ => rfl

theorem isExact_toJson (m : Metadata) : m.toJson.isExact = true := by
  rw [toJson_eq]
  refine isExact_written ?_
  simp [isExact, isExact_texts]

theorem agree_read? : Agree Metadata.read? Metadata.read? :=
  Agree.fields? fun fs gs h => by
    rw [Agree.text?.optional "name" h, Agree.text?.optional "description" h,
      Agree.text?.optional "version" h, Agree.text?.listOf?.withDefault "tags" h []]

end Metadata

theorem Scope.read?_name (s : Scope) : read? (Json.text s.name) = some s := by
  cases s <;> decide

theorem Scope.agree_read? : Agree Scope.read? Scope.read? := Agree.name?.bind ofName?

namespace Model

variable {m : Model}

theorem toJson_eq (m : Model) : m.toJson = .object (written
    [("scope", some (.text m.scope.name)), ("apiId", m.apiId.map .text),
      ("operationId", m.operationId.map .text), ("sections", some m.sections.toJson),
      ("metadata", m.metadata.map Metadata.toJson)]) := by
  simp [toJson, written_cons, written_nil, field?_some]

theorem read?_toJson (h : m.sections.IsExact) : read? m.toJson = some m := by
  rw [read?, toJson_eq]
  refine Eq.trans (fields?_bind _ rfl (by decide)) ?_
  refine Eq.trans (required_bind (.text m.scope.name) _ (by simp) m.scope.read?_name) ?_
  refine Eq.trans (optional_bind m.apiId .text _ (by simp) fun _ _ => ⟨rfl, rfl⟩) ?_
  refine Eq.trans (optional_bind m.operationId .text _ (by simp) fun _ _ => ⟨rfl, rfl⟩) ?_
  refine Eq.trans (withDefault_bind m.sections _ (by simp) fun v hv => ?_) ?_
  · obtain rfl : m.sections.toJson = v := by simpa using hv
    exact Sections.read?_toJson h
  exact optional_bind m.metadata Metadata.toJson _ (by simp) fun d _ => ⟨rfl, d.read?_toJson⟩

theorem isExact_toJson (h : m.sections.IsExact) : m.toJson.isExact = true := by
  rw [toJson_eq]
  refine isExact_written ?_
  simp [isExact, Sections.isExact_toJson h, Metadata.isExact_toJson]

theorem agree_read? : Agree Model.read? Model.read? :=
  Agree.fields? fun fs gs h => by
    rw [Scope.agree_read?.required "scope" h, Agree.text?.optional "apiId" h,
      Agree.text?.optional "operationId" h, Sections.agree_read?.withDefault "sections" h {},
      Metadata.agree_read?.optional "metadata" h]

end Model

end GatewayPolicy
