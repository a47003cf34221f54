import GatewayPolicy.Policy.Writing
import GatewayPolicy.Proofs.Bindings
import GatewayPolicy.Proofs.Catalog.Index
import GatewayPolicy.Proofs.Xml.Serialization
/-!
# The policies that have templates

Which policies of the built-in catalog are written by a template, and when a template is used. The
catalog and the reader agree on the parameters that are carried as text.
-/

namespace GatewayPolicy

open Json Xml

namespace Template

/-- The templates. -/
def all : List Template := [checkHeader, setBody, setMethod, trace, logToEventhub, choose]

/-- The policy that a template writes. -/
def policyId : Template → String
  | checkHeader => "check-header"
  | setBody => "set-body"
  | setMethod => "set-method"
  | trace => "trace"
  | logToEventhub => "log-to-eventhub"
  | choose => "choose"

/-- The template that writes a policy. -/
def ofPolicy? (id : String) : Option Template := all.find? (·.policyId == id)

/-- The parameters that a template writes as attributes. -/
def attributeKeys : Template → List String
  | checkHeader => ["name", "failed-check-httpcode", "failed-check-error-message", "ignore-case"]
  | setBody => ["template", "xsi-nil"]
  | setMethod => []
  | trace => ["source", "severity"]
  | logToEventhub => ["logger-id", "partition-id", "partition-key"]
  | choose => []

/-- The parameter that a template writes as text, of its element or of a leaf. -/
def content? : Template → Option String
  | setBody => some "value"
  | setMethod => some "method"
  | trace => some "message"
  | logToEventhub => some "message"
  | _ => none

theorem mem_all (t : Template) : t ∈ all := by
  cases t <;> decide

theorem policyId_of_ofPolicy? {id : String} {t : Template} (h : ofPolicy? id = some t) :
    t.policyId = id := by
  simpa using List.find?_some h

theorem ofPolicy?_policyId (t : Template) : ofPolicy? t.policyId = some t := by
  cases t <;> decide

@[simp] theorem name_element (style : NamedValueStyle) (c : Fields) (t : Template) :
    (t.element style c).name = t.policyId := by
  cases t <;> rfl

@[simp] theorem attributes_element (style : NamedValueStyle) (c : Fields) (t : Template) :
    (t.element style c).attributes = attributes style c t.attributeKeys := by
  cases t <;> rfl

theorem isName_policyId (t : Template) : IsName t.policyId := by
  cases t <;> decide

theorem isName_of_mem_attributeKeys {t : Template} : ∀ key ∈ t.attributeKeys, IsName key := by
  cases t <;> decide

theorem nodup_attributeKeys (t : Template) : t.attributeKeys.Nodup := by
  cases t <;> decide

theorem lookup_attributes (style : NamedValueStyle) (c : Fields) {keys : List String}
    (h : keys.Nodup) (key : String) :
    (attributes style c keys).lookup key = if key ∈ keys then text? style c key else none := by
  have hfst : (keys.map fun k => (k, ())).map Prod.fst = keys := by
    rw [List.map_map]
    exact List.map_id keys
  have hkeys : (((keys.map fun k => (k, ())).map Prod.fst)).Nodup := by
    rwa [hfst]
  have hlookup := lookup_filterMap hkeys (fun k _ => text? style c k) key
  rw [List.filterMap_map] at hlookup
  rw [attributes]
  refine hlookup.trans ?_
  by_cases hk : key ∈ keys
  · rw [if_pos hk, lookup_of_mem hkeys (show (key, ()) ∈ _ by simpa using hk), Option.bind_some]
  · rw [if_neg hk, lookup_eq_none_iff.2 (by rwa [hfst]), Option.bind_none]

theorem keys_attributes_sublist (style : NamedValueStyle) (c : Fields) (keys : List String) :
    ((attributes style c keys).map Prod.fst).Sublist keys := by
  have hsub := keys_filterMap_sublist (fun k () => text? style c k) (keys.map fun k => (k, ()))
  rw [List.filterMap_map, List.map_map] at hsub
  simpa [attributes, Function.comp_def] using hsub

theorem render_of_ne_choose {t : Template} (ht : t ≠ choose) (settings : Settings) (c : Fields) :
    t.render settings c =
      (t.element settings.namedValueStyle c).serialize settings.indentWidth := by
  cases t with
  | choose => exact absurd rfl ht
  | _ => rfl

theorem chooseLines_of_no_branches (settings : Settings) {c : Fields} (hwhen : objects c "when" = [])
    (hotherwise : rawLines c "otherwise" = none) :
    chooseLines settings c = ["<choose>", "</choose>"] := by
  rw [chooseLines, otherwiseLines, hwhen, hotherwise]
  rfl

/-- A template is read back as its element. Branches of raw policies are no element, so `choose`
must have none. -/
theorem readsAsElement_render {t : Template} (settings : Settings) (c : Fields)
    (hclean : (t.element settings.namedValueStyle c).IsClean)
    (hchoose : t = choose → objects c "when" = [] ∧ rawLines c "otherwise" = none) :
    ReadsAsElement (t.render settings c).toList (t.element settings.namedValueStyle c) := by
  by_cases ht : t = choose
  · subst ht
    obtain ⟨hwhen, hotherwise⟩ := hchoose rfl
    have hfin : Text.IsBlankRun ['\n'] :=
      Text.isBlankRun_cons.2 ⟨by decide, Text.isBlankRun_nil⟩
    have hread := readsAsElement_element (isName_policyId choose) areReadable_nil
      Text.isBlankRun_nil hfin areSeparate_nil tidyNodes_nil
    have hrender : (choose.render settings c).toList =
        elementChars "choose" [] (gappedChars [] [] ++ ['\n']) := by
      rw [render, chooseLines_of_no_branches settings hwhen hotherwise, Text.toList_unlines_cons]
      rfl
    rw [hrender]
    exact hread
  · rw [render_of_ne_choose ht]
    exact readsAsElement_serialize hclean settings.indentWidth

end Template

/-! ## The built-in catalog -/

namespace Catalog

theorem get?_builtin (id : String) : builtin.get? id = builtinEntries.find? (·.id == id) :=
  get?_ofEntries builtinEntries id

theorem mem_of_get?_builtin {id : String} {e : Entry} (h : builtin.get? id = some e) :
    e ∈ builtinEntries ∧ e.id = id := by
  rw [get?_builtin] at h
  exact ⟨List.mem_of_find?_eq_some h, by simpa using List.find?_some h⟩

theorem template_of_mem : ∀ e ∈ builtinEntries, e.template = Template.ofPolicy? e.id := by
  decide +kernel

theorem exists_entry_of_template :
    ∀ t ∈ Template.all, ∃ e ∈ builtinEntries, e.id = t.policyId := by
  decide +kernel

theorem textParameter_of_mem :
    ∀ e ∈ builtinEntries, e.textParameter = textParameter? e.id := by
  decide +kernel

/-- A policy has a template if and only if its entry has. -/
theorem template_builtin (id : String) :
    (builtin.get? id).bind (·.template) = Template.ofPolicy? id := by
  cases h : builtin.get? id with
  | some e =>
    obtain ⟨hmem, rfl⟩ := mem_of_get?_builtin h
    exact template_of_mem e hmem
  | none =>
    cases ht : Template.ofPolicy? id with
    | none => rfl
    | some t =>
      obtain ⟨e, he, hid⟩ := exists_entry_of_template t (Template.mem_all t)
      rw [get?_builtin, List.find?_eq_none] at h
      exact absurd (by simpa using hid.trans (Template.policyId_of_ofPolicy? ht)) (h e he)

/-- The catalog and the reader agree on the parameter that is carried as text. -/
theorem textParameter_builtin {id : String} {e : Entry} (h : builtin.get? id = some e) :
    e.textParameter = textParameter? id := by
  obtain ⟨hmem, rfl⟩ := mem_of_get?_builtin h
  exact textParameter_of_mem e hmem

end Catalog

/-! ## When a template is used -/

/-- The template that writes a catalog item, with the configuration that it is given. None if the
item is written as one element. -/
def CatalogItem.templated? (i : CatalogItem) : Option (Template × Fields) :=
  (Template.ofPolicy? i.policyId).bind fun t =>
    if i.attributes.isEmpty then
      match i.configuration.get? textKey with
      | none => some (t, i.configuration)
      | some v =>
        (textParameter? i.policyId).bind fun key =>
          if i.configuration.contains key then none
          else some (t, (i.configuration.erase textKey).set key v)
    else none

namespace CatalogItem

variable {i : CatalogItem} {t : Template}

theorem templated?_of_no_text (ht : Template.ofPolicy? i.policyId = some t)
    (ha : i.attributes.isEmpty = true) (hget : i.configuration.get? textKey = none) :
    i.templated? = some (t, i.configuration) := by
  rw [templated?, ht, Option.bind_some, if_pos ha, hget]

theorem templated?_of_ofPolicy? (ht : Template.ofPolicy? i.policyId = none) :
    i.templated? = none := by
  rw [templated?, ht, Option.bind_none]

theorem templated?_of_attributes (ha : i.attributes.isEmpty = false) : i.templated? = none := by
  rw [templated?]
  cases Template.ofPolicy? i.policyId with
  | none => rfl
  | some t => rw [Option.bind_some, if_neg (by simp [ha])]

/-- What a template is given: the configuration of a policy without attributes, in which the text of
the element stands in for the parameter that is carried as text. -/
theorem templated?_cases {c : Fields} (h : i.templated? = some (t, c)) :
    Template.ofPolicy? i.policyId = some t ∧ i.attributes.isEmpty = true ∧
      (i.configuration.get? textKey = none ∧ c = i.configuration ∨
        ∃ v key, i.configuration.get? textKey = some v ∧ textParameter? i.policyId = some key ∧
          i.configuration.contains key = false ∧
          c = (i.configuration.erase textKey).set key v) := by
  obtain ⟨t', ht, h⟩ := Option.bind_eq_some_iff.1 h
  by_cases ha : i.attributes.isEmpty = true
  · rw [if_pos ha] at h
    cases hv : i.configuration.get? textKey with
    | none =>
      rw [hv] at h
      obtain ⟨rfl, rfl⟩ := Prod.mk.inj (Option.some.inj h)
      exact ⟨ht, ha, .inl ⟨rfl, rfl⟩⟩
    | some v =>
      rw [hv] at h
      obtain ⟨key, hkey, h⟩ := Option.bind_eq_some_iff.1 h
      by_cases hc : i.configuration.contains key = true
      · simp [hc] at h
      · rw [if_neg hc] at h
        obtain ⟨rfl, rfl⟩ := Prod.mk.inj (Option.some.inj h)
        exact ⟨ht, ha, .inr ⟨v, key, rfl, hkey, by simpa using hc, rfl⟩⟩
  · rw [if_neg ha] at h
    simp at h

theorem policyId_of_templated? {c : Fields} (h : i.templated? = some (t, c)) :
    t.policyId = i.policyId :=
  Template.policyId_of_ofPolicy? (templated?_cases h).1

/-- Requests to other services have no template. -/
theorem policyId_ne_of_templated? {c : Fields} (h : i.templated? = some (t, c)) :
    i.policyId ≠ SendRequest.policyId := by
  rw [← policyId_of_templated? h]
  cases t <;> decide

/-- A text that has no free parameter is not given to a template. -/
theorem templated?_of_text {v : Json} (hget : i.configuration.get? textKey = some v)
    (hkey : ∀ key, textParameter? i.policyId = some key → i.configuration.contains key = true) :
    i.templated? = none := by
  rw [templated?]
  cases Template.ofPolicy? i.policyId with
  | none => rfl
  | some t =>
    rw [Option.bind_some, hget]
    cases hp : textParameter? i.policyId with
    | none => simp
    | some key => simp [hkey key hp]

end CatalogItem

/-- A catalog item is written by its template or as one element. -/
theorem Writer.renderCatalog_eq (settings : Settings) (i : CatalogItem)
    (h : i.policyId ≠ SendRequest.policyId) :
    ({ settings } : Writer).renderCatalog i =
      match i.templated? with
      | some (t, c) => t.render settings c
      | none => ({ settings } : Writer).renderGeneric i := by
  rw [renderCatalog, if_neg h, CatalogItem.templated?, ← Catalog.template_builtin]
  dsimp only
  cases he : Catalog.builtin.get? i.policyId with
  | none => rfl
  | some e =>
    rw [Option.bind_some]
    dsimp only
    cases ht : e.template with
    | none => rfl
    | some t =>
      rw [Option.bind_some]
      dsimp only
      by_cases ha : i.attributes.isEmpty = true
      · rw [if_pos ha, if_pos ha, templateConfiguration?, Catalog.textParameter_builtin he]
        cases hv : i.configuration.get? textKey with
        | none => rfl
        | some v =>
          cases hk : textParameter? i.policyId with
          | none => rfl
          | some key =>
            simp only [Option.bind_some]
            by_cases hc : i.configuration.contains key = true
            · rw [if_pos hc, if_pos hc]
            · rw [if_neg hc, if_neg hc]
      · rw [if_neg ha, if_neg ha]

theorem renderItem_of_templated? {settings : Settings} {i : CatalogItem} {t : Template} {c : Fields}
    (h : i.templated? = some (t, c)) :
    ({ settings } : Writer).renderItem (.catalog i) = t.render settings c := by
  rw [Writer.renderItem,
    Writer.renderCatalog_eq settings i (CatalogItem.policyId_ne_of_templated? h), h]

end GatewayPolicy
