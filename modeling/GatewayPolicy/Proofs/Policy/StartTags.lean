import GatewayPolicy.Proofs.Catalog.Templates
import GatewayPolicy.Proofs.Policy.Generic
import GatewayPolicy.Proofs.Xml.Roots
/-!
# The start tags of policies

What is written for a policy starts with a tag, in each of the ways a policy can be written. The tag
tells how the attributes are read if it is legible: its keys are names, and every value ends at the
quote behind it. Values with references always do; expressions and tokens are written as they are, so
theirs has to be found among quotes of their own.
-/

namespace GatewayPolicy

open Json Xml

/-- What a template writes starts with the tag of its element. Branches of raw policies stand behind
it. -/
theorem Template.startsWithTag_render (settings : Settings) (c : Fields) (t : Template) :
    StartsWithTag (t.render settings c) t.policyId
      (writtenAttributes (t.element settings.namedValueStyle c).attributes) := by
  by_cases ht : t = choose
  · subst ht
    obtain ⟨lines, hlines⟩ : ∃ lines, chooseLines settings c = "<choose>" :: lines := ⟨_, rfl⟩
    refine ⟨_, .opened (Text.lineChars lines), ?_⟩
    rw [render, hlines, Text.toList_unlines_cons]
    rfl
  · rw [render_of_ne_choose ht, ← name_element settings.namedValueStyle c t]
    exact startsWithTag_serialize _ _

namespace CatalogItem

variable {style : NamedValueStyle} {settings : Settings} {i : CatalogItem}

/-- The attributes of a policy, as they stand in the document. -/
def writtenTag (settings : Settings) (i : CatalogItem) : Attributes :=
  if i.policyId = SendRequest.policyId then
    writtenAttributes ((SendRequest.ofConfiguration i.configuration).toElement settings).attributes
  else
    match i.templated? with
    | some (t, c) => writtenAttributes (t.element settings.namedValueStyle c).attributes
    | none => i.rawAttributes settings.namedValueStyle

theorem writtenTag_of_templated? {t : Template} {c : Fields} (h : i.templated? = some (t, c)) :
    i.writtenTag settings = writtenAttributes (t.element settings.namedValueStyle c).attributes := by
  rw [writtenTag, if_neg (policyId_ne_of_templated? h), h]

theorem writtenTag_of_not_templated? (hpolicy : i.policyId ≠ SendRequest.policyId)
    (h : i.templated? = none) :
    i.writtenTag settings = i.rawAttributes settings.namedValueStyle := by
  rw [writtenTag, if_neg hpolicy, h]

/-- The tag of a policy can be read. -/
structure HasLegibleTag (settings : Settings) (i : CatalogItem) : Prop where
  /-- No parameter is repeated. -/
  distinct : (i.configuration.map Prod.fst).Nodup
  /-- The keys are names. -/
  names : ∀ a ∈ i.writtenTag settings, IsName a.1
  /-- The values are found between their quotes. -/
  quotable : ∀ a ∈ i.writtenTag settings, IsQuotable a.2.toList

theorem startsWithTag_renderGeneric (w : Writer) (i : CatalogItem) :
    StartsWithTag (w.renderGeneric i) i.policyId (i.rawAttributes w.settings.namedValueStyle) := by
  unfold Writer.renderGeneric
  dsimp only
  split
  · rename_i t _
    refine ⟨_, .opened ((contentText t).toList ++ (endTag i.policyId).toList), ?_⟩
    simp [Writer.toList_rawAttributes, rawAttributes, Writer.configurationAttributes]
  · refine ⟨_, .closed [], ?_⟩
    simp [Writer.toList_rawAttributes, rawAttributes, Writer.configurationAttributes]

/-- What is written for a policy starts with its tag. -/
theorem startsWithTag_renderCatalog (settings : Settings) (i : CatalogItem) :
    StartsWithTag (({ settings } : Writer).renderCatalog i) i.policyId (i.writtenTag settings) := by
  by_cases hpolicy : i.policyId = SendRequest.policyId
  · rw [Writer.renderCatalog, if_pos hpolicy, writtenTag, if_pos hpolicy, hpolicy]
    exact startsWithTag_serialize _ _
  · rw [Writer.renderCatalog_eq settings i hpolicy]
    cases htemplated : i.templated? with
    | none =>
      rw [writtenTag_of_not_templated? hpolicy htemplated]
      exact startsWithTag_renderGeneric _ i
    | some tc =>
      obtain ⟨t, c⟩ := tc
      rw [writtenTag_of_templated? htemplated, ← policyId_of_templated? htemplated]
      exact t.startsWithTag_render settings c

theorem keys_writtenAttributes (attributes : Attributes) :
    (writtenAttributes attributes).map Prod.fst = attributes.map Prod.fst := by
  simp [writtenAttributes]

/-- A request to another service has each of its attributes once. -/
theorem nodup_keys_toElement (settings : Settings) (s : SendRequest) :
    ((s.toElement settings).attributes.map Prod.fst).Nodup := by
  have hkeys (name : String) (value : Option String) :
      ((SendRequest.attribute? name value).map Prod.fst).Sublist [name] := by
    cases value with
    | none => exact List.nil_sublist _
    | some value => exact List.Sublist.refl _
  have hsublist : ((s.toElement settings).attributes.map Prod.fst).Sublist
      (["mode"] ++ ["response-variable-name"] ++ ["timeout"] ++ ["ignore-error"]) := by
    simp only [SendRequest.toElement, List.map_append]
    exact (((List.Sublist.refl _).append (hkeys _ _)).append (hkeys _ _)).append (hkeys _ _)
  exact List.Nodup.sublist hsublist (by decide)

theorem nodup_keys_writtenTag (settings : Settings) (h : (i.configuration.map Prod.fst).Nodup) :
    ((i.writtenTag settings).map Prod.fst).Nodup := by
  unfold writtenTag
  split
  · rw [keys_writtenAttributes]
    exact nodup_keys_toElement settings _
  · split
    · rw [keys_writtenAttributes, Template.attributes_element]
      exact (Template.nodup_attributeKeys _).sublist (Template.keys_attributes_sublist _ _ _)
    · exact nodup_keys_attributesWith _ _ h

theorem HasLegibleTag.areReadable (h : i.HasLegibleTag settings) : AreReadable (i.writtenTag settings) :=
  ⟨h.names, nodup_keys_writtenTag settings h.distinct, h.quotable⟩

/-- The root of the document of a policy has its name and the attributes of its tag. -/
theorem HasLegibleTag.tag_of_parse (h : i.HasLegibleTag settings) (hname : IsName i.policyId)
    {e : Element} (hparse : parse (({ settings } : Writer).renderCatalog i) = .ok e) :
    e.name = i.policyId ∧ e.attributes = readRaw (i.writtenTag settings) :=
  Xml.tag_of_parse hname h.areReadable (startsWithTag_renderCatalog settings i) hparse

end CatalogItem

theorem Xml.lookup_writtenAttributes (attributes : Attributes) (key : String) :
    (writtenAttributes attributes).lookup key = (attributes.lookup key).map attributeText :=
  lookup_map (fun _ value => attributeText value) attributes key

theorem Xml.lookup_readRaw (raw : Attributes) (key : String) :
    (readRaw raw).lookup key = (raw.lookup key).map unescape :=
  lookup_map (fun _ value => unescape value) raw key

end GatewayPolicy
