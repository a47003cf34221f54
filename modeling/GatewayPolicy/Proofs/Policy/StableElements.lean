import GatewayPolicy.Proofs.Policy.SimpleContent
import GatewayPolicy.Proofs.Policy.StableItems
/-!
# Simple elements that are written alike again

A simple element becomes a policy, which is written by a template or as one element. What is written
is simple again, or complex, and in both cases it is written alike if nothing in it changes its
place: no text turns into a named value, and no parameter vanishes on the way.
-/

namespace GatewayPolicy

open Json Text Xml

variable {settings : Settings} {style : NamedValueStyle} {id : String} {order : Int} {e : Element}
  {t : Template} {i i' : CatalogItem} {key s : String}

/-- What a simple element says stays in its place when it is written. -/
structure KeepsItsPlace (settings : Settings) (e : Element) : Prop where
  /-- Tokens are for names without quotes and ampersands. -/
  tokens : ∀ a ∈ e.attributes, ∀ name, NamedValue.name? a.2 = some name →
    '"' ∉ name.toList ∧ '&' ∉ name.toList
  /-- Where no template is used, no text that becomes an attribute is a token. -/
  parameters : (∀ t, ¬ IsTemplated e t) → ∀ key s, key ≠ textKey → tokenName? e key = none →
    parameterText? e key = some s → NamedValue.isToken s = false
  /-- A message that is written as a leaf is visible. -/
  message : IsTemplated e .trace → ∀ s, parameterText? e "message" = some s →
    isBlankText s = true → s = ""
  /-- There are no raw policies in an attribute. -/
  branches : IsTemplated e .choose → ∀ s,
    (simpleConfiguration settings e).get? "otherwise" ≠ some (.text s)

/-! ## As one element -/

theorem configurationAttributes_eq (style : NamedValueStyle) (i : CatalogItem) :
    Writer.configurationAttributes style i = (i.parameterTexts style).map fun a =>
      (a.1, if NamedValue.isToken a.2 then a.2 else attributeText a.2) := by
  rw [Writer.configurationAttributes, CatalogItem.parameterTexts, List.map_filterMap]
  refine List.filterMap_congr fun a _ => ?_
  simp only [attributeForm?, Option.map_map, Function.comp_def]

theorem renderGeneric_congr (w : Writer) (hpolicy : i'.policyId = i.policyId)
    (hattributes : i'.attributes = i.attributes)
    (hconfiguration : Writer.configurationAttributes w.settings.namedValueStyle i' =
      Writer.configurationAttributes w.settings.namedValueStyle i)
    (htext : Writer.elementText? w.settings.namedValueStyle i' =
      Writer.elementText? w.settings.namedValueStyle i) :
    w.renderGeneric i' = w.renderGeneric i := by
  rw [Writer.renderGeneric, Writer.renderGeneric, hpolicy, hattributes, hconfiguration, htext]

theorem KeepsItsPlace.isToken_of_mem (hkeeps : KeepsItsPlace settings e) (h : IsSimple e)
    (hwf : AreWellFormed e.attributes) (hgeneric : ∀ t, ¬ IsTemplated e t) {a : String × String}
    (ha : a ∈ (simpleCatalogItem settings id order e).parameterTexts style) :
    NamedValue.isToken a.2 = false := by
  obtain ⟨hne, htoken, hs⟩ := of_mem_parameterTexts h hwf ha
  exact hkeeps.parameters hgeneric a.1 a.2 hne htoken hs

theorem children_genericElement (style : NamedValueStyle) (i : CatalogItem) :
    (i.genericElement style).children = ((Writer.elementText? style i).map Node.text).toList := rfl

theorem KeepsItsPlace.isGeneric (hkeeps : KeepsItsPlace settings e) (hname : IsName e.name)
    (h : IsSimple e) (hwf : AreWellFormed e.attributes) (hgeneric : ∀ t, ¬ IsTemplated e t)
    (hclean : ((simpleCatalogItem settings id order e).genericElement style).IsClean) :
    (simpleCatalogItem settings id order e).IsGeneric style := by
  obtain ⟨hattributes, hchildren⟩ :
      AreCleanAttributes ((simpleCatalogItem settings id order e).genericElement style).attributes ∧
        ∀ n ∈ ((simpleCatalogItem settings id order e).genericElement style).children,
          n.IsClean := by
    cases hclean with
    | element _ hattributes hchildren _ => exact ⟨hattributes, hchildren⟩
  refine ⟨hname, ⟨hattributes.names, hattributes.distinct⟩, ?_, ?_, ?_⟩
  · intro a ha
    rw [CatalogItem.IsParameterText,
      if_neg (by simp [hkeeps.isToken_of_mem h hwf hgeneric ha])]
    exact hattributes.values a (List.mem_append_left _ ha)
  · intro a ha
    rw [attributes_simpleCatalogItem] at ha
    obtain ⟨name, v, heq, hv, hname⟩ := exists_of_mem_referenceAttributes hwf ha
    rw [heq]
    exact ⟨NamedValue.isTokenName_of_name? hname,
      hkeeps.tokens (a.1, v) (mem_of_lookup hv) name hname⟩
  · intro s hs
    have htext := hs
    rw [elementText?_simpleCatalogItem settings id order style h hwf] at htext
    obtain ⟨htrim, hne⟩ := trim_of_trimmedText? (Option.filter_eq_some_iff.1 htext).1
    refine ⟨htrim, ?_⟩
    have hnode := hchildren (.text s) (by rw [children_genericElement, hs]; simp)
    cases hnode with
    | text hclean =>
      rw [htrim] at hclean
      refine hclean.resolve_left fun hblank => hne ?_
      rw [← htrim, trim_eq_empty_iff.2 hblank]

theorem isWrittenAs_generic (hgeneric : i.IsGeneric settings.namedValueStyle)
    (hunbroken : (i.genericElement settings.namedValueStyle).IsUnbroken)
    (hrender : ({ settings } : Writer).renderItem (.catalog i) =
      ({ settings } : Writer).renderGeneric i) :
    IsWrittenAs { settings } (.catalog i) (i.genericElement settings.namedValueStyle).node := by
  cases hunbroken with
  | element hvalues hchildren =>
    refine isWrittenAs_of_isLine ?_ ?_ rfl
    · rw [hrender]
      refine Writer.isLine_renderGeneric _ hgeneric.name hgeneric.attributes.names hvalues ?_
      intro s hs
      have hnode := hchildren (.text s) (by rw [children_genericElement, hs]; simp)
      cases hnode with
      | text hunbroken => rwa [(hgeneric.text s hs).1] at hunbroken
    · rw [hrender]
      exact (Writer.readsAsElement_renderGeneric _ hgeneric).inside

theorem isSimple_genericElement (h : IsSimple e) :
    IsSimple ((simpleCatalogItem settings id order e).genericElement style) := by
  have hname : ((simpleCatalogItem settings id order e).genericElement style).name = e.name := by
    rw [CatalogItem.name_genericElement, policyId_simpleCatalogItem]
  have hchildren := children_genericElement style (simpleCatalogItem settings id order e)
  generalize (simpleCatalogItem settings id order e).genericElement style = E at hname hchildren ⊢
  refine ⟨hname ▸ h.ne_base, hname ▸ h.ne_fragment, hname ▸ h.ne_sendRequest, ?_⟩
  rw [hchildren]
  cases Writer.elementText? style (simpleCatalogItem settings id order e) <;> rfl

theorem trimmedText?_genericElement (h : IsSimple e) (hwf : AreWellFormed e.attributes) :
    ((simpleCatalogItem settings id order e).genericElement style).trimmedText? =
      e.trimmedText?.filter fun _ => textKeyOf e = textKey := by
  have htext := elementText?_simpleCatalogItem settings id order style h hwf
  rw [← htext]
  refine trimmedText?_of_texts (children_genericElement style _) fun s hs => ?_
  rw [htext] at hs
  exact trim_of_trimmedText? (Option.filter_eq_some_iff.1 hs).1

/-- The tokens of a simple element stay tokens, and nothing else becomes one. -/
theorem KeepsItsPlace.tokenName?_eq (hkeeps : KeepsItsPlace settings e) (h : IsSimple e)
    (hwf : AreWellFormed e.attributes) (hgeneric : ∀ t, ¬ IsTemplated e t) (key : String) :
    tokenName? ((simpleCatalogItem settings id order e).genericElement style) key =
      tokenName? e key := by
  have hattribute := attribute?_genericElement_simpleCatalogItem settings id order style h hwf key
  rw [tokenName?, hattribute]
  cases hname : tokenName? e key with
  | some name =>
    obtain ⟨v, -, hv⟩ := Option.bind_eq_some_iff.1 hname
    have htoken := NamedValue.name?_token style (NamedValue.isTokenName_of_name? hv)
    rw [Option.map_some, Option.some_or, Option.bind_some, htoken]
  | none =>
    rw [Option.map_none, Option.none_or]
    split
    · rfl
    · rename_i hkey
      cases hs : parameterText? e key with
      | none => rfl
      | some s =>
        have htoken := hkeeps.parameters hgeneric key s hkey hname hs
        simpa [NamedValue.isToken] using htoken

theorem KeepsItsPlace.referenceAttributes_eq (hkeeps : KeepsItsPlace settings e) (h : IsSimple e)
    (hwf : AreWellFormed e.attributes) (hgeneric : ∀ t, ¬ IsTemplated e t)
    (hwf' : AreWellFormed
      ((simpleCatalogItem settings id order e).genericElement style).attributes) :
    referenceAttributes ((simpleCatalogItem settings id order e).genericElement style).attributes =
      referenceAttributes e.attributes := by
  refine NameMap.ext_get? fun key => ?_
  rw [get?_referenceAttributes hwf', get?_referenceAttributes hwf,
    hkeeps.tokenName?_eq h hwf hgeneric]

theorem isSome_literal?_genericElement (h : IsSimple e) (hwf : AreWellFormed e.attributes)
    (hwf' : ∀ key, tokenName? ((simpleCatalogItem settings id order e).genericElement style) key =
      tokenName? e key) {p : String} (hp : (literal? e p).isSome = true) :
    (literal? ((simpleCatalogItem settings id order e).genericElement style) p).isSome = true := by
  obtain ⟨v, hv⟩ := Option.isSome_iff_exists.1 hp
  obtain ⟨hattribute, hliteral⟩ := Option.filter_eq_some_iff.1 hv
  have hkey := ne_textKey_of_attribute? hwf hattribute
  have hnone : tokenName? e p = none := by
    rw [tokenName?, hattribute, Option.bind_some]
    simpa [NamedValue.isToken] using hliteral
  have hparameter : (parameterText? e p).isSome = true := by
    rw [parameterText?, hv, Option.isSome_or]
    simp
  by_contra hno
  have hor := literal?_eq_none_iff.1 (Option.not_isSome_iff_eq_none.1 hno)
  rw [hwf', hnone, attribute?_genericElement_simpleCatalogItem settings id order style h hwf, hnone,
    if_neg hkey, Option.map_none, Option.none_or] at hor
  simp [Option.isSome_iff_ne_none.1 hparameter] at hor

/-- A text that stays under the text key is found there again. -/
theorem KeepsItsPlace.textKeyOf_eq (hkeeps : KeepsItsPlace settings e) (h : IsSimple e)
    (hwf : AreWellFormed e.attributes) (hgeneric : ∀ t, ¬ IsTemplated e t)
    (hkey : textKeyOf e = textKey) :
    textKeyOf ((simpleCatalogItem settings id order e).genericElement style) = textKey := by
  rw [textKeyOf, CatalogItem.name_genericElement, policyId_simpleCatalogItem]
  cases hp : textParameter? e.name with
  | none => rfl
  | some p =>
    have htaken : (literal? e p).isSome = true := by
      by_contra hno
      rw [textKeyOf, hp] at hkey
      dsimp only at hkey
      rw [if_neg hno] at hkey
      rw [hkey] at hp
      exact absurd hp textParameter?_ne_textKey
    have hliteral : (literal? ((simpleCatalogItem settings id order e).genericElement style)
        p).isSome = true :=
      isSome_literal?_genericElement h hwf (hkeeps.tokenName?_eq h hwf hgeneric) htaken
    dsimp only
    rw [if_pos hliteral]

/-! ### The policy that is read back -/

theorem CatalogItem.of_mem_parameterTexts {a : String × String} (ha : a ∈ i.parameterTexts style) :
    a.1 ≠ textKey ∧ i.attributes.contains a.1 = false := by
  obtain ⟨f, hf, hs⟩ := List.mem_filterMap.1 ha
  obtain ⟨s, -, rfl⟩ := Option.map_eq_some_iff.1 hs
  simpa using (List.mem_filter.1 hf).2

/-- The parameters of a policy whose configuration was taken from attribute texts are these
texts. -/
theorem CatalogItem.parameterTexts_of_configuration {enabled : Bool} {parameters : Attributes}
    {rest : Fields}
    (hconfiguration : i.configuration =
      parameters.map (fun a => (a.1, coerce enabled a.2)) ++ rest)
    (hparameters : ∀ a ∈ parameters, a.1 ≠ textKey ∧ i.attributes.contains a.1 = false)
    (hrest : ∀ f ∈ rest, f.1 = textKey) : i.parameterTexts style = parameters := by
  have hkept : ((parameters.map fun a => (a.1, coerce enabled a.2)).filter fun f =>
      f.1 != textKey && !i.attributes.contains f.1) =
        parameters.map fun a => (a.1, coerce enabled a.2) := by
    refine List.filter_eq_self.2 fun f hf => ?_
    obtain ⟨a, ha, rfl⟩ := List.mem_map.1 hf
    obtain ⟨hkey, hfree⟩ := hparameters a ha
    simp [hkey, hfree]
  have hdropped : (rest.filter fun f => f.1 != textKey && !i.attributes.contains f.1) = [] := by
    refine List.filter_eq_nil_iff.2 fun f hf => ?_
    simp [hrest f hf]
  rw [CatalogItem.parameterTexts, hconfiguration, List.filter_append, hkept, hdropped,
    List.append_nil, List.filterMap_map]
  have hself (a : String × String) :
      (scalarText? style (coerce enabled a.2)).map (fun s => (a.1, s)) = some a := by
    rw [scalarText?_coerce, Option.map_some]
  simp only [Function.comp_def, hself, List.filterMap_some]

theorem isToken_of_mem_attributeTexts (hwf : AreWellFormed e.attributes) {a : String × String}
    (ha : a ∈ (simpleCatalogItem settings id order e).attributeTexts style) :
    NamedValue.isToken a.2 = true := by
  obtain ⟨b, hb, rfl⟩ := List.mem_map.1 ha
  rw [attributes_simpleCatalogItem] at hb
  obtain ⟨name, v, heq, -, hname⟩ := exists_of_mem_referenceAttributes hwf hb
  dsimp only
  rw [heq]
  exact NamedValue.isToken_token style (NamedValue.isTokenName_of_name? hname)

/-- The literal attributes of the element are the parameters. -/
theorem KeepsItsPlace.literals_eq (hkeeps : KeepsItsPlace settings e) (h : IsSimple e)
    (hwf : AreWellFormed e.attributes) (hgeneric : ∀ t, ¬ IsTemplated e t) :
    (((simpleCatalogItem settings id order e).genericElement style).attributes.filter fun a =>
      !NamedValue.isToken a.2) = (simpleCatalogItem settings id order e).parameterTexts style := by
  have hparameters : ∀ a ∈ (simpleCatalogItem settings id order e).parameterTexts style,
      (!NamedValue.isToken a.2) = true := fun a ha => by
    rw [hkeeps.isToken_of_mem h hwf hgeneric ha, Bool.not_false]
  have htokens : ∀ a ∈ (simpleCatalogItem settings id order e).attributeTexts style,
      ¬ (!NamedValue.isToken a.2) = true := fun a ha => by
    rw [isToken_of_mem_attributeTexts hwf ha]
    decide
  rw [CatalogItem.genericElement, List.filter_append, List.filter_eq_self.2 hparameters,
    List.filter_eq_nil_iff.2 htokens, List.append_nil]

/-- The configuration that is read back holds the parameters, and the text under its key. -/
theorem KeepsItsPlace.exists_simpleConfiguration (hkeeps : KeepsItsPlace settings e)
    (h : IsSimple e) (hwf : AreWellFormed e.attributes) (hgeneric : ∀ t, ¬ IsTemplated e t)
    (hwf' : AreWellFormed
      ((simpleCatalogItem settings id order e).genericElement style).attributes) :
    ∃ rest : Fields, (∀ f ∈ rest, f.1 = textKey) ∧
      simpleConfiguration settings ((simpleCatalogItem settings id order e).genericElement style) =
        ((simpleCatalogItem settings id order e).parameterTexts style).map (fun a =>
          (a.1, coerce settings.coerceScalars a.2)) ++ rest := by
  have hleaves := childElements_of_children_texts
    (children_genericElement style (simpleCatalogItem settings id order e))
  have hnamed : namedFields settings
      ((simpleCatalogItem settings id order e).genericElement style) =
        ((simpleCatalogItem settings id order e).parameterTexts style).map fun a =>
          (a.1, coerce settings.coerceScalars a.2) := by
    rw [namedFields, leafFields, hleaves, parameterAttributes_eq settings hwf'.distinct,
      hkeeps.literals_eq h hwf hgeneric]
    rfl
  have htext : ((simpleCatalogItem settings id order e).genericElement style).trimmedText? =
      e.trimmedText?.filter fun _ => textKeyOf e = textKey := trimmedText?_genericElement h hwf
  cases ht : ((simpleCatalogItem settings id order e).genericElement style).trimmedText? with
  | none =>
    refine ⟨[], by simp, ?_⟩
    rw [simpleConfiguration_of_no_text settings ht, hnamed, List.append_nil]
  | some t =>
    rw [ht] at htext
    obtain ⟨-, hkey⟩ := Option.filter_eq_some_iff.1 htext.symm
    have hkey' : textKeyOf ((simpleCatalogItem settings id order e).genericElement style) =
        textKey := hkeeps.textKeyOf_eq h hwf hgeneric (by simpa using hkey)
    refine ⟨[(textKey, .text t)], by simp, ?_⟩
    rw [simpleConfiguration_of_text settings (isSimple_genericElement h) hwf' ht, hkey', hnamed,
      Fields.set_of_notMem]
    intro hm
    rw [List.map_map] at hm
    obtain ⟨a, ha, heq⟩ := List.mem_map.1 hm
    exact (CatalogItem.of_mem_parameterTexts ha).1 heq

/-- Where no template is used, none is used for the element that is written. -/
theorem KeepsItsPlace.not_isTemplated (hkeeps : KeepsItsPlace settings e) (h : IsSimple e)
    (hwf : AreWellFormed e.attributes) (hgeneric : ∀ t, ¬ IsTemplated e t) (t : Template) :
    ¬ IsTemplated ((simpleCatalogItem settings id order e).genericElement style) t := by
  have hname : ((simpleCatalogItem settings id order e).genericElement style).name = e.name := by
    rw [CatalogItem.name_genericElement, policyId_simpleCatalogItem]
  have htokens : ∀ key, tokenName? ((simpleCatalogItem settings id order e).genericElement style)
      key = tokenName? e key := hkeeps.tokenName?_eq h hwf hgeneric
  have htext : ((simpleCatalogItem settings id order e).genericElement style).trimmedText? =
      e.trimmedText?.filter fun _ => textKeyOf e = textKey := trimmedText?_genericElement h hwf
  have htextKey : textKeyOf e = textKey → textKeyOf ((simpleCatalogItem settings id order
      e).genericElement style) = textKey := hkeeps.textKeyOf_eq h hwf hgeneric
  generalize (simpleCatalogItem settings id order e).genericElement style = E at *
  intro ht
  refine hgeneric t ⟨hname ▸ ht.template, fun a ha => ?_, ?_⟩
  · -- A token of the element would be one of the tokens that are written.
    by_contra htoken
    obtain ⟨name, hname⟩ := NamedValue.isToken_iff.1 (by simpa using htoken)
    have hread : tokenName? e a.1 = some name := by
      rw [tokenName?, Element.attribute?, lookup_of_mem hwf.distinct (show (a.1, a.2) ∈ _ from ha),
        Option.bind_some, hname]
    rw [← htokens] at hread
    obtain ⟨v, hv, hname'⟩ := Option.bind_eq_some_iff.1 hread
    have hliteral := ht.literal (a.1, v) (mem_of_lookup hv)
    rw [NamedValue.isToken, hname'] at hliteral
    simp at hliteral
  · -- A text that is written is found under the text key again, where no template looks for it.
    by_cases hkey : textKeyOf e = textKey
    · rw [ht.text.resolve_right fun hne => hne (htextKey hkey)] at htext
      refine .inl ?_
      cases hs : e.trimmedText? with
      | none => rfl
      | some s =>
        rw [hs, Option.filter_some, if_pos (by simpa using hkey)] at htext
        exact htext.symm
    · exact .inr hkey

/-- What is read back of the element is written as one element again, with the same attributes and
the same text. -/
theorem KeepsItsPlace.renderItem_genericElement (hkeeps : KeepsItsPlace settings e)
    (h : IsSimple e) (hwf : AreWellFormed e.attributes) (hgeneric : ∀ t, ¬ IsTemplated e t)
    (hwf' : AreWellFormed ((simpleCatalogItem settings id order e).genericElement
      settings.namedValueStyle).attributes) (id' : String) (order' : Int) :
    ({ settings } : Writer).renderItem (simpleItem settings id' order'
        ((simpleCatalogItem settings id order e).genericElement settings.namedValueStyle)) =
      ({ settings } : Writer).renderItem (simpleItem settings id order e) := by
  have h' : IsSimple ((simpleCatalogItem settings id order e).genericElement
      settings.namedValueStyle) := isSimple_genericElement h
  have hgeneric' : ∀ t, ¬ IsTemplated ((simpleCatalogItem settings id order e).genericElement
      settings.namedValueStyle) t := hkeeps.not_isTemplated h hwf hgeneric
  have hattributes := hkeeps.referenceAttributes_eq h hwf hgeneric hwf'
  have htext : ((simpleCatalogItem settings id order e).genericElement
      settings.namedValueStyle).trimmedText? = e.trimmedText?.filter fun _ => textKeyOf e = textKey :=
    trimmedText?_genericElement h hwf
  have hkey : textKeyOf e = textKey → textKeyOf ((simpleCatalogItem settings id order
      e).genericElement settings.namedValueStyle) = textKey := hkeeps.textKeyOf_eq h hwf hgeneric
  have hname : ((simpleCatalogItem settings id order e).genericElement
      settings.namedValueStyle).name = e.name := by
    rw [CatalogItem.name_genericElement, policyId_simpleCatalogItem]
  obtain ⟨rest, hrest, hconfiguration⟩ := hkeeps.exists_simpleConfiguration h hwf hgeneric hwf'
  rw [renderItem_simpleItem_of_generic id order h hwf hgeneric]
  -- From here on the element counts only through the facts above.
  generalize (simpleCatalogItem settings id order e).genericElement settings.namedValueStyle = E
    at *
  rw [renderItem_simpleItem_of_generic id' order' h' hwf' hgeneric']
  refine renderGeneric_congr _ hname ?_ ?_ ?_
  · rw [attributes_simpleCatalogItem, attributes_simpleCatalogItem, hattributes]
  · rw [configurationAttributes_eq, configurationAttributes_eq]
    refine congrArg _ (CatalogItem.parameterTexts_of_configuration
      ((configuration_simpleCatalogItem ..).trans hconfiguration) (fun a ha => ?_) hrest)
    rw [attributes_simpleCatalogItem, hattributes, ← attributes_simpleCatalogItem settings id order]
    exact CatalogItem.of_mem_parameterTexts ha
  · rw [elementText?_simpleCatalogItem settings id' order' _ h' hwf',
      elementText?_simpleCatalogItem settings id order _ h hwf, htext]
    by_cases hk : textKeyOf e = textKey
    · simp [hk, hkey hk]
    · simp [hk]

theorem KeepsItsPlace.isStableAs_generic (hkeeps : KeepsItsPlace settings e) (hname : IsName e.name)
    (h : IsSimple e) (hwf : AreWellFormed e.attributes) (hgeneric : ∀ t, ¬ IsTemplated e t)
    (hclean : ((simpleCatalogItem settings id order e).genericElement
      settings.namedValueStyle).IsClean)
    (hunbroken : ((simpleCatalogItem settings id order e).genericElement
      settings.namedValueStyle).IsUnbroken) :
    IsStableAs settings (simpleItem settings id order e)
      ((simpleCatalogItem settings id order e).genericElement settings.namedValueStyle).node := by
  have hitem := hkeeps.isGeneric hname h hwf hgeneric hclean
  refine ⟨isWrittenAs_generic hitem hunbroken
    (renderItem_simpleItem_of_generic id order h hwf hgeneric), ?_⟩
  refine isReadAs_node fun e' htidy id' order' => ⟨simpleItem settings id' order' e', ?_, ?_⟩
  · rw [elementItem?, shape_eq_of_tidy_eq htidy, (isSimple_genericElement h).shape_eq]
  · rw [simpleItem_eq_of_tidy_eq settings id' order' htidy
      (CatalogItem.isFlat_genericElement _ _)]
    exact hkeeps.renderItem_genericElement h hwf hgeneric hitem.attributes id' order'

end GatewayPolicy
