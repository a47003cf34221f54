import GatewayPolicy.Proofs.Policy.SimpleElement
/-!
# What a simple element keeps as an item

A simple element becomes a flat configuration, and the writer decides from that configuration alone
whether the policy has its template or becomes one element. That element has all of the content if
and only if the content fits the way it is written.
-/

namespace GatewayPolicy

open Json Text Xml

/-! ## Content -/

/-- What an attribute value means. Two tokens for one name mean the same, however they are
written. -/
def attributeMeaning (value : String) : AttributeValue :=
  match NamedValue.name? value with
  | some name => .namedValue { name }
  | none => .literal value

/-- The name and the trimmed text of a leaf. -/
def leafContent (e : Element) : String × Option String := (e.name, e.trimmedText?)

/-- The elements have one name, attributes of one meaning, one trimmed text and leaves with one
name and one trimmed text. -/
structure SameContent (e e' : Element) : Prop where
  /-- The name. -/
  name : e'.name = e.name
  /-- The attributes, whatever their order. -/
  attributes : ∀ key, (e'.attribute? key).map attributeMeaning =
    (e.attribute? key).map attributeMeaning
  /-- The trimmed text. -/
  text : e'.trimmedText? = e.trimmedText?
  /-- The leaves, in order. -/
  leaves : e'.childElements.map leafContent = e.childElements.map leafContent

variable {e e' E : Element} {settings : Settings} {style : NamedValueStyle} {t : Template}

/-- The element and its children have at most one visible piece of character data each. -/
structure IsFlat (e : Element) : Prop where
  /-- The element itself. -/
  text : (visibleCharacters e.children).length ≤ 1
  /-- Its children. -/
  leaves : ∀ c ∈ e.childElements, (visibleCharacters c.children).length ≤ 1

theorem childElements_of_children_texts {s : Option String}
    (hc : e.children = (s.map Node.text).toList) : e.childElements = [] := by
  rw [Element.childElements, hc]
  cases s <;> rfl

theorem isFlat_of_children_texts {s : Option String} (hc : e.children = (s.map Node.text).toList) :
    IsFlat e := by
  constructor
  · have hlength : e.children.length ≤ 1 := by
      rw [hc]
      cases s <;> simp
    exact (length_visibleCharacters_le e.children).trans hlength
  · rw [childElements_of_children_texts hc]
    simp

theorem isFlat_of_children_leaves (name : String) (ss : List String)
    (hc : e.children = ss.map (Template.leaf name)) : IsFlat e := by
  constructor
  · have hnone : visibleCharacters e.children = [] := by
      refine visibleCharacters_eq_nil fun n hn => ?_
      rw [hc] at hn
      obtain ⟨s, -, rfl⟩ := List.mem_map.1 hn
      rfl
    rw [hnone]
    exact Nat.zero_le 1
  · intro d hd
    rw [Element.childElements, hc] at hd
    obtain ⟨n, hn, heq⟩ := List.mem_filterMap.1 hd
    obtain ⟨s, -, rfl⟩ := List.mem_map.1 hn
    obtain rfl := Option.some.inj heq
    exact length_visibleCharacters_le [.text s]

theorem Template.isFlat_element (style : NamedValueStyle) (c : Fields) (t : Template) :
    IsFlat (t.element style c) := by
  cases t with
  | checkHeader => exact isFlat_of_children_leaves "value" (texts style c "values") rfl
  | trace =>
    refine isFlat_of_children_leaves "message" (text? style c "message").toList ?_
    rw [element]
    cases text? style c "message" <;> rfl
  | choose => exact isFlat_of_children_texts (s := none) rfl
  | _ => exact isFlat_of_children_texts rfl

theorem CatalogItem.isFlat_genericElement (style : NamedValueStyle) (i : CatalogItem) :
    IsFlat (i.genericElement style) :=
  isFlat_of_children_texts rfl

theorem map_leafContent_of_tidy_eq {cs cs' : List Element}
    (h : cs'.map Element.tidy = cs.map Element.tidy)
    (hone : ∀ c ∈ cs, (visibleCharacters c.children).length ≤ 1) :
    cs'.map leafContent = cs.map leafContent := by
  induction cs generalizing cs' with
  | nil =>
    rw [List.map_nil, List.map_eq_nil_iff] at h
    rw [h]
  | cons c cs ih =>
    cases cs' with
    | nil => simp at h
    | cons c' cs' =>
      rw [List.map_cons, List.map_cons] at h
      obtain ⟨hc, hcs⟩ := List.cons.inj h
      obtain ⟨hone, hones⟩ := List.forall_mem_cons.1 hone
      have hname := name_eq_of_tidy_eq hc
      rw [List.map_cons, List.map_cons, ih hcs hones, leafContent, leafContent, hname,
        trimmedText?_eq_of_tidy_eq hc hone]

/-- What is read back of a flat element has the content that the element has. -/
theorem sameContent_iff_of_tidy_eq (htidy : e'.tidy = E.tidy) (hflat : IsFlat E) :
    SameContent e e' ↔ SameContent e E := by
  have hname := name_eq_of_tidy_eq htidy
  have hattribute (key : String) : e'.attribute? key = E.attribute? key := by
    rw [Element.attribute?, attributes_eq_of_tidy_eq htidy, ← Element.attribute?]
  have htext := trimmedText?_eq_of_tidy_eq htidy hflat.text
  have hleaves : e'.childElements.map leafContent = E.childElements.map leafContent := by
    have hchildren := congrArg Element.childElements htidy
    rw [childElements_tidy, childElements_tidy] at hchildren
    exact map_leafContent_of_tidy_eq hchildren hflat.leaves
  constructor
  · intro h
    refine ⟨hname.symm.trans h.name, fun key => ?_, htext.symm.trans h.text,
      hleaves.symm.trans h.leaves⟩
    rw [← hattribute, h.attributes]
  · intro h
    refine ⟨hname.trans h.name, fun key => ?_, htext.trans h.text, hleaves.trans h.leaves⟩
    rw [hattribute, h.attributes]

theorem leafFields_eq (e : Element) :
    leafFields e = (e.childElements.map leafContent).filterMap fun c =>
      c.2.map fun t => (c.1, .text t) := by
  simp only [leafFields, List.filterMap_map, Function.comp_def, leafContent]

/-- What is read back of a flat element becomes the same item. -/
theorem simpleItem_eq_of_tidy_eq (settings : Settings) (id : String) (order : Int)
    (htidy : e'.tidy = e.tidy) (hflat : IsFlat e) :
    simpleItem settings id order e' = simpleItem settings id order e := by
  have hname := name_eq_of_tidy_eq htidy
  have hattributes := attributes_eq_of_tidy_eq htidy
  have htext := trimmedText?_eq_of_tidy_eq htidy hflat.text
  have hleaves : leafFields e' = leafFields e := by
    have hchildren := congrArg Element.childElements htidy
    rw [childElements_tidy, childElements_tidy] at hchildren
    rw [leafFields_eq, leafFields_eq, map_leafContent_of_tidy_eq hchildren hflat.leaves]
  have hconfiguration : simpleConfiguration settings e' = simpleConfiguration settings e := by
    rw [simpleConfiguration, simpleConfiguration, hleaves, hattributes, htext, hname]
  rw [simpleItem, simpleItem, hname, hattributes, hconfiguration]

/-! ## Conditions -/

/-- Every value and text of the element can be written: literal values and texts are clean, and
tokens are for names without quotes and ampersands. -/
structure HasCleanContent (e : Element) : Prop where
  /-- The literal values. -/
  values : ∀ a ∈ e.attributes, NamedValue.isToken a.2 = false → IsCleanValue a.2
  /-- The tokens. -/
  tokens : ∀ a ∈ e.attributes, ∀ name, NamedValue.name? a.2 = some name →
    '"' ∉ name.toList ∧ '&' ∉ name.toList
  /-- The text. -/
  text : ∀ s, e.trimmedText? = some s → IsCleanText s
  /-- The leaves. -/
  leaves : ∀ c ∈ e.childElements, ∀ s, c.trimmedText? = some s → IsCleanText s

/-- The tokens among the texts of the element have no quotes and ampersands, so that they could be
written as attribute values. -/
structure HasPlainTokens (e : Element) : Prop where
  /-- The text. -/
  text : ∀ s, e.trimmedText? = some s → NamedValue.isToken s = true →
    '"' ∉ s.toList ∧ '&' ∉ s.toList
  /-- The leaves. -/
  leaves : ∀ c ∈ e.childElements, ∀ s, c.trimmedText? = some s → NamedValue.isToken s = true →
    '"' ∉ s.toList ∧ '&' ∉ s.toList

/-- What the element has fits the way its item is written. A template writes the attributes it knows
unless they are empty, and the leaves that have a text. Without a template there are no leaves, and a
text is written as the text of the element only if it is under the text key. -/
structure FitsItsItem (e : Element) : Prop where
  /-- Where the template is used. -/
  templated : ∀ t, IsTemplated e t →
    (∀ a ∈ e.attributes, a.1 ∈ t.attributeKeys ∧ a.2 ≠ "") ∧
      ∀ c ∈ e.childElements, c.trimmedText? ≠ none
  /-- Where no template is used. -/
  generic : (∀ t, ¬ IsTemplated e t) →
    e.childElements = [] ∧ (e.trimmedText? = none ∨ textKeyOf e = textKey)

/-! ## As one element -/

theorem literal?_of_attribute? {key v : String} (h : e.attribute? key = some v)
    (hv : NamedValue.isToken v = false) : literal? e key = some v := by
  rw [literal?, h]
  simp [Option.filter, hv]

theorem isCleanValue_of_literal? {key v : String} (hclean : HasCleanContent e)
    (h : literal? e key = some v) : IsCleanValue v := by
  obtain ⟨hv, htoken⟩ := Option.filter_eq_some_iff.1 h
  exact hclean.values (key, v) (mem_of_lookup hv) (by simpa using htoken)

theorem elementText?_simpleCatalogItem (settings : Settings) (id : String) (order : Int)
    (style : NamedValueStyle) (h : IsSimple e) (hwf : AreWellFormed e.attributes) :
    Writer.elementText? style (simpleCatalogItem settings id order e) =
      e.trimmedText?.filter fun _ => textKeyOf e = textKey := by
  rw [Writer.elementText?, configuration_simpleCatalogItem,
    scalarText?_simpleConfiguration settings style h hwf, parameterText?_textKey h hwf,
    Option.filter_filter]
  cases ht : e.trimmedText? with
  | none => rfl
  | some s =>
    have hne := (trim_of_trimmedText? ht).2
    simp [Option.filter, hne]

theorem of_mem_parameterTexts (h : IsSimple e) (hwf : AreWellFormed e.attributes) {id : String}
    {order : Int} {a : String × String}
    (ha : a ∈ (simpleCatalogItem settings id order e).parameterTexts style) :
    a.1 ≠ textKey ∧ tokenName? e a.1 = none ∧ parameterText? e a.1 = some a.2 := by
  have hdistinct := nodup_keys_simpleConfiguration settings h hwf
  have hlookup := lookup_of_mem (hdistinct.sublist (by
    rw [← configuration_simpleCatalogItem settings id order e]
    exact CatalogItem.keys_parameterTexts_sublist style _)) (show (a.1, a.2) ∈ _ from ha)
  rw [CatalogItem.lookup_parameterTexts style (by rwa [configuration_simpleCatalogItem]),
    configuration_simpleCatalogItem, attributes_simpleCatalogItem,
    scalarText?_simpleConfiguration settings style h hwf] at hlookup
  split at hlookup
  · rename_i hkey
    obtain ⟨hne, hcontains⟩ := Bool.and_eq_true_iff.1 hkey
    refine ⟨by simpa using hne, ?_, hlookup⟩
    cases hname : tokenName? e a.1 with
    | none => rfl
    | some name =>
      have hsome : ((referenceAttributes e.attributes).get? a.1).isSome = true := by
        rw [get?_referenceAttributes hwf, hname]
        rfl
      rw [NameMap.contains_iff.2 hsome] at hcontains
      simp at hcontains
  · simp at hlookup

/-- An item of a simple element can be written as one element if its parameters can. -/
theorem isGeneric_simpleCatalogItem (settings : Settings) (id : String) (order : Int)
    (style : NamedValueStyle) (hname : IsName e.name) (h : IsSimple e)
    (hwf : AreWellFormed e.attributes) (hclean : HasCleanContent e)
    (hparameters : ∀ key s, key ≠ textKey → parameterText? e key = some s →
      CatalogItem.IsParameterText s) :
    (simpleCatalogItem settings id order e).IsGeneric style := by
  have hdistinct := nodup_keys_simpleConfiguration settings h hwf
  constructor
  · exact hname
  · refine CatalogItem.areWellFormed_genericElement style ?_ ?_ ?_
    · rwa [configuration_simpleCatalogItem]
    · intro key hkey hne
      refine isName_of_parameterText? h hwf hne fun hnone => ?_
      rw [configuration_simpleCatalogItem] at hkey
      rw [← get?_simpleConfiguration_eq_none_iff settings h hwf, Fields.get?,
        lookup_eq_none_iff] at hnone
      exact hnone hkey
    · intro key hkey
      rw [attributes_simpleCatalogItem] at hkey
      have hsome : (referenceAttributes e.attributes).get? key ≠ none :=
        fun hnone => lookup_eq_none_iff.1 hnone hkey
      rw [get?_referenceAttributes hwf, ne_eq, Option.map_eq_none_iff] at hsome
      obtain ⟨name, hn⟩ := Option.ne_none_iff_exists'.1 hsome
      obtain ⟨v, hv, -⟩ := Option.bind_eq_some_iff.1 hn
      exact isName_of_attribute? hwf hv
  · intro a ha
    obtain ⟨hne, -, hs⟩ := of_mem_parameterTexts h hwf ha
    exact hparameters a.1 a.2 hne hs
  · intro a ha
    rw [attributes_simpleCatalogItem] at ha
    obtain ⟨name, v, heq, hv, hname⟩ := exists_of_mem_referenceAttributes hwf ha
    rw [heq]
    exact ⟨NamedValue.isTokenName_of_name? hname,
      hclean.tokens (a.1, v) (mem_of_lookup hv) name hname⟩
  · intro s hs
    rw [elementText?_simpleCatalogItem settings id order style h hwf] at hs
    have ht := (Option.filter_eq_some_iff.1 hs).1
    exact ⟨(trim_of_trimmedText? ht).1, hclean.text s ht⟩

theorem attributeMeaning_of_name? {v name : String} (h : NamedValue.name? v = some name) :
    attributeMeaning v = .namedValue { name } := by
  rw [attributeMeaning, h]

theorem leafText?_of_childElements_nil (h : e.childElements = []) (key : String) :
    leafText? e key = none := by
  rw [leafText?, h]
  rfl

theorem ne_textKey_of_attribute? {key v : String} (hwf : AreWellFormed e.attributes)
    (h : e.attribute? key = some v) : key ≠ textKey := by
  rintro rfl
  exact absurd (isName_of_attribute? hwf h) (by decide)

theorem attribute?_genericElement_simpleCatalogItem (settings : Settings) (id : String)
    (order : Int) (style : NamedValueStyle) (h : IsSimple e) (hwf : AreWellFormed e.attributes)
    (key : String) :
    ((simpleCatalogItem settings id order e).genericElement style).attribute? key =
      ((tokenName? e key).map (NamedValue.token style)).or
        (if key = textKey then none else parameterText? e key) := by
  have hdistinct : ((simpleCatalogItem settings id order e).configuration.map Prod.fst).Nodup := by
    rw [configuration_simpleCatalogItem]
    exact nodup_keys_simpleConfiguration settings h hwf
  have hattribute := CatalogItem.attribute?_genericElement style hdistinct key
  rw [configuration_simpleCatalogItem, attributes_simpleCatalogItem,
    scalarText?_simpleConfiguration settings style h hwf, get?_referenceAttributes hwf,
    Option.map_map] at hattribute
  exact hattribute

/-- Without leaves and with its text under the text key, the parameters are the literal attributes. -/
theorem parameterText?_eq_literal? (hleaves : e.childElements = [])
    (htext : e.trimmedText? = none ∨ textKeyOf e = textKey) {key : String} (hkey : key ≠ textKey) :
    parameterText? e key = literal? e key := by
  have hnone : (e.trimmedText?.filter fun _ => key = textKeyOf e) = none := by
    rcases htext with hnone | htextKey
    · rw [hnone]
      rfl
    · rw [Option.filter_eq_none_iff]
      intro s _
      simpa [htextKey] using hkey
  rw [parameterText?, hnone, leafText?_of_childElements_nil hleaves]
  rfl

/-- One element has the text of a simple element only if it is under the text key. -/
theorem children_genericElement_simpleCatalogItem (settings : Settings) (id : String)
    (order : Int) (style : NamedValueStyle) (h : IsSimple e) (hwf : AreWellFormed e.attributes) :
    ((simpleCatalogItem settings id order e).genericElement style).children =
      ((e.trimmedText?.filter fun _ => textKeyOf e = textKey).map Node.text).toList := by
  rw [CatalogItem.genericElement, elementText?_simpleCatalogItem settings id order style h hwf]

/-- Without leaves and with its text under the text key, an element is its item as one element. -/
theorem sameContent_genericElement (settings : Settings) (id : String) (order : Int)
    (style : NamedValueStyle) (h : IsSimple e) (hwf : AreWellFormed e.attributes)
    (hleaves : e.childElements = []) (htext : e.trimmedText? = none ∨ textKeyOf e = textKey) :
    SameContent e ((simpleCatalogItem settings id order e).genericElement style) := by
  have hfilter : (e.trimmedText?.filter fun _ => textKeyOf e = textKey) = e.trimmedText? := by
    rcases htext with hnone | hkey
    · rw [hnone]
      rfl
    · cases e.trimmedText? <;> simp [Option.filter, hkey]
  have hchildren := children_genericElement_simpleCatalogItem settings id order style h hwf
  rw [hfilter] at hchildren
  have hparameter (key : String) (hkey : key ≠ textKey) : parameterText? e key = literal? e key :=
    parameterText?_eq_literal? hleaves htext hkey
  constructor
  · rw [CatalogItem.name_genericElement, policyId_simpleCatalogItem]
  · intro key
    rw [attribute?_genericElement_simpleCatalogItem settings id order style h hwf]
    cases hv : e.attribute? key with
    | none =>
      have hliteral : literal? e key = none := by
        rw [literal?, hv]
        rfl
      have htoken : tokenName? e key = none := by
        rw [tokenName?, hv]
        rfl
      by_cases hkey : key = textKey
      · rw [htoken, if_pos hkey]
        rfl
      · rw [htoken, if_neg hkey, hparameter key hkey, hliteral]
        rfl
    | some v =>
      have hkey := ne_textKey_of_attribute? hwf hv
      cases hname : NamedValue.name? v with
      | some name =>
        have htoken := NamedValue.name?_token style (NamedValue.isTokenName_of_name? hname)
        simp only [tokenName?, hv, Option.bind_some, hname, Option.map_some, Option.some_or,
          attributeMeaning_of_name? hname, attributeMeaning_of_name? htoken]
      | none =>
        have hliteral := literal?_of_attribute? hv (by simp [NamedValue.isToken, hname])
        simp [tokenName?, hv, hname, hkey, hparameter key hkey, hliteral]
  · exact trimmedText?_of_texts hchildren fun _ ht => trim_of_trimmedText? ht
  · rw [hleaves, childElements_of_children_texts hchildren]

/-! ## By a template -/

/-- A parameter that a template writes as an attribute is neither the text nor a leaf. -/
theorem Template.of_mem_attributeKeys {key : String} (h : key ∈ t.attributeKeys) :
    key ≠ textKey ∧ textParameter? t.policyId ≠ some key ∧ key ∉ leafParameters t.policyId := by
  have hall : ∀ k ∈ t.attributeKeys, k ≠ textKey ∧ textParameter? t.policyId ≠ some k ∧
      k ∉ leafParameters t.policyId := by
    cases t <;> decide
  exact hall key h

theorem IsTemplated.name_eq (ht : IsTemplated e t) : e.name = t.policyId :=
  (Template.policyId_of_ofPolicy? ht.template).symm

/-- A text of a policy that carries no parameter as text would be kept under the text key. -/
theorem IsTemplated.trimmedText?_eq_none (ht : IsTemplated e t)
    (hp : textParameter? t.policyId = none) : e.trimmedText? = none := by
  refine ht.text.resolve_right fun hne => hne ?_
  rw [textKeyOf, ht.name_eq, hp]

theorem literal?_of_literal (hliteral : ∀ a ∈ e.attributes, NamedValue.isToken a.2 = false)
    (key : String) : literal? e key = e.attribute? key := by
  cases hv : e.attribute? key with
  | none =>
    rw [literal?, hv]
    rfl
  | some v => exact literal?_of_attribute? hv (hliteral (key, v) (mem_of_lookup hv))

theorem attribute?_eq_none_of_notMem {keys : List String} {key : String}
    (hkeys : ∀ a ∈ e.attributes, a.1 ∈ keys) (h : key ∉ keys) : e.attribute? key = none := by
  rw [Element.attribute?, lookup_eq_none_iff]
  intro hm
  obtain ⟨a, ha, heq⟩ := List.mem_map.1 hm
  exact h (heq ▸ hkeys a ha)

/-- The text of a templated element is the parameter that the policy carries as text. -/
theorem IsTemplated.textKeyOf_eq (ht : IsTemplated e t)
    (hkeys : ∀ a ∈ e.attributes, a.1 ∈ t.attributeKeys) {p : String}
    (hp : textParameter? t.policyId = some p) : textKeyOf e = p := by
  have hfree : literal? e p = none := by
    rw [literal?_of_literal ht.literal]
    exact attribute?_eq_none_of_notMem hkeys fun hm => (Template.of_mem_attributeKeys hm).2.1 hp
  rw [textKeyOf, ht.name_eq, hp]
  dsimp only
  rw [hfree, if_neg (by simp)]

theorem leafText?_of_notMem (h : IsSimple e) {key : String} (hkey : key ∉ leafParameters e.name) :
    leafText? e key = none := by
  rcases h.childElements with hc | ⟨c, hc⟩
  · exact leafText?_of_childElements_nil hc key
  · obtain ⟨hname, hmessage, -⟩ := h.leaf (show c ∈ e.childElements by simp [hc])
    have hne : c.name ≠ key := by
      rintro rfl
      exact hkey (by rw [hname, hmessage]; decide)
    rw [leafText?, hc, List.find?_singleton, if_neg (by simpa using hne)]
    rfl

/-- A parameter that a template writes as an attribute is an attribute. -/
theorem IsTemplated.parameterText?_of_mem (h : IsSimple e) (ht : IsTemplated e t)
    {key : String} (hkey : key ∈ t.attributeKeys) :
    parameterText? e key = e.attribute? key := by
  obtain ⟨hne, hparameter, hleaf⟩ := Template.of_mem_attributeKeys hkey
  have hother : key ≠ textKeyOf e := by
    rw [textKeyOf, ht.name_eq]
    cases hp : textParameter? t.policyId with
    | none => exact hne
    | some p =>
      dsimp only
      split
      · exact hne
      · rintro rfl
        exact hparameter hp
  rw [parameterText?, leafText?_of_notMem h (by rwa [ht.name_eq]), literal?_of_literal ht.literal,
    Option.filter_eq_none_iff.2 fun _ _ => by simpa using hother]
  rfl

/-- A parameter that is no attribute of the template is the text or a leaf. -/
theorem IsTemplated.parameterText?_of_notMem (ht : IsTemplated e t)
    (hkeys : ∀ a ∈ e.attributes, a.1 ∈ t.attributeKeys) {key : String}
    (hkey : key ∉ t.attributeKeys) :
    parameterText? e key = (e.trimmedText?.filter fun _ => key = textKeyOf e).or
      (leafText? e key) := by
  rw [parameterText?, literal?_of_literal ht.literal, attribute?_eq_none_of_notMem hkeys hkey,
    Option.or_none]

theorem text?_simpleConfiguration (settings : Settings) (style : NamedValueStyle)
    (h : IsSimple e) (hwf : AreWellFormed e.attributes) (key : String) :
    Template.text? style (simpleConfiguration settings e) key =
      (parameterText? e key).filter (!·.isEmpty) := by
  rw [Template.text?, scalarText?_simpleConfiguration settings style h hwf]

theorem IsTemplated.attribute?_element (settings : Settings) (style : NamedValueStyle)
    (h : IsSimple e) (hwf : AreWellFormed e.attributes) (ht : IsTemplated e t)
    (hattributes : ∀ a ∈ e.attributes, a.1 ∈ t.attributeKeys ∧ a.2 ≠ "") (key : String) :
    (t.element style (simpleConfiguration settings e)).attribute? key = e.attribute? key := by
  rw [Element.attribute?, Template.attributes_element,
    Template.lookup_attributes style _ (Template.nodup_attributeKeys t)]
  by_cases hkey : key ∈ t.attributeKeys
  · rw [if_pos hkey, text?_simpleConfiguration settings style h hwf,
      IsTemplated.parameterText?_of_mem h ht hkey]
    cases hv : e.attribute? key with
    | none => rfl
    | some v =>
      have hne := (hattributes (key, v) (mem_of_lookup hv)).2
      simpa [Option.filter] using hne
  · rw [if_neg hkey, attribute?_eq_none_of_notMem (fun a ha => (hattributes a ha).1) hkey]

theorem leafText?_ne_empty {key s : String} (h : leafText? e key = some s) : s ≠ "" := by
  obtain ⟨c, -, hc⟩ := Option.bind_eq_some_iff.1 h
  exact (trim_of_trimmedText? hc).2

theorem IsTemplated.text?_of_textParameter? (settings : Settings) (style : NamedValueStyle)
    (h : IsSimple e) (hwf : AreWellFormed e.attributes) (ht : IsTemplated e t)
    (hkeys : ∀ a ∈ e.attributes, a.1 ∈ t.attributeKeys) {p : String}
    (hp : textParameter? t.policyId = some p) :
    Template.text? style (simpleConfiguration settings e) p = e.trimmedText? := by
  have hp' : textParameter? e.name = some p := by rw [ht.name_eq, hp]
  rw [text?_simpleConfiguration settings style h hwf,
    ht.parameterText?_of_notMem hkeys fun hm => (Template.of_mem_attributeKeys hm).2.1 hp,
    leafText?_of_textParameter? h hp', ht.textKeyOf_eq hkeys hp]
  cases hs : e.trimmedText? with
  | none => rfl
  | some s =>
    have hne := (trim_of_trimmedText? hs).2
    simp [Option.filter, hne]

/-- A parameter besides the attributes and the text is a leaf, as the template finds it. -/
theorem IsTemplated.text?_of_leaf (settings : Settings) (style : NamedValueStyle)
    (h : IsSimple e) (hwf : AreWellFormed e.attributes) (ht : IsTemplated e t)
    (hkeys : ∀ a ∈ e.attributes, a.1 ∈ t.attributeKeys) {key : String}
    (hkey : key ∉ t.attributeKeys) (hp : textParameter? t.policyId ≠ some key)
    (htext : key ≠ textKey) :
    Template.text? style (simpleConfiguration settings e) key = leafText? e key := by
  have hother : key ≠ textKeyOf e := by
    cases hparameter : textParameter? t.policyId with
    | none => rwa [textKeyOf, ht.name_eq, hparameter]
    | some p =>
      rw [ht.textKeyOf_eq hkeys hparameter]
      rintro rfl
      exact hp hparameter
  have hnone : (e.trimmedText?.filter fun _ => key = textKeyOf e) = none := by
    simp [hother]
  rw [text?_simpleConfiguration settings style h hwf, ht.parameterText?_of_notMem hkeys hkey,
    hnone, Option.none_or]
  cases hs : leafText? e key with
  | none => rfl
  | some s =>
    have hne := leafText?_ne_empty hs
    simp [Option.filter, hne]

/-- The children that a template writes are the text of the element and its message. -/
theorem IsTemplated.children_element (settings : Settings) (style : NamedValueStyle)
    (h : IsSimple e) (hwf : AreWellFormed e.attributes) (ht : IsTemplated e t)
    (hkeys : ∀ a ∈ e.attributes, a.1 ∈ t.attributeKeys) :
    (t.element style (simpleConfiguration settings e)).children =
      (e.trimmedText?.map Node.text).toList ++
        ((leafText? e "message").map (Template.leaf "message")).toList := by
  have hno (key : String) (hkey : key ∉ leafParameters t.policyId) : leafText? e key = none :=
    leafText?_of_notMem h (by rwa [ht.name_eq])
  have htext {p : String} := ht.text?_of_textParameter? (p := p) settings style h hwf hkeys
  have hleaf (key : String) (hkey : key ∉ t.attributeKeys)
      (hp : textParameter? t.policyId ≠ some key) (hne : key ≠ textKey) :
      Template.text? style (simpleConfiguration settings e) key = leafText? e key :=
    ht.text?_of_leaf settings style h hwf hkeys hkey hp hne
  cases t with
  | checkHeader =>
    have hvalues : (simpleConfiguration settings e).get? "values" = none := by
      rw [get?_simpleConfiguration_eq_none_iff settings h hwf,
        ht.parameterText?_of_notMem hkeys (by decide),
        ht.trimmedText?_eq_none (by decide), hno "values" (by decide)]
      rfl
    rw [Template.element, Template.texts, hvalues, ht.trimmedText?_eq_none (by decide),
      hno "message" (by decide)]
    rfl
  | setBody =>
    rw [Template.element, htext (p := "value") (by decide),
      hleaf "body" (by decide) (by decide) (by decide), hno "body" (by decide),
      hno "message" (by decide), Option.or_none]
    simp
  | setMethod =>
    rw [Template.element, htext (p := "method") (by decide), hno "message" (by decide)]
    simp
  | trace =>
    rw [Template.element, hleaf "message" (by decide) (by decide) (by decide),
      ht.trimmedText?_eq_none (by decide)]
    simp
  | logToEventhub =>
    rw [Template.element, htext (p := "message") (by decide), hno "message" (by decide)]
    simp
  | choose =>
    rw [Template.element, ht.trimmedText?_eq_none (by decide), hno "message" (by decide)]
    rfl

/-- The element that a template writes has the content of the element that the item came from. -/
theorem IsTemplated.sameContent_element (settings : Settings) (style : NamedValueStyle)
    (h : IsSimple e) (hwf : AreWellFormed e.attributes) (ht : IsTemplated e t)
    (hattributes : ∀ a ∈ e.attributes, a.1 ∈ t.attributeKeys ∧ a.2 ≠ "")
    (hleaves : ∀ c ∈ e.childElements, c.trimmedText? ≠ none) :
    SameContent e (t.element style (simpleConfiguration settings e)) := by
  have hchildren := ht.children_element settings style h hwf fun a ha => (hattributes a ha).1
  have hname : (t.element style (simpleConfiguration settings e)).name = e.name := by
    rw [Template.name_element, ht.name_eq]
  have hattribute (key : String) :
      ((t.element style (simpleConfiguration settings e)).attribute? key).map attributeMeaning =
        (e.attribute? key).map attributeMeaning := by
    rw [ht.attribute?_element settings style h hwf hattributes]
  generalize t.element style (simpleConfiguration settings e) = E at hchildren hname hattribute ⊢
  rcases h.childElements with hc | ⟨c, hc⟩
  · rw [leafText?_of_childElements_nil hc, Option.map_none, Option.toList_none,
      List.append_nil] at hchildren
    refine ⟨hname, hattribute, ?_, ?_⟩
    · exact trimmedText?_of_texts hchildren fun _ ht => trim_of_trimmedText? ht
    · rw [hc, childElements_of_children_texts hchildren]
  · obtain ⟨htrace, hmessage, -⟩ := h.leaf (show c ∈ e.childElements by simp [hc])
    obtain ⟨s, hs⟩ := Option.ne_none_iff_exists'.1 (hleaves c (by simp [hc]))
    obtain ⟨htrim, hne⟩ := trim_of_trimmedText? hs
    have hnone : e.trimmedText? = none := ht.trimmedText?_eq_none (by rw [← ht.name_eq, htrace]; decide)
    have hleaf : leafText? e "message" = some s := by
      rw [leafText?, hc, List.find?_singleton, if_pos (by simpa using hmessage), Option.bind_some, hs]
    rw [hnone, hleaf] at hchildren
    have hE : E.childElements = [⟨"message", [], [.text s]⟩] := by
      rw [Element.childElements, hchildren]
      rfl
    refine ⟨hname, hattribute, ?_, ?_⟩
    · rw [hnone]
      refine trimmedText?_of_visibleCharacters_nil ?_
      rw [hchildren]
      rfl
    · rw [hE, hc, List.map_singleton, List.map_singleton, leafContent, leafContent, hmessage, hs,
        trimmedText?_of_children_text (s := s) rfl, htrim]
      simp [Option.filter, hne]

theorem HasCleanContent.isClean (hclean : HasCleanContent e) {n : Node}
    (hn : n ∈ (e.trimmedText?.map Node.text).toList ++
      ((leafText? e "message").map (Template.leaf "message")).toList) : n.IsClean := by
  rcases List.mem_append.1 hn with hn | hn
  · obtain ⟨s, hs, rfl⟩ := Option.map_eq_some_iff.1 (Option.mem_toList.1 hn)
    exact .text (.inr (by rw [(trim_of_trimmedText? hs).1]; exact hclean.text s hs))
  · obtain ⟨s, hs, rfl⟩ := Option.map_eq_some_iff.1 (Option.mem_toList.1 hn)
    obtain ⟨c, hc, hs⟩ := Option.bind_eq_some_iff.1 hs
    have htext := hclean.leaves c (List.mem_of_find?_eq_some hc) s hs
    refine .element (by decide) ⟨by simp, by simp, by simp⟩ ?_ ?_
    · intro n hn
      rw [List.mem_singleton] at hn
      rw [hn]
      exact .text (.inr (by rwa [(trim_of_trimmedText? hs).1]))
    · exact haveSeparateTexts_of_pairwise (List.pairwise_singleton _ _)

/-- What a template writes as attributes are attributes of the simple element. -/
theorem IsTemplated.areCleanAttributes_element (settings : Settings) (style : NamedValueStyle)
    (h : IsSimple e) (hwf : AreWellFormed e.attributes) (hclean : HasCleanContent e)
    (ht : IsTemplated e t) :
    AreCleanAttributes (t.element style (simpleConfiguration settings e)).attributes := by
  rw [Template.attributes_element]
  have hkeys := Template.keys_attributes_sublist style (simpleConfiguration settings e)
    t.attributeKeys
  have hdistinct := (Template.nodup_attributeKeys t).sublist hkeys
  have hmem {a : String × String}
      (ha : a ∈ Template.attributes style (simpleConfiguration settings e) t.attributeKeys) :
      a.1 ∈ t.attributeKeys := hkeys.subset (List.mem_map_of_mem ha)
  refine ⟨fun a ha => Template.isName_of_mem_attributeKeys a.1 (hmem ha), hdistinct, ?_⟩
  intro a ha
  have hv := lookup_of_mem hdistinct (show (a.1, a.2) ∈ _ from ha)
  rw [Template.lookup_attributes style _ (Template.nodup_attributeKeys t), if_pos (hmem ha),
    text?_simpleConfiguration settings style h hwf, IsTemplated.parameterText?_of_mem h ht (hmem ha)]
    at hv
  have hm : a ∈ e.attributes := mem_of_lookup (Option.filter_eq_some_iff.1 hv).1
  exact hclean.values a hm (ht.literal a hm)

theorem IsTemplated.isClean_element (settings : Settings) (style : NamedValueStyle)
    (h : IsSimple e) (hwf : AreWellFormed e.attributes) (hclean : HasCleanContent e)
    (ht : IsTemplated e t) (hkeys : ∀ a ∈ e.attributes, a.1 ∈ t.attributeKeys) :
    (t.element style (simpleConfiguration settings e)).IsClean := by
  have hname := Template.name_element style (simpleConfiguration settings e) t
  have hattributes := ht.areCleanAttributes_element settings style h hwf hclean
  have hchildren := ht.children_element settings style h hwf hkeys
  generalize t.element style (simpleConfiguration settings e) = E at *
  refine Element.isClean_of ?_ hattributes ?_ ?_
  · rw [hname]
    exact t.isName_policyId
  · rw [hchildren]
    exact fun n hn => hclean.isClean hn
  · rw [hchildren]
    refine haveSeparateTexts_of_pairwise (List.pairwise_append.2 ⟨?_, ?_, ?_⟩)
    · cases e.trimmedText? <;> simp
    · cases leafText? e "message" <;> simp
    · intro n _ m hm
      obtain ⟨s, -, rfl⟩ := Option.map_eq_some_iff.1 (Option.mem_toList.1 hm)
      rw [Template.leaf]
      simp [Node.isText]

/-! ## Necessity -/

theorem attributeMeaning_eq_literal_iff {v s : String} (hs : NamedValue.name? s = none) :
    attributeMeaning v = attributeMeaning s ↔ v = s := by
  constructor
  · intro h
    rw [attributeMeaning, attributeMeaning, hs] at h
    cases hv : NamedValue.name? v with
    | none =>
      rw [hv] at h
      exact AttributeValue.literal.inj h
    | some name =>
      rw [hv] at h
      simp at h
  · rintro rfl
    rfl

/-- A template that keeps the meaning of all attributes knows them, and none of them is empty. -/
theorem Template.mem_attributeKeys_of_meaning_eq (style : NamedValueStyle) (c : Fields)
    (hwf : AreWellFormed e.attributes)
    (hmeaning : ∀ key, ((t.element style c).attribute? key).map attributeMeaning =
      (e.attribute? key).map attributeMeaning) :
    ∀ a ∈ e.attributes, a.1 ∈ t.attributeKeys ∧ a.2 ≠ "" := by
  intro a ha
  have hmeaning := hmeaning a.1
  rw [Element.attribute?, attributes_element, lookup_attributes style _ (nodup_attributeKeys t),
    Element.attribute?, lookup_of_mem hwf.distinct (show (a.1, a.2) ∈ _ from ha),
    Option.map_some] at hmeaning
  by_cases hkey : a.1 ∈ t.attributeKeys
  · rw [if_pos hkey] at hmeaning
    obtain ⟨s, hs, hmeaning⟩ := Option.map_eq_some_iff.1 hmeaning
    have hne : s ≠ "" := by simpa using (Option.filter_eq_some_iff.1 hs).2
    refine ⟨hkey, fun hempty => hne ?_⟩
    have hliteral : NamedValue.name? "" = none := by decide
    rwa [hempty, attributeMeaning_eq_literal_iff hliteral] at hmeaning
  · rw [if_neg hkey] at hmeaning
    simp at hmeaning

/-- An element that its template keeps fits the template. -/
theorem IsTemplated.of_sameContent (settings : Settings) (style : NamedValueStyle)
    (h : IsSimple e) (hwf : AreWellFormed e.attributes) (ht : IsTemplated e t)
    (hsame : SameContent e (t.element style (simpleConfiguration settings e))) :
    (∀ a ∈ e.attributes, a.1 ∈ t.attributeKeys ∧ a.2 ≠ "") ∧
      ∀ c ∈ e.childElements, c.trimmedText? ≠ none := by
  have hattributes := Template.mem_attributeKeys_of_meaning_eq style _ hwf hsame.attributes
  refine ⟨hattributes, fun c hc hnone => ?_⟩
  have hchildren := ht.children_element settings style h hwf fun a ha => (hattributes a ha).1
  have hleaves := hsame.leaves
  generalize t.element style (simpleConfiguration settings e) = E at hchildren hleaves
  rcases h.childElements with hnil | ⟨d, hd⟩
  · rw [hnil] at hc
    simp at hc
  · rw [hd, List.mem_singleton] at hc
    subst hc
    have hmessage : leafText? e "message" = none := by
      rw [leafText?, hd, List.find?_singleton]
      split
      · rw [Option.bind_some, hnone]
      · rfl
    rw [hmessage, Option.map_none, Option.toList_none, List.append_nil] at hchildren
    rw [hd, childElements_of_children_texts hchildren] at hleaves
    simp at hleaves

/-- An element that its item keeps as one element fits it. -/
theorem fits_of_sameContent_genericElement (settings : Settings) (id : String) (order : Int)
    (style : NamedValueStyle) (h : IsSimple e) (hwf : AreWellFormed e.attributes)
    (hsame : SameContent e ((simpleCatalogItem settings id order e).genericElement style)) :
    e.childElements = [] ∧ (e.trimmedText? = none ∨ textKeyOf e = textKey) := by
  have hchildren := children_genericElement_simpleCatalogItem settings id order style h hwf
  have htext := hsame.text
  have hleaves := hsame.leaves
  generalize (simpleCatalogItem settings id order e).genericElement style = E at *
  constructor
  · rw [childElements_of_children_texts hchildren, List.map_nil] at hleaves
    exact List.map_eq_nil_iff.1 hleaves.symm
  · by_cases hkey : textKeyOf e = textKey
    · exact .inr hkey
    · refine .inl (htext.symm.trans (trimmedText?_of_children_nil ?_))
      rw [hchildren]
      simp [hkey]

/-- The element that a catalog item is written as, without branches of raw policies. -/
def CatalogItem.writtenElement (style : NamedValueStyle) (i : CatalogItem) : Element :=
  match i.templated? with
  | some (t, c) => t.element style c
  | none => i.genericElement style

theorem CatalogItem.isFlat_writtenElement (style : NamedValueStyle) (i : CatalogItem) :
    IsFlat (i.writtenElement style) := by
  unfold writtenElement
  split
  · exact Template.isFlat_element style _ _
  · exact isFlat_genericElement style i

/-- An element fits its item if and only if the element that is written has its content. -/
theorem fitsItsItem_iff (settings : Settings) (id : String) (order : Int)
    (style : NamedValueStyle) (h : IsSimple e) (hwf : AreWellFormed e.attributes) :
    FitsItsItem e ↔
      SameContent e ((simpleCatalogItem settings id order e).writtenElement style) := by
  by_cases ht : ∃ t, IsTemplated e t
  · obtain ⟨t, ht⟩ := ht
    rw [CatalogItem.writtenElement, templated?_of_isTemplated settings id order h hwf ht]
    constructor
    · intro hfits
      obtain ⟨hattributes, hleaves⟩ := hfits.templated t ht
      exact ht.sameContent_element settings style h hwf hattributes hleaves
    · intro hsame
      refine ⟨fun t' ht' => ?_, fun hno => absurd ht (hno t)⟩
      obtain rfl : t = t' := Option.some.inj (ht.template.symm.trans ht'.template)
      exact ht.of_sameContent settings style h hwf hsame
  · rw [CatalogItem.writtenElement,
      templated?_of_not_isTemplated settings id order h hwf (not_exists.1 ht)]
    constructor
    · intro hfits
      obtain ⟨hleaves, htext⟩ := hfits.generic (not_exists.1 ht)
      exact sameContent_genericElement settings id order style h hwf hleaves htext
    · intro hsame
      exact ⟨fun t ht' => absurd ⟨t, ht'⟩ ht, fun _ =>
        fits_of_sameContent_genericElement settings id order style h hwf hsame⟩

end GatewayPolicy
