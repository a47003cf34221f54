import GatewayPolicy.Proofs.Policy.SimpleContent
import GatewayPolicy.Proofs.Policy.StartTags
/-!
# What the item of a simple element keeps

The document of a simple element's item is read back with all of the content if the element fits its
item. If it does not fit, something is missing: a template has no place for attributes that it does
not know and leaves out what is empty, and a policy that is written as one element has neither leaves
nor the text that is kept as a parameter.
-/

namespace GatewayPolicy

open Json Text Xml

variable {e e' : Element} {settings : Settings} {id : String} {order : Int} {t : Template}

/-- What a document is read as has the content that its flat element has. -/
theorem sameContent_iff_of_parse {E : Element} {document : String}
    (hread : ReadsAsElement document.toList E) (hflat : IsFlat E)
    (hparse : Xml.parse document = .ok e') : SameContent e e' ↔ SameContent e E := by
  obtain ⟨e'', hparse', htidy⟩ := hread.parse
  obtain rfl : e'' = e' := Except.ok.inj (hparse'.symm.trans hparse)
  exact sameContent_iff_of_tidy_eq htidy hflat

/-! ## By a template -/

/-- The branches of a choice are parameters that a simple element without attributes does not have. -/
theorem IsTemplated.get?_simpleConfiguration_choose (settings : Settings) (h : IsSimple e)
    (hwf : AreWellFormed e.attributes) (ht : IsTemplated e .choose)
    (hkeys : ∀ a ∈ e.attributes, a.1 ∈ Template.choose.attributeKeys) (key : String) :
    (simpleConfiguration settings e).get? key = none := by
  rw [get?_simpleConfiguration_eq_none_iff settings h hwf,
    ht.parameterText?_of_notMem hkeys List.not_mem_nil, ht.trimmedText?_eq_none (by decide),
    leafText?_of_notMem h (by rw [ht.name_eq]; exact List.not_mem_nil)]
  rfl

/-- If the template knows all attributes, the document is read back as the element that is written. -/
theorem IsTemplated.readsAsElement_renderItem (h : IsSimple e) (hwf : AreWellFormed e.attributes)
    (hclean : HasCleanContent e) (ht : IsTemplated e t)
    (hkeys : ∀ a ∈ e.attributes, a.1 ∈ t.attributeKeys) :
    ReadsAsElement (({ settings } : Writer).renderItem (simpleItem settings id order e)).toList
      ((simpleCatalogItem settings id order e).writtenElement settings.namedValueStyle) := by
  have htemplated := templated?_of_isTemplated settings id order h hwf ht
  rw [simpleItem_eq, renderItem_of_templated? htemplated, CatalogItem.writtenElement, htemplated]
  refine Template.readsAsElement_render settings _
    (ht.isClean_element settings _ h hwf hclean hkeys) ?_
  rintro rfl
  have hnone := ht.get?_simpleConfiguration_choose settings h hwf hkeys
  rw [Template.objects, Template.rawLines, hnone, hnone]
  exact ⟨rfl, rfl⟩

/-- The attributes that a template writes are read back, whatever is written behind them. -/
theorem IsTemplated.attributes_of_parse (h : IsSimple e) (hwf : AreWellFormed e.attributes)
    (hclean : HasCleanContent e) (ht : IsTemplated e t)
    (hparse : Xml.parse (({ settings } : Writer).renderItem (simpleItem settings id order e)) =
      .ok e') :
    e'.attributes =
      (t.element settings.namedValueStyle (simpleConfiguration settings e)).attributes := by
  have hattributes := ht.areCleanAttributes_element settings settings.namedValueStyle h hwf hclean
  rw [simpleItem_eq,
    renderItem_of_templated? (templated?_of_isTemplated settings id order h hwf ht)] at hparse
  have htag := Xml.tag_of_parse t.isName_policyId (areReadable_writtenAttributes hattributes)
    (t.startsWithTag_render settings _) hparse
  rw [htag.2, readRaw_writtenAttributes hattributes]

/-- An element whose content is there again has no attributes but those that its template knows. -/
theorem IsTemplated.mem_attributeKeys_of_parse (h : IsSimple e) (hwf : AreWellFormed e.attributes)
    (hclean : HasCleanContent e) (ht : IsTemplated e t)
    (hparse : Xml.parse (({ settings } : Writer).renderItem (simpleItem settings id order e)) =
      .ok e') (hsame : SameContent e e') : ∀ a ∈ e.attributes, a.1 ∈ t.attributeKeys := by
  have hattributes := ht.attributes_of_parse h hwf hclean hparse
  have hmeaning (key : String) :
      ((t.element settings.namedValueStyle (simpleConfiguration settings e)).attribute? key).map
        attributeMeaning = (e.attribute? key).map attributeMeaning := by
    rw [Element.attribute?, ← hattributes, ← Element.attribute?, hsame.attributes]
  exact fun a ha => (Template.mem_attributeKeys_of_meaning_eq _ _ hwf hmeaning a ha).1

/-! ## As one element -/

/-- If its parameters can be written, the document is read back as the element that is written. -/
theorem readsAsElement_renderItem_of_not_isTemplated (hname : IsName e.name) (h : IsSimple e)
    (hwf : AreWellFormed e.attributes) (hclean : HasCleanContent e) (ht : ∀ t, ¬ IsTemplated e t)
    (hparameters : ∀ key s, key ≠ textKey → parameterText? e key = some s →
      CatalogItem.IsParameterText s) :
    ReadsAsElement (({ settings } : Writer).renderItem (simpleItem settings id order e)).toList
      ((simpleCatalogItem settings id order e).writtenElement settings.namedValueStyle) := by
  rw [renderItem_simpleItem_of_generic id order h hwf ht, CatalogItem.writtenElement,
    templated?_of_not_isTemplated settings id order h hwf ht]
  exact Writer.readsAsElement_renderGeneric _
    (isGeneric_simpleCatalogItem settings id order _ hname h hwf hclean hparameters)

theorem isParameterText_of_literal? (hclean : HasCleanContent e) {key s : String}
    (hs : literal? e key = some s) : CatalogItem.IsParameterText s := by
  have htoken := (Option.filter_eq_some_iff.1 hs).2
  rw [CatalogItem.IsParameterText, if_neg (by simpa using htoken)]
  exact isCleanValue_of_literal? hclean hs

theorem isParameterText_of_isCleanText {s : String} (hs : IsCleanText s)
    (htoken : NamedValue.isToken s = true → '"' ∉ s.toList ∧ '&' ∉ s.toList) :
    CatalogItem.IsParameterText s := by
  unfold CatalogItem.IsParameterText
  split
  · rename_i h
    exact htoken h
  · exact hs.imp_left And.left

/-- Texts and leaves can be written as attributes if the tokens among them are plain. -/
theorem isParameterText_of_hasPlainTokens (hclean : HasCleanContent e) (htokens : HasPlainTokens e)
    {key s : String} (hs : parameterText? e key = some s) : CatalogItem.IsParameterText s := by
  rw [parameterText?, Option.or_eq_some_iff, Option.or_eq_some_iff] at hs
  rcases hs with (htext | ⟨-, hleaf⟩) | ⟨-, hliteral⟩
  · have ht := (Option.filter_eq_some_iff.1 htext).1
    exact isParameterText_of_isCleanText (hclean.text s ht) (htokens.text s ht)
  · obtain ⟨c, hc, ht⟩ := Option.bind_eq_some_iff.1 hleaf
    have hmem := List.mem_of_find?_eq_some hc
    exact isParameterText_of_isCleanText (hclean.leaves c hmem s ht) (htokens.leaves c hmem s ht)
  · exact isParameterText_of_literal? hclean hliteral

/-! ## Kept and lost -/

/-- The document of an element that fits its item is read back as the element that is written. -/
theorem FitsItsItem.readsAsElement_renderItem (hname : IsName e.name) (h : IsSimple e)
    (hwf : AreWellFormed e.attributes) (hclean : HasCleanContent e) (hfits : FitsItsItem e) :
    ReadsAsElement (({ settings } : Writer).renderItem (simpleItem settings id order e)).toList
      ((simpleCatalogItem settings id order e).writtenElement settings.namedValueStyle) := by
  by_cases ht : ∃ t, IsTemplated e t
  · obtain ⟨t, ht⟩ := ht
    exact ht.readsAsElement_renderItem h hwf hclean fun a ha => ((hfits.templated t ht).1 a ha).1
  · obtain ⟨hleaves, htext⟩ := hfits.generic (not_exists.1 ht)
    refine readsAsElement_renderItem_of_not_isTemplated hname h hwf hclean (not_exists.1 ht) ?_
    intro key s hkey hs
    rw [parameterText?_eq_literal? hleaves htext hkey] at hs
    exact isParameterText_of_literal? hclean hs

/-- An element whose content is there again fits its item. -/
theorem fitsItsItem_of_parse (hname : IsName e.name) (h : IsSimple e)
    (hwf : AreWellFormed e.attributes) (hclean : HasCleanContent e) (htokens : HasPlainTokens e)
    (hparse : Xml.parse (({ settings } : Writer).renderItem (simpleItem settings id order e)) =
      .ok e') (hsame : SameContent e e') : FitsItsItem e := by
  have hread : ReadsAsElement
      (({ settings } : Writer).renderItem (simpleItem settings id order e)).toList
      ((simpleCatalogItem settings id order e).writtenElement settings.namedValueStyle) := by
    by_cases ht : ∃ t, IsTemplated e t
    · obtain ⟨t, ht⟩ := ht
      -- Unknown attributes may be written as texts, so only the tag is read back for sure. The
      -- content that is there again leaves no attribute that is unknown.
      exact ht.readsAsElement_renderItem h hwf hclean
        (ht.mem_attributeKeys_of_parse h hwf hclean hparse hsame)
    · exact readsAsElement_renderItem_of_not_isTemplated hname h hwf hclean (not_exists.1 ht)
        fun _ _ _ hs => isParameterText_of_hasPlainTokens hclean htokens hs
  refine (fitsItsItem_iff settings id order settings.namedValueStyle h hwf).2 ?_
  exact (sameContent_iff_of_parse hread (CatalogItem.isFlat_writtenElement _ _) hparse).1 hsame

/-- **A simple element loses nothing as an item exactly if it fits the item.** The document of the
item is read back with the content of an element that fits, and never with the content of one that
does not, unless a text has a token that cannot be an attribute. -/
theorem exists_parse_renderItem (settings : Settings) (id : String) (order : Int)
    (hshape : shape e = .simple) (hwf : e.IsWellFormed) (hclean : HasCleanContent e) :
    (FitsItsItem e → ∃ e',
      Xml.parse (({ settings } : Writer).renderItem (simpleItem settings id order e)) = .ok e' ∧
        SameContent e e') ∧
    (HasPlainTokens e → ¬ FitsItsItem e → ¬ ∃ e',
      Xml.parse (({ settings } : Writer).renderItem (simpleItem settings id order e)) = .ok e' ∧
        SameContent e e') := by
  have h := shape_eq_simple_iff.1 hshape
  obtain ⟨hname, hattributes⟩ : IsName e.name ∧ AreWellFormed e.attributes := by
    cases hwf with
    | element hname hattributes _ => exact ⟨hname, hattributes⟩
  constructor
  · intro hfits
    have hread : ReadsAsElement
        (({ settings } : Writer).renderItem (simpleItem settings id order e)).toList
        ((simpleCatalogItem settings id order e).writtenElement settings.namedValueStyle) :=
      hfits.readsAsElement_renderItem hname h hattributes hclean
    obtain ⟨e', hparse, -⟩ := hread.parse
    have hwritten := (fitsItsItem_iff settings id order settings.namedValueStyle h hattributes).1 hfits
    exact ⟨e', hparse,
      (sameContent_iff_of_parse hread (CatalogItem.isFlat_writtenElement _ _) hparse).2 hwritten⟩
  · rintro htokens hfits ⟨e', hparse, hsame⟩
    exact hfits (fitsItsItem_of_parse hname h hattributes hclean htokens hparse hsame)

/-- A trace with its source and its message. -/
def tracedElement : Element where
  name := "trace"
  attributes := [("source", "gateway & \"edge\"")]
  children := [.text "\n  ", .element "message" [] [.text " @(context.RequestId + \"<\")\n"]]

theorem trimmedText?_of_mem_tracedElement :
    ∀ c ∈ tracedElement.childElements, c.trimmedText? = some "@(context.RequestId + \"<\")" := by
  decide +kernel

theorem hasCleanContent_tracedElement : HasCleanContent tracedElement := by
  have htext : tracedElement.trimmedText? = none := by decide +kernel
  constructor
  · have hvalues : ∀ a ∈ tracedElement.attributes, IsCleanValue a.2 := by decide +kernel
    exact fun a ha _ => hvalues a ha
  · have htokens : ∀ a ∈ tracedElement.attributes, NamedValue.name? a.2 = none := by
      decide +kernel
    intro a ha name hname
    rw [htokens a ha] at hname
    simp at hname
  · rw [htext]
    simp
  · intro c hc s hs
    rw [trimmedText?_of_mem_tracedElement c hc] at hs
    obtain rfl := Option.some.inj hs
    decide +kernel

theorem fitsItsItem_tracedElement : FitsItsItem tracedElement := by
  have hpolicy : Template.ofPolicy? tracedElement.name = some .trace := by decide
  constructor
  · intro t ht
    obtain rfl := Option.some.inj (ht.template.symm.trans hpolicy)
    refine ⟨by decide, fun c hc => ?_⟩
    rw [trimmedText?_of_mem_tracedElement c hc]
    simp
  · intro hno
    exact absurd ⟨hpolicy, by decide +kernel, .inl (by decide +kernel)⟩ (hno .trace)

/-- A method with an attribute that its template does not know. -/
def annotatedMethod : Element where
  name := "set-method"
  attributes := [("note", "x")]
  children := [.text "GET"]

theorem trimmedText?_annotatedMethod : annotatedMethod.trimmedText? = some "GET" := by
  decide +kernel

theorem hasCleanContent_annotatedMethod : HasCleanContent annotatedMethod := by
  constructor
  · have hvalues : ∀ a ∈ annotatedMethod.attributes, IsCleanValue a.2 := by decide +kernel
    exact fun a ha _ => hvalues a ha
  · have htokens : ∀ a ∈ annotatedMethod.attributes, NamedValue.name? a.2 = none := by
      decide +kernel
    intro a ha name hname
    rw [htokens a ha] at hname
    simp at hname
  · intro s hs
    rw [trimmedText?_annotatedMethod] at hs
    obtain rfl := Option.some.inj hs
    decide +kernel
  · exact fun c hc => absurd hc List.not_mem_nil

theorem hasPlainTokens_annotatedMethod : HasPlainTokens annotatedMethod := by
  constructor
  · intro s hs
    rw [trimmedText?_annotatedMethod] at hs
    obtain rfl := Option.some.inj hs
    decide +kernel
  · exact fun c hc => absurd hc List.not_mem_nil

theorem not_fitsItsItem_annotatedMethod : ¬ FitsItsItem annotatedMethod := by
  intro hfits
  have htext : textKeyOf annotatedMethod ≠ textKey := by decide +kernel
  have ht : IsTemplated annotatedMethod .setMethod :=
    ⟨by decide, by decide +kernel, .inr htext⟩
  have hkey := ((hfits.templated _ ht).1 ("note", "x") List.mem_cons_self).1
  exact absurd hkey (by decide)

/-- The trace is there again, and the note of the method is not. -/
theorem exists_parse_renderItem_tracedElement :
    (shape tracedElement = .simple ∧ tracedElement.IsWellFormed ∧ HasCleanContent tracedElement ∧
      FitsItsItem tracedElement) ∧
    (∃ e', Xml.parse (({} : Writer).renderItem (simpleItem {} "outbound-0" 0 tracedElement)) = .ok e' ∧
      SameContent tracedElement e') ∧
    (shape annotatedMethod = .simple ∧ annotatedMethod.IsWellFormed ∧
      HasCleanContent annotatedMethod ∧ HasPlainTokens annotatedMethod ∧
      ¬ FitsItsItem annotatedMethod) ∧
    ¬ ∃ e', Xml.parse (({} : Writer).renderItem (simpleItem {} "inbound-0" 0 annotatedMethod)) = .ok e' ∧
      SameContent annotatedMethod e' := by
  have htraced : shape tracedElement = .simple := by decide +kernel
  have hwf : tracedElement.IsWellFormed := by
    refine .element (by decide) ⟨by decide, by decide⟩ ?_
    refine List.forall_mem_cons.2 ⟨.text _, List.forall_mem_singleton.2 ?_⟩
    exact .element (by decide) ⟨by simp, by simp⟩ (List.forall_mem_singleton.2 (.text _))
  have hannotated : shape annotatedMethod = .simple := by decide +kernel
  have hwf' : annotatedMethod.IsWellFormed :=
    .element (by decide) ⟨by decide, by decide⟩ (List.forall_mem_singleton.2 (.text _))
  have hkept := exists_parse_renderItem {} "outbound-0" 0 htraced hwf hasCleanContent_tracedElement
  have hlost :=
    exists_parse_renderItem {} "inbound-0" 0 hannotated hwf' hasCleanContent_annotatedMethod
  exact ⟨⟨htraced, hwf, hasCleanContent_tracedElement, fitsItsItem_tracedElement⟩,
    hkept.1 fitsItsItem_tracedElement,
    ⟨hannotated, hwf', hasCleanContent_annotatedMethod, hasPlainTokens_annotatedMethod,
      not_fitsItsItem_annotatedMethod⟩,
    hlost.2 hasPlainTokens_annotatedMethod not_fitsItsItem_annotatedMethod⟩

end GatewayPolicy
