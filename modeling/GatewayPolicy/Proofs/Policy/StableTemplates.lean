import GatewayPolicy.Proofs.Policy.StableElements
/-!
# Templates that are written alike again

What a template writes is an element, and the reader finds the parameters of the policy in it where
the template has put them. So the template writes the element once more. The exceptions are headers
with a list of allowed values, which are read back as raw XML and stay raw.
-/

namespace GatewayPolicy

open Json Text Xml

variable {settings : Settings} {style : NamedValueStyle} {id : String} {order : Int} {e E : Element}
  {t : Template} {c : Fields} {s : String}

/-! ## Elements that a template can have written -/

/-- What stands between the tags of an element that a template has written, lists of values
aside. -/
inductive IsPlainContent (t : Template) : List Node → Prop where
  /-- The parameter that the policy carries as text. -/
  | text (o : Option String) (h : textParameter? t.policyId = none → o = none) :
    IsPlainContent t (o.map Node.text).toList
  /-- A message that is visible. -/
  | message {s : String} (htrace : t = .trace) (hvisible : isBlankText s = false) :
    IsPlainContent t [Template.leaf "message" s]

/-- An element that a template can have written. -/
structure IsPlainly (t : Template) (E : Element) : Prop where
  /-- It is the policy of the template. -/
  name : E.name = t.policyId
  /-- Its attributes have names, none of them repeated. -/
  wellFormed : AreWellFormed E.attributes
  /-- The template knows its attributes and leaves out empty ones. -/
  attributes : ∀ a ∈ E.attributes, a.1 ∈ t.attributeKeys ∧ a.2 ≠ ""
  /-- They stand in the order of the template. -/
  ordered : E.attributes = t.attributeKeys.filterMap fun key => (E.attribute? key).map (key, ·)
  /-- No attribute is a token. -/
  literal : ∀ a ∈ E.attributes, NamedValue.isToken a.2 = false
  /-- It holds a text or a message. -/
  content : IsPlainContent t E.children

/-- A template writes the attributes in the order in which it knows them. -/
theorem Template.attributes_element_eq_filterMap (style : NamedValueStyle) (c : Fields)
    (t : Template) : (t.element style c).attributes =
      t.attributeKeys.filterMap fun key => ((t.element style c).attribute? key).map (key, ·) := by
  have hlookup : ∀ key ∈ t.attributeKeys,
      (t.element style c).attribute? key = text? style c key := by
    intro key hkey
    rw [Element.attribute?, attributes_element, lookup_attributes style c t.nodup_attributeKeys,
      if_pos hkey]
  rw [attributes_element, attributes]
  exact List.filterMap_congr fun key hkey => by rw [hlookup key hkey]

theorem Template.name_spec (t : Template) : t.policyId ≠ "base" ∧
    (t.policyId ≠ "include-fragment" ∧ t.policyId ≠ "include") ∧
      t.policyId ≠ SendRequest.policyId := by
  cases t <;> decide

theorem IsPlainContent.unstructured {ns : List Node} (h : IsPlainContent t ns) :
    isStructured (leafParameters t.policyId) [] ns = false := by
  cases h with
  | text o _ => cases o <;> rfl
  | message htrace _ =>
    subst htrace
    rfl

theorem tidyNodes_trim (s : String) : tidyNodes [.text (trim s)] = tidyNodes [.text s] := by
  have hblank : (Node.text (trim s)).isBlank = (Node.text s).isBlank := isBlank_tidy (.text s)
  rw [tidyNodes_eq, tidyNodes_eq, List.filter_singleton, List.filter_singleton, hblank]
  cases (Node.text s).isBlank with
  | true => rfl
  | false => simp [Node.tidy]

theorem tidyNodes_visibleText (s : String) :
    tidyNodes ((((some (trim s)).filter (!·.isEmpty)).map Node.text).toList) =
      tidyNodes [.text s] := by
  cases hs : (trim s).isEmpty with
  | true =>
    have hblank : isBlankText s = true := trim_eq_empty_iff.1 (by simpa using hs)
    rw [tidyNodes_cons_of_isBlank (show (Node.text s).isBlank = true from hblank),
      Option.filter_some, if_neg (by simp [hs])]
    rfl
  | false =>
    rw [Option.filter_some, if_pos (by simp [hs]), Option.map_some, Option.toList_some,
      tidyNodes_trim]

namespace IsPlainly

theorem isSimple (h : IsPlainly t E) : IsSimple E := by
  obtain ⟨hbase, hfragment, hsend⟩ := t.name_spec
  rw [← h.name] at hbase hfragment hsend
  exact ⟨hbase, hfragment, hsend, h.name ▸ h.content.unstructured⟩

theorem isTemplated (h : IsPlainly t E) : IsTemplated E t := by
  refine ⟨h.name ▸ t.ofPolicy?_policyId, h.literal, ?_⟩
  cases hp : textParameter? t.policyId with
  | none =>
    refine .inl (trimmedText?_of_visibleCharacters_nil ?_)
    have hcontent := h.content
    generalize E.children = ns at hcontent
    cases hcontent with
    | text o ho =>
      obtain rfl := ho hp
      rfl
    | message _ _ => rfl
  | some p =>
    -- The parameter is no attribute, so the text is kept under its own key.
    have hfree : literal? E p = none := by
      rw [literal?_of_literal h.literal]
      exact attribute?_eq_none_of_notMem (fun a ha => (h.attributes a ha).1)
        fun hm => (Template.of_mem_attributeKeys hm).2.1 hp
    refine .inr fun hkey => ?_
    rw [textKeyOf, h.name, hp] at hkey
    dsimp only at hkey
    rw [hfree, if_neg (by simp)] at hkey
    exact textParameter?_ne_textKey (hp.trans (congrArg some hkey))

theorem isFlat (h : IsPlainly t E) : IsFlat E := by
  have hcontent := h.content
  generalize hns : E.children = ns at hcontent
  cases hcontent with
  | text o _ => exact isFlat_of_children_texts hns
  | @message s _ _ => exact isFlat_of_children_leaves "message" [s] hns

/-- The text and the message are found again, without the blanks around them. -/
theorem tidyNodes_children (h : IsPlainly t E) :
    tidyNodes ((E.trimmedText?.map Node.text).toList ++
      ((leafText? E "message").map (Template.leaf "message")).toList) = tidyNodes E.children := by
  have hcontent := h.content
  generalize hns : E.children = ns at hcontent
  cases hcontent with
  | text o _ =>
    have hleaf : leafText? E "message" = none :=
      leafText?_of_childElements_nil (childElements_of_children_texts hns) _
    rw [hleaf, Option.map_none, Option.toList_none, List.append_nil]
    cases o with
    | none =>
      rw [trimmedText?_of_children_nil hns]
    | some s =>
      rw [trimmedText?_of_children_text hns]
      exact tidyNodes_visibleText s
  | @message s _ hvisible =>
    have hne : trim s ≠ "" := fun hempty => by
      rw [trim_eq_empty_iff.1 hempty] at hvisible
      simp at hvisible
    have htext : E.trimmedText? = none := by
      refine trimmedText?_of_visibleCharacters_nil ?_
      rw [hns]
      rfl
    have hleaf : leafText? E "message" = some (trim s) := by
      have hchild : E.childElements = [⟨"message", [], [.text s]⟩] := by
        rw [Element.childElements, hns]
        rfl
      rw [leafText?, hchild, List.find?_singleton, if_pos (by simp), Option.bind_some,
        trimmedText?_of_children_text (s := s) rfl, Option.filter_some, if_pos (by simpa using hne)]
    rw [htext, hleaf, Option.map_none, Option.toList_none, List.nil_append, Option.map_some,
      Option.toList_some, Template.leaf, Template.leaf, tidyNodes_cons rfl, tidyNodes_cons rfl,
      Node.tidy, Node.tidy, tidyNodes_trim]

theorem tidy_element (h : IsPlainly t E) (settings : Settings) (style : NamedValueStyle) :
    (t.element style (simpleConfiguration settings E)).tidy = E.tidy := by
  have ht := h.isTemplated
  have hattribute := ht.attribute?_element settings style h.isSimple h.wellFormed h.attributes
  have hchildren := ht.children_element settings style h.isSimple h.wellFormed
    fun a ha => (h.attributes a ha).1
  have hname := Template.name_element style (simpleConfiguration settings E) t
  have hordered := Template.attributes_element_eq_filterMap style (simpleConfiguration settings E) t
  simp only [hattribute] at hordered
  rw [Element.tidy, Element.tidy, hname, ← h.name, hordered, ← h.ordered, hchildren,
    h.tidyNodes_children]

end IsPlainly

/-! ## What a template writes -/

/-- A template puts a text or a message between the tags, unless it has a list of values or a
message that is blank. -/
theorem Template.isPlainContent_element (style : NamedValueStyle) (c : Fields) (t : Template)
    (hvalues : t = .checkHeader → texts style c "values" = [])
    (hmessage : t = .trace → ∀ s, text? style c "message" = some s → isBlankText s = false) :
    IsPlainContent t (t.element style c).children := by
  cases t with
  | checkHeader =>
    rw [element, hvalues rfl]
    exact .text none fun _ => rfl
  | setBody => exact .text _ fun h => by simp [textParameter?, policyId] at h
  | setMethod => exact .text _ fun h => by simp [textParameter?, policyId] at h
  | trace =>
    rw [element]
    cases hs : text? style c "message" with
    | none => exact .text none fun _ => rfl
    | some s => exact .message rfl (hmessage rfl s hs)
  | logToEventhub => exact .text _ fun h => by simp [textParameter?, policyId] at h
  | choose => exact .text none fun _ => rfl

theorem Template.text?_of_mem_attributes {keys : List String} {a : String × String}
    (ha : a ∈ attributes style c keys) : a.1 ∈ keys ∧ text? style c a.1 = some a.2 := by
  obtain ⟨key, hkey, heq⟩ := List.mem_filterMap.1 ha
  obtain ⟨s, hs, rfl⟩ := Option.map_eq_some_iff.1 heq
  exact ⟨hkey, hs⟩

/-- What is written for a templated element is an element that its template can have written. -/
theorem IsTemplated.isPlainly_element (h : IsSimple e) (hwf : AreWellFormed e.attributes)
    (ht : IsTemplated e t)
    (hcontent : IsPlainContent t (t.element style (simpleConfiguration settings e)).children) :
    IsPlainly t (t.element style (simpleConfiguration settings e)) := by
  have hkeys := Template.keys_attributes_sublist style (simpleConfiguration settings e)
    t.attributeKeys
  have hattributes : ∀ a ∈ (t.element style (simpleConfiguration settings e)).attributes,
      a.1 ∈ t.attributeKeys ∧ a.2 ≠ "" ∧ NamedValue.isToken a.2 = false := by
    intro a ha
    rw [Template.attributes_element] at ha
    obtain ⟨hkey, htext⟩ := Template.text?_of_mem_attributes ha
    rw [text?_simpleConfiguration settings style h hwf, ht.parameterText?_of_mem h hkey] at htext
    obtain ⟨hv, hne⟩ := Option.filter_eq_some_iff.1 htext
    exact ⟨hkey, by simpa using hne, ht.literal (a.1, a.2) (mem_of_lookup hv)⟩
  refine ⟨Template.name_element .., ⟨?_, ?_⟩, ?_, Template.attributes_element_eq_filterMap .., ?_,
    hcontent⟩
  · exact fun a ha => Template.isName_of_mem_attributeKeys a.1 (hattributes a ha).1
  · rw [Template.attributes_element]
    exact t.nodup_attributeKeys.sublist hkeys
  · exact fun a ha => ⟨(hattributes a ha).1, (hattributes a ha).2.1⟩
  · exact fun a ha => (hattributes a ha).2.2

theorem renderItem_simpleItem_of_isTemplated (settings : Settings) (id : String) (order : Int)
    (h : IsSimple e) (hwf : AreWellFormed e.attributes) (ht : IsTemplated e t) :
    ({ settings } : Writer).renderItem (simpleItem settings id order e) =
      t.render settings (simpleConfiguration settings e) := by
  rw [simpleItem_eq, Writer.renderItem, Writer.renderCatalog_eq settings _ h.ne_sendRequest,
    templated?_of_isTemplated settings id order h hwf ht]

/-- An element that a template can have written is written by it once more. -/
theorem IsPlainly.renderItem_simpleItem (h : IsPlainly t E) (ht : t ≠ .choose)
    (settings : Settings) (id : String) (order : Int) :
    ({ settings } : Writer).renderItem (simpleItem settings id order E) =
      E.serialize settings.indentWidth := by
  rw [renderItem_simpleItem_of_isTemplated settings id order h.isSimple h.wellFormed h.isTemplated,
    Template.render_of_ne_choose ht]
  exact serialize_eq_of_tidy_eq (h.tidy_element settings _) settings.indentWidth

/-- Whatever has the tidy form of the element is read as its policy. -/
theorem IsPlainly.isReadAs (h : IsPlainly t E) (settings : Settings) :
    IsReadAs settings E.node fun id order i => i = simpleItem settings id order E := by
  refine isReadAs_node fun e' htidy id order => ⟨simpleItem settings id order e', ?_, ?_⟩
  · rw [elementItem?, shape_eq_of_tidy_eq htidy, h.isSimple.shape_eq]
  · exact simpleItem_eq_of_tidy_eq settings id order htidy h.isFlat

/-! ## Stability -/

theorem isStableAs_plain (h : IsSimple e) (hwf : AreWellFormed e.attributes) (ht : IsTemplated e t)
    (hne : t ≠ .choose)
    (hplain : IsPlainly t (t.element settings.namedValueStyle (simpleConfiguration settings e)))
    (hclean : (t.element settings.namedValueStyle (simpleConfiguration settings e)).IsClean)
    (hunbroken : (t.element settings.namedValueStyle
      (simpleConfiguration settings e)).IsUnbroken) :
    IsStableAs settings (simpleItem settings id order e)
      (t.element settings.namedValueStyle (simpleConfiguration settings e)).node := by
  have hrender := renderItem_simpleItem_of_isTemplated settings id order h hwf ht
  rw [Template.render_of_ne_choose hne] at hrender
  refine ⟨isWrittenAs_of_serialize hrender hclean hunbroken, fun n hn id' order' => ?_⟩
  obtain ⟨i', hi', rfl⟩ := hplain.isReadAs settings n hn id' order'
  exact ⟨_, hi', (hplain.renderItem_simpleItem hne settings id' order').trans hrender.symm⟩

/-- A header with a list of allowed values has child elements that are no parameters. -/
theorem shape_checkHeader (hvalues : Template.texts style c "values" ≠ []) :
    shape (Template.checkHeader.element style c) = .complex := by
  obtain ⟨v, vs, hvs⟩ := List.exists_cons_of_ne_nil hvalues
  rw [shape, Template.element, hvs]
  rfl

theorem isStableAs_checkHeader (h : IsSimple e) (hwf : AreWellFormed e.attributes)
    (ht : IsTemplated e .checkHeader)
    (hvalues : Template.texts settings.namedValueStyle (simpleConfiguration settings e) "values" ≠
      [])
    (hclean : (Template.checkHeader.element settings.namedValueStyle
      (simpleConfiguration settings e)).IsClean)
    (hunbroken : (Template.checkHeader.element settings.namedValueStyle
      (simpleConfiguration settings e)).IsUnbroken) :
    IsStableAs settings (simpleItem settings id order e)
      (Template.checkHeader.element settings.namedValueStyle
        (simpleConfiguration settings e)).node := by
  have hrender := renderItem_simpleItem_of_isTemplated settings id order h hwf ht
  rw [Template.render_of_ne_choose (by decide)] at hrender
  exact isStableAs_of_serialize hrender hclean hunbroken
    fun _ htidy => exists_elementItem?_of_complex (shape_checkHeader hvalues) hclean hunbroken htidy

/-! ## Branches -/

/-- A policy without leaves and without a text has only its attributes as parameters. -/
theorem IsTemplated.get?_choose (h : IsSimple e) (hwf : AreWellFormed e.attributes)
    (ht : IsTemplated e .choose) (key : String) :
    (simpleConfiguration settings e).get? key =
      (literal? e key).map (coerce settings.coerceScalars) := by
  have hleaf : leafText? e key = none := by
    refine leafText?_of_notMem h ?_
    rw [ht.name_eq]
    exact List.not_mem_nil
  rw [get?_simpleConfiguration settings h hwf, ht.trimmedText?_eq_none (by decide), hleaf]
  rfl

theorem IsTemplated.no_branches (h : IsSimple e) (hwf : AreWellFormed e.attributes)
    (ht : IsTemplated e .choose)
    (hotherwise : ∀ s, (simpleConfiguration settings e).get? "otherwise" ≠ some (.text s)) :
    Template.objects (simpleConfiguration settings e) "when" = [] ∧
      Template.rawLines (simpleConfiguration settings e) "otherwise" = none := by
  constructor
  · rw [Template.objects, ht.get?_choose h hwf]
    cases literal? e "when" with
    | none => rfl
    | some v =>
      rw [Option.map_some]
      rcases coerce_cases settings.coerceScalars v with hv | ⟨b, hv⟩ | ⟨n, hv⟩
      all_goals rw [hv]
  · rw [Template.rawLines]
    cases hv : (simpleConfiguration settings e).get? "otherwise" with
    | none => rfl
    | some v =>
      have htext (s : String) : v ≠ .text s := fun heq => hotherwise s (heq ▸ hv)
      cases v with
      | text s => exact absurd rfl (htext s)
      | _ => rfl

/-- The empty element of branches stands on two lines. -/
theorem isWrittenAs_choose {i : Item}
    (hrender : ({ settings } : Writer).renderItem i = unlines ["<choose>", "</choose>"]) :
    IsWrittenAs { settings } i (⟨"choose", [], []⟩ : Element).node := by
  have hlines : ∀ l ∈ ["<choose>", "</choose>"], IsLine l.toList := by
    simp only [List.mem_cons, List.not_mem_nil, or_false, forall_eq_or_imp, forall_eq]
    exact ⟨⟨by decide, by decide, by decide⟩, by decide, by decide, by decide⟩
  have hread := readsAsElement_element (show IsName "choose" by decide) areReadable_nil
    isBlankRun_nil (isBlankRun_lineGap settings.indentWidth 2) areSeparate_nil tidyNodes_nil
  refine ⟨rfl, _, hread.inside, ?_⟩
  rw [Writer.itemLines, hrender, lines_unlines hlines, map_padLine hlines]
  simp [lineGap, elementChars]

theorem render_choose (settings : Settings) (h : Template.objects c "when" = [] ∧
    Template.rawLines c "otherwise" = none) :
    Template.choose.render settings c = unlines ["<choose>", "</choose>"] := by
  rw [Template.render, Template.chooseLines_of_no_branches settings h.1 h.2]

theorem isStableAs_choose (h : IsSimple e) (hwf : AreWellFormed e.attributes)
    (ht : IsTemplated e .choose)
    (hotherwise : ∀ s, (simpleConfiguration settings e).get? "otherwise" ≠ some (.text s)) :
    IsStableAs settings (simpleItem settings id order e) (⟨"choose", [], []⟩ : Element).node := by
  have hrender := (renderItem_simpleItem_of_isTemplated settings id order h hwf ht).trans
    (render_choose settings (ht.no_branches h hwf hotherwise))
  have hplain : IsPlainly .choose ⟨"choose", [], []⟩ :=
    ⟨rfl, ⟨by simp, by simp⟩, by simp, rfl, by simp, .text none fun _ => rfl⟩
  refine ⟨isWrittenAs_choose hrender, fun n hn id' order' => ?_⟩
  obtain ⟨i', hi', rfl⟩ := hplain.isReadAs settings n hn id' order'
  have hempty : simpleConfiguration settings ⟨"choose", [], []⟩ = [] := rfl
  refine ⟨_, hi', Eq.trans ?_ hrender.symm⟩
  rw [renderItem_simpleItem_of_isTemplated settings id' order' hplain.isSimple hplain.wellFormed
    hplain.isTemplated, hempty]
  exact render_choose settings ⟨rfl, rfl⟩

/-! ## Simple elements -/

/-- A simple element that keeps its place is stable, however it is written. -/
theorem KeepsItsPlace.isStableAs (hkeeps : KeepsItsPlace settings e) (hname : IsName e.name)
    (h : IsSimple e) (hwf : AreWellFormed e.attributes)
    (hclean : ((simpleCatalogItem settings id order e).writtenElement
      settings.namedValueStyle).IsClean)
    (hunbroken : ((simpleCatalogItem settings id order e).writtenElement
      settings.namedValueStyle).IsUnbroken) :
    IsStableAs settings (simpleItem settings id order e)
      ((simpleCatalogItem settings id order e).writtenElement settings.namedValueStyle).node := by
  by_cases htemplated : ∃ t, IsTemplated e t
  · obtain ⟨t, ht⟩ := htemplated
    rw [CatalogItem.writtenElement, templated?_of_isTemplated settings id order h hwf ht]
      at hclean hunbroken ⊢
    dsimp only at hclean hunbroken ⊢
    by_cases hvalues : t = .checkHeader ∧
        Template.texts settings.namedValueStyle (simpleConfiguration settings e) "values" ≠ []
    · obtain ⟨rfl, hvalues⟩ := hvalues
      exact isStableAs_checkHeader h hwf ht hvalues hclean hunbroken
    · by_cases hchoose : t = .choose
      · subst hchoose
        exact isStableAs_choose h hwf ht (hkeeps.branches ht)
      · refine isStableAs_plain h hwf ht hchoose (ht.isPlainly_element h hwf ?_) hclean hunbroken
        refine Template.isPlainContent_element _ _ t ?_ ?_
        · exact fun hheader => by_contra fun hne => hvalues ⟨hheader, hne⟩
        · rintro rfl s hs
          rw [text?_simpleConfiguration settings _ h hwf] at hs
          obtain ⟨hs, hne⟩ := Option.filter_eq_some_iff.1 hs
          rw [Bool.eq_false_iff]
          intro hblank
          have hempty := hkeeps.message ht s hs hblank
          simp [hempty] at hne
  · have hgeneric := not_exists.1 htemplated
    rw [CatalogItem.writtenElement, templated?_of_not_isTemplated settings id order h hwf hgeneric]
      at hclean hunbroken ⊢
    exact hkeeps.isStableAs_generic hname h hwf hgeneric hclean hunbroken

end GatewayPolicy
