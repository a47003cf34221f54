import GatewayPolicy.Proofs.Policy.SendRequest
import GatewayPolicy.Proofs.Policy.StartTags
import GatewayPolicy.Proofs.Validation.Errors
/-!
# Required parameters are written

Validation asks for the parameters that a policy has to have, and the document of the policy carries
them: as attributes, as the text of the element, or as the text of a child element. Each way of
writing a policy reads other parts of it, so what is asked for has to be found again in each.

Templates leave empty texts out, and a request to another service takes plain values only.
-/

namespace GatewayPolicy

open Json Text Validation Xml

/-! ## What is read of a text -/

/-- What can be read of a written text: the text itself, or the text without references if it was
written as it is. -/
inductive IsReadingOf (style : NamedValueStyle) (s : String) : String → Prop
  /-- The text itself. -/
  | same : IsReadingOf style s s
  /-- Expressions are written as they are. -/
  | expression (h : isExpression s = true) : IsReadingOf style s (unescape s)
  /-- Tokens are written as they are. -/
  | token (h : NamedValue.isToken s = true ∨ ∃ name, s = NamedValue.token style name) :
    IsReadingOf style s (unescape s)

section Readings

variable {style : NamedValueStyle} {s raw : String} {v : Json}

theorem isReadingOf_attributeText (style : NamedValueStyle) (s : String) :
    IsReadingOf style s (unescape (attributeText s)) := by
  cases h : isExpression s with
  | true =>
    rw [attributeText, if_pos h]
    exact .expression h
  | false =>
    rw [unescape_attributeText (.inl h)]
    exact .same

theorem isReadingOf_contentText (style : NamedValueStyle) (s : String) :
    IsReadingOf style s (unescape (contentText s)) := by
  cases h : isExpression s with
  | true =>
    rw [contentText, if_pos h]
    exact .expression h
  | false =>
    rw [contentText, if_neg (by simp [h]), unescape, toList_escapeText,
      unescapeChars_escapeTextChars, String.ofList_toList]
    exact .same

theorem isReadingOf_attributeForm (hs : scalarText? style v = some s)
    (hraw : attributeForm? style v = some raw) : IsReadingOf style s (unescape raw) := by
  rw [attributeForm?, hs, Option.map_some, Option.some.injEq] at hraw
  subst hraw
  by_cases h : NamedValue.isToken s = true
  · rw [if_pos h]
    exact .token (.inl h)
  · rw [if_neg h]
    exact isReadingOf_attributeText style s

theorem isReadingOf_attributeValueText (style : NamedValueStyle) (a : AttributeValue) :
    IsReadingOf style (a.text style) (unescape (Writer.attributeValueText style a)) := by
  cases a with
  | literal s => exact isReadingOf_attributeText style s
  | namedValue r => exact .token (.inr ⟨r.name, rfl⟩)

/-- A visible text is read as one. -/
theorem isBlankText_unescape_contentText (h : isBlankText s = false) :
    isBlankText (unescape (contentText s)) = false := by
  cases hs : isExpression s with
  | true =>
    rw [contentText, if_pos hs, Bool.eq_false_iff]
    intro hblank
    have hexpression := isExpression_unescape hs
    rw [isExpression_of_isBlankText hblank] at hexpression
    exact Bool.noConfusion hexpression
  | false =>
    rwa [contentText, if_neg (by simp [hs]), unescape, toList_escapeText,
      unescapeChars_escapeTextChars, String.ofList_toList]

theorem trimmedText?_of_text_eq {x : Element} (hx : x.text = unescape (contentText s))
    (h : isBlankText s = false) : x.trimmedText? = some (trim (unescape (contentText s))) := by
  refine trimmedText?_eq_some_iff.2 ⟨by rw [hx], ?_⟩
  rw [Ne, trim_eq_empty_iff, isBlankText_unescape_contentText h]
  simp

end Readings

/-! ## The text of a template -/

namespace Template

variable {style : NamedValueStyle} {c : Fields} {t : Template} {key s : String}

/-- The text that a template writes as content; that of a body may be under a second name. -/
def contentText? (style : NamedValueStyle) (c : Fields) (t : Template) : Option String :=
  (t.content?.bind (text? style c)).or (if t = setBody then text? style c "body" else none)

/-- Content as a child: a text, or a message in an element of its own. -/
def contentNode (t : Template) (s : String) : Node :=
  if t = trace then leaf "message" s else .text s

@[simp] theorem contentNode_trace : trace.contentNode = leaf "message" := rfl

theorem contentNode_of_ne_trace (h : t ≠ trace) : t.contentNode = Node.text := by
  funext s
  rw [contentNode, if_neg h]

theorem contentText?_of_text? (hkey : t.content? = some key) (hs : text? style c key = some s) :
    t.contentText? style c = some s := by
  rw [contentText?, hkey, Option.bind_some, hs, Option.some_or]

/-- Only allowed values of headers and branches are more than one text. -/
theorem children_element (hheader : t ≠ checkHeader) (hchoose : t ≠ choose) :
    (t.element style c).children = ((t.contentText? style c).map t.contentNode).toList := by
  cases t with
  | checkHeader => exact absurd rfl hheader
  | choose => exact absurd rfl hchoose
  | trace => simp [element, contentText?, content?]
  | _ => simp [element, contentText?, content?, contentNode_of_ne_trace]

/-- Content that is no message is the text parameter of the policy. -/
theorem content?_of_ne_trace (h : t ≠ trace) : t.content? = textParameter? t.policyId := by
  cases t with
  | trace => exact absurd rfl h
  | _ => decide

theorem closesNothing_policyId (t : Template) : ClosesNothing t.policyId.toList := by
  cases t <;> decide

/-- The element shows the text that a template writes as content; a blank text is left out. -/
def Shows (t : Template) (x : Element) (s : String) : Prop :=
  if t = trace then ∃ y, x.childElements = [y] ∧ y.name = "message" ∧
    trim y.text = trim (unescape (contentText (trim s)))
  else isBlankText s = false → x.text = unescape (contentText (trim s))

theorem exists_parse_of_content {name : String} {attributes : Attributes} {o : Option String}
    (t : Template) (hname : IsName name) (hcloses : ClosesNothing name.toList)
    (h : AreReadable (writtenAttributes attributes))
    (hrun : ∀ s, o = some s → isExpression (trim s) = true → IsPlainRun (trim s).toList)
    (width : Nat) :
    ∃ x, parse ((⟨name, attributes, (o.map t.contentNode).toList⟩ : Element).serialize width) =
        .ok x ∧ ∀ s, o = some s → t.Shows x s := by
  cases o with
  | none =>
    obtain ⟨x, hparse, -⟩ := (readsAsElement_serialize_of_areReadable
      (e := ⟨name, attributes, []⟩) hname h (by simp) (by simp [HaveSeparateTexts, visibleNodes])
      width).parse
    exact ⟨x, hparse, by simp⟩
  | some s =>
    have hrun := hrun s rfl
    rw [Option.map_some, Option.toList_some, contentNode]
    simp only [Option.some.injEq, forall_eq', Shows]
    split
    · exact exists_parse_serialize_leaf hname h hcloses (by decide) (by decide) hrun width
    · cases hvisible : isBlankText s with
      | false =>
        refine ⟨_, parse_serialize_text hname h hcloses hvisible hrun width, fun _ => ?_⟩
        simp [Element.text, Node.characters]
      | true =>
        have hclean : (Node.text s).IsClean := .text (.inl hvisible)
        obtain ⟨x, hparse, -⟩ := (readsAsElement_serialize_of_areReadable
          (e := ⟨name, attributes, [.text s]⟩) hname h (List.forall_mem_singleton.2 hclean)
          (by simp [HaveSeparateTexts, visibleNodes, Node.isBlank, hvisible]) width).parse
        exact ⟨x, hparse, fun h => Bool.noConfusion h⟩

/-- The document of a template with at most one text is read, and shows it. -/
theorem exists_parse_element (hheader : t ≠ checkHeader) (hchoose : t ≠ choose)
    (h : AreReadable (writtenAttributes (t.element style c).attributes))
    (hrun : ∀ s, t.contentText? style c = some s → isExpression (trim s) = true →
      IsPlainRun (trim s).toList) (width : Nat) :
    ∃ x, parse ((t.element style c).serialize width) = .ok x ∧
      ∀ s, t.contentText? style c = some s → t.Shows x s := by
  have helement : t.element style c = ⟨t.policyId, (t.element style c).attributes,
      ((t.contentText? style c).map t.contentNode).toList⟩ := by
    rw [← children_element hheader hchoose, ← name_element style c t]
  have hparse := exists_parse_of_content t (isName_policyId t) (closesNothing_policyId t) h hrun
    width
  rwa [← helement] at hparse

end Template

/-! ## The text of a policy that is one element -/

/-- The document of a policy that is one element is read. -/
theorem Writer.parse_renderGeneric (w : Writer) {i : CatalogItem} (hname : IsName i.policyId)
    (hcloses : ClosesNothing i.policyId.toList)
    (h : AreReadable (i.rawAttributes w.settings.namedValueStyle))
    (hrun : ∀ t, elementText? w.settings.namedValueStyle i = some t → isExpression t = true →
      IsPlainRun t.toList) :
    parse (w.renderGeneric i) = .ok ⟨i.policyId,
      readRaw (i.rawAttributes w.settings.namedValueStyle),
      ((elementText? w.settings.namedValueStyle i).map fun t =>
        Node.text (unescape (contentText t))).toList⟩ := by
  unfold renderGeneric
  dsimp only
  cases ht : elementText? w.settings.namedValueStyle i with
  | none =>
    refine parse_of_readDocument ?_ (readDocument_closed hname h)
    simp [toList_rawAttributes, CatalogItem.rawAttributes]
  | some t =>
    have hne : t ≠ "" := by
      rintro rfl
      simp [elementText?, Option.filter_eq_some_iff] at ht
    refine parse_text hname h hcloses (isPlainRun_contentText (hrun t ht)) (contentText_ne_nil hne)
      ?_
    simp [toList_rawAttributes, CatalogItem.rawAttributes, elementChars, toList_endTag]

/-! ## What is given -/

namespace CatalogItem

variable {settings : Settings} {style : NamedValueStyle} {i : CatalogItem} {e : Entry}
  {name s : String}

/-- The parameter that a request to another service has to have. -/
def responseKey : String := "responseVariableName"

/-- The text that is given for a parameter: by an attribute, by the configuration, or as the text of
the element. A request to another service has plain values in its configuration. -/
def givenText? (style : NamedValueStyle) (i : CatalogItem) (name : String) : Option String :=
  if i.policyId = SendRequest.policyId then
    (i.configuration.get? name).bind SendRequest.plainText?
  else
    ((i.attributes.get? name).map (AttributeValue.text style)).or
      (((i.configuration.get? name).bind (scalarText? style)).or
        (if textParameter? i.policyId = some name then
          (i.configuration.get? textKey).bind (scalarText? style) else none))

theorem isSome_scalarText? {v : Json} (h : v ≠ .null) : (scalarText? style v).isSome = true := by
  cases v with
  | null => exact absurd rfl h
  | object fields =>
    rw [scalarText?]
    split <;> rfl
  | _ => rfl

theorem isSome_scalarText?_of_configures (style : NamedValueStyle) (h : i.Configures name) :
    ((i.configuration.get? name).bind (scalarText? style)).isSome = true := by
  obtain ⟨v, hv, hnull⟩ := h
  rw [hv, Option.bind_some]
  exact isSome_scalarText? hnull

/-- What validation finds has a text. -/
theorem Gives.isSome_givenText? (style : NamedValueStyle)
    (hpolicy : i.policyId ≠ SendRequest.policyId)
    (htext : e.textParameter = textParameter? i.policyId) (h : i.Gives e name) :
    (i.givenText? style name).isSome = true := by
  rw [givenText?, if_neg hpolicy, Option.isSome_or, Option.isSome_or, Option.isSome_map]
  rcases h with h | ⟨hname, h⟩ | h
  · simp [isSome_scalarText?_of_configures style h]
  · rw [← htext, if_pos hname, isSome_scalarText?_of_configures style h]
    simp
  · simp [Option.isSome_iff_ne_none.2 (NameMap.mem_keys_iff.1 h)]

/-- A template is given the same texts. -/
theorem givenText?_of_templated? {t : Template} {c : Fields} (h : i.templated? = some (t, c))
    (hname : name ≠ textKey) :
    i.givenText? style name = (c.get? name).bind (scalarText? style) := by
  obtain ⟨-, hattributes, hc⟩ := templated?_cases h
  have hnone : i.attributes.get? name = none := by
    rw [NameMap.eq_empty_of_isEmpty hattributes, NameMap.get?_empty]
  rw [givenText?, if_neg (policyId_ne_of_templated? h), hnone, Option.map_none, Option.none_or]
  rcases hc with ⟨htext, rfl⟩ | ⟨v, key, htext, hkey, hfree, rfl⟩
  · simp [htext]
  · rw [htext, hkey, Fields.get?_set, Fields.get?_erase, if_neg hname]
    by_cases hn : name = key
    · subst hn
      rw [Fields.get?_eq_none_iff.2 hfree]
      simp
    · simp [hn, Ne.symm hn]

/-! ## What is carried -/

/-- The text is kept when the policy is written: a visible text always is; templates leave empty
attributes and blank texts out. -/
inductive Keeps (i : CatalogItem) (name s : String) : Prop
  /-- The text is visible. -/
  | visible (h : isBlankText s = false)
  /-- It has characters and is not the text of the element. -/
  | nonempty (h : s ≠ "") (hname : textParameter? i.policyId ≠ some name)
  /-- It is an attribute of a policy that has no template. -/
  | given (h : i.templated? = none) (hname : i.Configures name ∨ name ∈ i.attributes.keys)

/-- The element carries the text as the parameter. -/
inductive Carries (style : NamedValueStyle) (i : CatalogItem) (x : Element) (name s : String) : Prop
  /-- As an attribute. -/
  | asAttribute {s' : String} (h : IsReadingOf style s s') (hx : x.attribute? name = some s')
  /-- As the text of the element. -/
  | asText {r s' : String} (hname : textParameter? i.policyId = some name) (hr : trim r = trim s)
    (h : IsReadingOf style r s') (hx : x.trimmedText? = some (trim s'))
  /-- As a message in an element of its own. -/
  | asMessage {y : Element} {r s' : String} (hpolicy : i.policyId = Template.trace.policyId)
    (hname : name = "message") (hy : x.child? "message" = some y) (hr : trim r = trim s)
    (h : IsReadingOf style r s') (hx : trim y.text = trim s')
  /-- As the attribute for the variable that receives the response. -/
  | asResponse {s' : String} (hpolicy : i.policyId = SendRequest.policyId) (hname : name = responseKey)
    (h : IsReadingOf style s s') (hx : x.attribute? "response-variable-name" = some s')

/-- The text of an element is kept only if it is visible. -/
theorem Keeps.isBlankText_eq (h : i.Keeps name s) (hparameter : textParameter? i.policyId = some name)
    (hgiven : i.templated? = none → ¬ (i.Configures name ∨ name ∈ i.attributes.keys)) :
    isBlankText s = false := by
  cases h with
  | visible hvisible => exact hvisible
  | nonempty _ hne => exact absurd hparameter hne
  | given hnone hname => exact absurd hname (hgiven hnone)

/-- A template keeps no empty text. -/
theorem Keeps.ne_empty_of_templated? {t : Template} {c : Fields} (h : i.Keeps name s)
    (htemplated : i.templated? = some (t, c)) : s ≠ "" := by
  cases h with
  | visible hvisible =>
    rintro rfl
    exact absurd hvisible (by decide)
  | nonempty hne _ => exact hne
  | given hnone _ =>
    rw [htemplated] at hnone
    simp at hnone

/-- The text that a policy has besides its attributes, as it is written. -/
def writtenText? (style : NamedValueStyle) (i : CatalogItem) : Option String :=
  if i.policyId = SendRequest.policyId then none
  else
    match i.templated? with
    | some (t, c) => (t.contentText? style c).map trim
    | none => Writer.elementText? style i

/-- A visible text is written. -/
theorem elementText?_of_visible
    (hs : (i.configuration.get? textKey).bind (scalarText? style) = some s)
    (hvisible : isBlankText s = false) : Writer.elementText? style i = some s := by
  have hne : s ≠ "" := by
    rintro rfl
    exact absurd hvisible (by decide)
  rw [Writer.elementText?, hs, Option.filter_some, if_pos (by simpa using hne)]

/-- The policy is written so that what it has to have can be read. -/
structure IsReadable (settings : Settings) (i : CatalogItem) : Prop where
  /-- The tag can be read. -/
  tag : i.HasLegibleTag settings
  /-- An expression is one run of text. -/
  text : ∀ t, i.writtenText? settings.namedValueStyle = some t → isExpression t = true →
    IsPlainRun t.toList
  /-- The variable that receives a response is named by a plain value; no other is written. -/
  response : i.policyId = SendRequest.policyId →
    ((i.configuration.get? responseKey).bind SendRequest.plainText?).isSome = true

/-- The attributes of a policy as they are read. -/
theorem IsReadable.attribute? (h : i.IsReadable settings) (hname : IsName i.policyId) {x : Element}
    (hparse : parse (({ settings } : Writer).renderItem (.catalog i)) = .ok x) (key : String) :
    x.attribute? key = ((i.writtenTag settings).lookup key).map unescape := by
  rw [Element.attribute?, (h.tag.tag_of_parse hname hparse).2, lookup_readRaw]

/-- A request to another service names the variable for the response. -/
theorem carries_of_request (h : i.IsReadable settings) (hpolicy : i.policyId = SendRequest.policyId)
    {x : Element} (hparse : parse (({ settings } : Writer).renderItem (.catalog i)) = .ok x)
    (hs : i.givenText? settings.namedValueStyle responseKey = some s) :
    i.Carries settings.namedValueStyle x responseKey s := by
  rw [givenText?, if_pos hpolicy] at hs
  have hattribute := h.attribute? (by rw [hpolicy]; decide) hparse "response-variable-name"
  have hlookup : ((SendRequest.ofConfiguration i.configuration).toElement settings).attributes.lookup
      "response-variable-name" = some s := by
    have hresponse : (SendRequest.ofConfiguration i.configuration).responseVariableName = some s :=
      hs
    simp [SendRequest.toElement, hresponse, SendRequest.attribute?, lookup_cons_of_ne]
  rw [writtenTag, if_pos hpolicy, lookup_writtenAttributes, hlookup] at hattribute
  exact .asResponse hpolicy rfl (isReadingOf_attributeText _ s) hattribute

section OneElement

variable {x : Element} (hname : IsName i.policyId) (hcloses : ClosesNothing i.policyId.toList)
  (hpolicy : i.policyId ≠ SendRequest.policyId) (htemplated : i.templated? = none)
  (h : i.IsReadable settings)

include hname hcloses hpolicy htemplated h

theorem parse_of_not_templated? : parse (({ settings } : Writer).renderItem (.catalog i)) =
    .ok ⟨i.policyId, readRaw (i.rawAttributes settings.namedValueStyle),
      ((Writer.elementText? settings.namedValueStyle i).map fun t =>
        Node.text (unescape (contentText t))).toList⟩ := by
  have hreadable := h.tag.areReadable
  rw [writtenTag_of_not_templated? hpolicy htemplated] at hreadable
  rw [Writer.renderItem, Writer.renderCatalog_eq settings i hpolicy, htemplated]
  refine Writer.parse_renderGeneric _ hname hcloses hreadable fun t ht => h.text t ?_
  rwa [writtenText?, if_neg hpolicy, htemplated]

/-- A policy that is one element has its parameters as attributes, or one of them as text. -/
theorem carries_of_not_templated? (htext : name ≠ textKey)
    (hparse : parse (({ settings } : Writer).renderItem (.catalog i)) = .ok x)
    (hs : i.givenText? settings.namedValueStyle name = some s) (hkeeps : i.Keeps name s) :
    i.Carries settings.namedValueStyle x name s := by
  rw [parse_of_not_templated? hname hcloses hpolicy htemplated h, Except.ok.injEq] at hparse
  have hattribute : x.attribute? name = (((i.attributes.get? name).map
      (Writer.attributeValueText settings.namedValueStyle)).or
        ((i.configuration.get? name).bind (attributeForm? settings.namedValueStyle))).map
      unescape := by
    rw [← hparse, Element.attribute?, lookup_readRaw, rawAttributes_eq,
      lookup_attributesWith _ _ h.tag.distinct, if_neg htext]
  rw [givenText?, if_neg hpolicy] at hs
  cases ha : i.attributes.get? name with
  | some a =>
    rw [ha] at hs hattribute
    obtain rfl : a.text settings.namedValueStyle = s := by simpa using hs
    exact .asAttribute (isReadingOf_attributeValueText _ a) (by simpa using hattribute)
  | none =>
    rw [ha, Option.map_none, Option.none_or] at hs hattribute
    cases hv : (i.configuration.get? name).bind (scalarText? settings.namedValueStyle) with
    | some s' =>
      rw [hv, Option.some_or, Option.some.injEq] at hs
      subst hs
      obtain ⟨v, hget, hscalar⟩ := Option.bind_eq_some_iff.1 hv
      obtain ⟨raw, hraw⟩ : ∃ raw, attributeForm? settings.namedValueStyle v = some raw := by
        rw [attributeForm?, hscalar]
        exact ⟨_, rfl⟩
      rw [hget, Option.bind_some, hraw, Option.map_some] at hattribute
      exact .asAttribute (isReadingOf_attributeForm hscalar hraw) hattribute
    | none =>
      rw [hv, Option.none_or] at hs
      obtain ⟨hparameter, hs⟩ := Option.ite_none_right_eq_some.1 hs
      have hvisible : isBlankText s = false := by
        refine hkeeps.isBlankText_eq hparameter fun _ hgiven => ?_
        rcases hgiven with hgiven | hgiven
        · have hsome := isSome_scalarText?_of_configures settings.namedValueStyle hgiven
          rw [hv] at hsome
          exact Bool.noConfusion hsome
        · exact NameMap.mem_keys_iff.1 hgiven ha
      rw [elementText?_of_visible hs hvisible, Option.map_some, Option.toList_some] at hparse
      refine .asText hparameter rfl (isReadingOf_contentText _ s) ?_
      refine trimmedText?_of_text_eq ?_ hvisible
      rw [← hparse]
      simp [Element.text, Node.characters]

end OneElement

section Templates

variable {x : Element} {t : Template} {c : Fields} (htemplated : i.templated? = some (t, c))
  (hchoose : t ≠ .choose) (h : i.IsReadable settings)

include htemplated hchoose h

theorem exists_parse_of_templated? (hheader : t ≠ .checkHeader) :
    ∃ x, parse (({ settings } : Writer).renderItem (.catalog i)) = .ok x ∧
      ∀ s, t.contentText? settings.namedValueStyle c = some s → t.Shows x s := by
  have hreadable := h.tag.areReadable
  rw [writtenTag_of_templated? htemplated] at hreadable
  rw [renderItem_of_templated? htemplated, Template.render_of_ne_choose hchoose]
  refine Template.exists_parse_element hheader hchoose hreadable (fun s hs => h.text _ ?_) _
  rw [writtenText?, if_neg (policyId_ne_of_templated? htemplated), htemplated]
  exact congrArg (Option.map trim) hs

omit hchoose in
/-- A key of a template is written as an attribute. -/
theorem carries_of_attributeKey
    (hparse : parse (({ settings } : Writer).renderItem (.catalog i)) = .ok x)
    (hkey : name ∈ t.attributeKeys)
    (hgiven : Template.text? settings.namedValueStyle c name = some s) :
    i.Carries settings.namedValueStyle x name s := by
  have hid := policyId_of_templated? htemplated
  have hattribute := h.attribute? (hid ▸ Template.isName_policyId t) hparse name
  rw [writtenTag_of_templated? htemplated, lookup_writtenAttributes, Template.attributes_element,
    Template.lookup_attributes _ _ t.nodup_attributeKeys, if_pos hkey, hgiven] at hattribute
  exact .asAttribute (isReadingOf_attributeText _ s) hattribute

/-- The content of a template is written as the text of the element, or of a child element. -/
theorem carries_of_content?
    (hparse : parse (({ settings } : Writer).renderItem (.catalog i)) = .ok x)
    (hkey : t.content? = some name)
    (hgiven : Template.text? settings.namedValueStyle c name = some s)
    (hkeeps : i.Keeps name s) : i.Carries settings.namedValueStyle x name s := by
  have hid := policyId_of_templated? htemplated
  have hheader : t ≠ .checkHeader := by
    rintro rfl
    simp [Template.content?] at hkey
  obtain ⟨x', hparse', hshows⟩ := exists_parse_of_templated? htemplated hchoose h hheader
  obtain rfl : x' = x := Except.ok.inj (hparse'.symm.trans hparse)
  have hshown := hshows s (Template.contentText?_of_text? hkey hgiven)
  unfold Template.Shows at hshown
  by_cases ht : t = .trace
  · rw [if_pos ht] at hshown
    obtain ⟨y, hy, hyname, hytext⟩ := hshown
    subst ht
    refine .asMessage hid.symm (Option.some.inj hkey).symm ?_ (trim_trim s)
      (isReadingOf_contentText _ _) hytext
    rw [Element.child?, hy, List.find?_singleton, hyname]
    rfl
  · rw [if_neg ht] at hshown
    have hparameter : textParameter? i.policyId = some name := by
      rw [← hid, ← Template.content?_of_ne_trace ht, hkey]
    have hvisible : isBlankText s = false :=
      hkeeps.isBlankText_eq hparameter (by simp [htemplated])
    refine .asText hparameter (trim_trim s) (isReadingOf_contentText _ _) ?_
    have hread : isBlankText (trim s) = false := by
      rw [← Bool.not_eq_true, ← trim_eq_empty_iff, trim_trim, trim_eq_empty_iff, hvisible]
      simp
    exact trimmedText?_of_text_eq (hshown hvisible) hread

/-- A policy with a template has its parameters as attributes or as content. -/
theorem carries_of_templated?
    (hparse : parse (({ settings } : Writer).renderItem (.catalog i)) = .ok x)
    (hkey : name ∈ t.attributeKeys ∨ t.content? = some name) (htext : name ≠ textKey)
    (hs : i.givenText? settings.namedValueStyle name = some s) (hkeeps : i.Keeps name s) :
    i.Carries settings.namedValueStyle x name s := by
  have hne := hkeeps.ne_empty_of_templated? htemplated
  have hgiven : Template.text? settings.namedValueStyle c name = some s := by
    rw [givenText?_of_templated? htemplated htext] at hs
    rw [Template.text?, hs, Option.filter_some, if_pos (by simpa using hne)]
  rcases hkey with hkey | hkey
  · exact carries_of_attributeKey htemplated h hparse hkey hgiven
  · exact carries_of_content? htemplated hchoose h hparse hkey hgiven hkeeps

end Templates

/-! ## Documents that are read -/

/-- The child elements of a request to another service, and of a header with allowed values. -/
def parts (settings : Settings) (i : CatalogItem) : List Node :=
  if i.policyId = SendRequest.policyId then
    ((SendRequest.ofConfiguration i.configuration).toElement settings).children
  else
    match i.templated? with
    | some (.checkHeader, c) =>
      (Template.checkHeader.element settings.namedValueStyle c).children
    | _ => []

/-- The document of a policy is read if its child elements are. -/
theorem exists_parse_renderItem_of_parts (h : i.IsReadable settings) (hname : IsName i.policyId)
    (hcloses : ClosesNothing i.policyId.toList) (hchoose : i.policyId ≠ Template.choose.policyId)
    (hparts : ∀ n ∈ i.parts settings, n.IsClean) :
    ∃ x, parse (({ settings } : Writer).renderItem (.catalog i)) = .ok x := by
  by_cases hpolicy : i.policyId = SendRequest.policyId
  · have hreadable := h.tag.areReadable
    rw [writtenTag, if_pos hpolicy] at hreadable
    rw [parts, if_pos hpolicy] at hparts
    have hseparate : HaveSeparateTexts
        ((SendRequest.ofConfiguration i.configuration).toElement settings).children :=
      haveSeparateTexts_of_elements fun n hn =>
        (SendRequest.exists_element_of_mem_children hn).imp fun _ hc => hc.1
    have hid : IsName SendRequest.policyId := by decide
    have hreads := readsAsElement_serialize_of_areReadable hid hreadable hparts hseparate
      settings.indentWidth
    rw [Writer.renderItem, Writer.renderCatalog, if_pos hpolicy]
    exact hreads.parse.imp fun _ hx => hx.1
  · cases htemplated : i.templated? with
    | none => exact ⟨_, parse_of_not_templated? hname hcloses hpolicy htemplated h⟩
    | some tc =>
      obtain ⟨t, c⟩ := tc
      have hne : t ≠ .choose := by
        rintro rfl
        exact hchoose (policyId_of_templated? htemplated).symm
      by_cases hheader : t = .checkHeader
      · subst hheader
        have hreadable := h.tag.areReadable
        rw [writtenTag_of_templated? htemplated] at hreadable
        rw [parts, if_neg hpolicy, htemplated] at hparts
        have hseparate : HaveSeparateTexts
            (Template.checkHeader.element settings.namedValueStyle c).children :=
          haveSeparateTexts_of_elements fun n hn => by
            obtain ⟨s, -, rfl⟩ := List.mem_map.1 hn
            exact ⟨⟨"value", [], [.text s]⟩, rfl⟩
        have hreads := readsAsElement_serialize_of_areReadable
          (Template.isName_policyId .checkHeader) hreadable hparts hseparate settings.indentWidth
        rw [renderItem_of_templated? htemplated, Template.render_of_ne_choose hne]
        exact hreads.parse.imp fun _ hx => hx.1
      · exact (exists_parse_of_templated? htemplated hne h hheader).imp fun _ hx => hx.1

end CatalogItem

/-! ## The built-in catalog -/

namespace Catalog

/-- The policies of the catalog have names that close no expression. -/
theorem isName_of_mem : ∀ e ∈ builtinEntries, IsName e.id ∧ ClosesNothing e.id.toList := by
  decide +kernel

/-- Each way of writing a policy has a place for each parameter that it has to have. -/
theorem required_of_mem : ∀ e ∈ builtinEntries, ∀ q ∈ e.parameters, q.required = true →
    q.name ≠ textKey ∧ (e.id = SendRequest.policyId → q.name = CatalogItem.responseKey) ∧
      ∀ t ∈ Template.all, Template.ofPolicy? e.id = some t → t ≠ .choose →
        q.name ∈ t.attributeKeys ∨ t.content? = some q.name := by
  decide +kernel

end Catalog

/-! ## Validation and documents agree -/

section Agreement

variable {m : Model} {p : PlacedItem} {i : CatalogItem} {e : Entry}

/-- A policy without findings about missing parameters gives what it has to. -/
theorem gives_of_not_reported (hp : p ∈ m.placedItems) (hitem : p.item = .catalog i)
    (hentry : Catalog.builtin.get? i.policyId = some e)
    (hreported : ∀ j ∈ m.validate.errors, j ∈ itemErrors Catalog.builtin p →
      j.code ≠ .missingRequiredParameter) {q : Parameter} (hq : q ∈ e.parameters)
    (hrequired : q.required = true) : i.Gives e q.name := by
  by_contra hgives
  have hmissing : q ∈ missingParameters e i := by
    rw [missingParameters_eq]
    exact List.mem_filter.2 ⟨hq, by simp [hrequired, hgives]⟩
  have herror : issue (parameterPath p.path q.name) .missingRequiredParameter
      ("policy '" ++ i.policyId ++ "' requires parameter '" ++ q.name ++ "'") ∈
        itemErrors Catalog.builtin p := by
    rw [itemErrors, hitem]
    dsimp only
    rw [hentry]
    exact List.mem_append_right _ (List.mem_append_right _ (List.mem_map.2 ⟨q, hmissing, rfl⟩))
  exact hreported _ (List.mem_flatMap.2 ⟨p, hp, herror⟩) herror rfl

/-- The document of a policy to which validation finds nothing missing carries the parameters that
the policy has to have, each with the text that is given for it. -/
theorem carries_required (settings : Settings) (hp : p ∈ m.placedItems)
    (hitem : p.item = .catalog i) (hentry : Catalog.builtin.get? i.policyId = some e)
    (hchoose : i.policyId ≠ Template.choose.policyId)
    (hreported : ∀ j ∈ m.validate.errors, j ∈ itemErrors Catalog.builtin p →
      j.code ≠ .missingRequiredParameter)
    (hreadable : i.IsReadable settings) :
    ((∀ n ∈ i.parts settings, n.IsClean) →
      ∃ x, parse (({ settings } : Writer).renderItem (.catalog i)) = .ok x) ∧
    ∀ x, parse (({ settings } : Writer).renderItem (.catalog i)) = .ok x →
      ∀ q ∈ e.parameters, q.required = true →
        ∃ s, i.givenText? settings.namedValueStyle q.name = some s ∧
          (i.Keeps q.name s → i.Carries settings.namedValueStyle x q.name s) := by
  obtain ⟨hmem, hid⟩ := Catalog.mem_of_get?_builtin hentry
  obtain ⟨hname, hcloses⟩ := Catalog.isName_of_mem e hmem
  rw [hid] at hname hcloses
  refine ⟨CatalogItem.exists_parse_renderItem_of_parts hreadable hname hcloses hchoose, ?_⟩
  intro x hparse q hq hrequired
  obtain ⟨htext, hrequest, htemplate⟩ := Catalog.required_of_mem e hmem q hq hrequired
  rw [hid] at hrequest htemplate
  by_cases hpolicy : i.policyId = SendRequest.policyId
  · obtain hkey := hrequest hpolicy
    obtain ⟨s, hs⟩ := Option.isSome_iff_exists.1 (hreadable.response hpolicy)
    have hgiven : i.givenText? settings.namedValueStyle CatalogItem.responseKey = some s := by
      rw [CatalogItem.givenText?, if_pos hpolicy, hs]
    rw [hkey]
    exact ⟨s, hgiven, fun _ => CatalogItem.carries_of_request hreadable hpolicy hparse hgiven⟩
  · have hgives := gives_of_not_reported hp hitem hentry hreported hq hrequired
    obtain ⟨s, hs⟩ := Option.isSome_iff_exists.1
      (hgives.isSome_givenText? settings.namedValueStyle hpolicy
        (Catalog.textParameter_builtin hentry))
    refine ⟨s, hs, fun hkeeps => ?_⟩
    cases htemplated : i.templated? with
    | none =>
      exact CatalogItem.carries_of_not_templated? hname hcloses hpolicy htemplated hreadable htext
        hparse hs hkeeps
    | some tc =>
      obtain ⟨t, c⟩ := tc
      have hne : t ≠ .choose := by
        rintro rfl
        exact hchoose (CatalogItem.policyId_of_templated? htemplated).symm
      have hkey := htemplate t (Template.mem_all t) (CatalogItem.templated?_cases htemplated).1 hne
      exact CatalogItem.carries_of_templated? htemplated hne hreadable hparse hkey htext hs
        hkeeps

end Agreement

/-! ### A policy that agrees -/

/-- Nothing is missing if the entry of the policy says so. -/
theorem code_ne_of_gives {p : PlacedItem} {i : CatalogItem} (hitem : p.item = .catalog i)
    (h : ∀ e ∈ Catalog.builtinEntries, e.id = i.policyId → ∀ q ∈ e.parameters, q.required = true →
      i.Gives e q.name) :
    ∀ j ∈ itemErrors Catalog.builtin p, j.code ≠ .missingRequiredParameter := by
  have hlacking : lacking Catalog.builtin i = [] := lacking_eq_nil_iff.2 fun e he =>
    h e (Catalog.mem_of_get?_builtin he).1 (Catalog.mem_of_get?_builtin he).2
  have hcount : (itemErrors Catalog.builtin p).countP (·.code = .missingRequiredParameter) = 0 := by
    rw [countP_itemErrors, hitem]
    simp [offences, policiesOf, Item.catalog?, hlacking]
  intro j hj
  simpa using List.countP_eq_zero.1 hcount j hj

/-- A trace whose message is an expression. -/
def tracedItem : CatalogItem where
  id := "trace"
  order := 0
  policyId := "trace"
  configuration := [("source", .text "orders"), ("message", .text "@(context.Api.Name)")]

/-- A model with a trace. -/
def tracedModel : Model where
  scope := .global
  sections := { inbound := some { items := [.catalog tracedItem] } }

theorem isReadable_tracedItem : tracedItem.IsReadable {} := by
  have htag : tracedItem.writtenTag {} = [("source", "orders")] := by decide +kernel
  have hcontent : tracedItem.writtenText? .dollar = some "@(context.Api.Name)" := by decide +kernel
  refine ⟨⟨by decide, by rw [htag]; decide, ?_⟩, ?_, fun h => absurd h (by decide)⟩
  · rw [htag, List.forall_mem_singleton]
    exact isQuotable_of_notMem (by decide) (by decide)
  · intro t ht _
    obtain rfl := Option.some.inj (hcontent.symm.trans ht)
    exact .inl (by decide)

theorem carries_required_tracedItem :
    ∃ x, parse (({} : Writer).renderItem (.catalog tracedItem)) = .ok x ∧
      tracedItem.Carries .dollar x "source" "orders" ∧
      tracedItem.Carries .dollar x "message" "@(context.Api.Name)" := by
  obtain ⟨e, he⟩ : ∃ e, Catalog.builtin.get? tracedItem.policyId = some e := by
    rw [Catalog.get?_builtin]
    exact Option.isSome_iff_exists.1 (by decide +kernel)
  obtain ⟨hread, hcarries⟩ := carries_required {} (m := tracedModel)
    (p := ⟨.inbound, 0, .catalog tracedItem⟩) (List.mem_singleton.2 rfl) rfl he (by decide)
    (fun j _ => code_ne_of_gives rfl (by decide +kernel) j) isReadable_tracedItem
  have hparts : tracedItem.parts {} = [] := rfl
  obtain ⟨x, hx⟩ := hread (by simp [hparts])
  have hrequired : ∀ e' ∈ Catalog.builtinEntries, e'.id = "trace" →
      (∃ q ∈ e'.parameters, q.name = "source" ∧ q.required = true) ∧
        ∃ q ∈ e'.parameters, q.name = "message" ∧ q.required = true := by
    decide +kernel
  obtain ⟨hmem, hid⟩ := Catalog.mem_of_get?_builtin he
  obtain ⟨⟨q, hq, hname, hq'⟩, ⟨r, hr, hname', hr'⟩⟩ := hrequired e hmem hid
  obtain ⟨s, hs, hsource⟩ := hcarries x hx q hq hq'
  obtain ⟨t, ht, hmessage⟩ := hcarries x hx r hr hr'
  rw [hname] at hs hsource
  rw [hname'] at ht hmessage
  obtain rfl : "orders" = s := Option.some.inj hs
  obtain rfl : "@(context.Api.Name)" = t := Option.some.inj ht
  exact ⟨x, hx, hsource (.visible (by decide)), hmessage (.visible (by decide))⟩

/-! ### Policies that do not -/

/-- Validation finds nothing missing, but the document does not carry the parameter. -/
def IsLost (i : CatalogItem) (name : String) : Prop :=
  (∀ p : PlacedItem, p.item = .catalog i →
    ∀ j ∈ itemErrors Catalog.builtin p, j.code ≠ .missingRequiredParameter) ∧
  ¬ ∃ x s, parse (({} : Writer).renderItem (.catalog i)) = .ok x ∧ i.Carries .dollar x name s

/-- There is nothing in the element that could carry the parameter. -/
def Xml.Element.lacks (x : Element) (name : String) : Bool :=
  (x.attribute? name).isNone && x.trimmedText?.isNone && (x.child? "message").isNone &&
    (x.attribute? "response-variable-name").isNone

theorem isLost_of_document {i : CatalogItem} {name : String} (document : String)
    (hrender : ({} : Writer).renderItem (.catalog i) = document)
    (hgives : ∀ e ∈ Catalog.builtinEntries, e.id = i.policyId → ∀ q ∈ e.parameters,
      q.required = true → i.Gives e q.name)
    (hlacks : (parse document).toOption.all (·.lacks name) = true) : IsLost i name := by
  refine ⟨fun p hitem => code_ne_of_gives hitem hgives, ?_⟩
  rintro ⟨x, s, hparse, hcarries⟩
  rw [hrender] at hparse
  have hx : x.lacks name = true := by simpa [hparse, Except.toOption] using hlacks
  simp only [Element.lacks, Bool.and_eq_true, Option.isNone_iff_eq_none] at hx
  obtain ⟨⟨⟨hattribute, htext⟩, hmessage⟩, hresponse⟩ := hx
  cases hcarries with
  | asAttribute _ h => simp [hattribute] at h
  | asText _ _ _ h => simp [htext] at h
  | asMessage _ _ h => simp [hmessage] at h
  | asResponse _ _ _ h => simp [hresponse] at h

/-- A header to check that has an empty name. -/
def unnamedItem : CatalogItem where
  id := "check"
  order := 0
  policyId := "check-header"
  configuration := [("name", .text ""), ("failed-check-httpcode", .number (.int 401)),
    ("failed-check-error-message", .text "no"), ("ignore-case", .bool true)]

/-- A policy that sets the body. -/
def bodyWith (value : String) : CatalogItem where
  id := "body"
  order := 0
  policyId := "set-body"
  configuration := [("value", .text value)]

/-- A request that names variables in a list. -/
def listedRequest : CatalogItem where
  id := "request"
  order := 0
  policyId := "send-request"
  configuration := [("responseVariableName", .array [.text "a"])]

/-- A header with a key that is no name. -/
def keyedHeader : CatalogItem where
  id := "header"
  order := 0
  policyId := "set-header"
  configuration := [("name", .text "a"), ("b c", .text "d")]

theorem renderItem_bodyWith (value : String) :
    ({} : Writer).renderItem (.catalog (bodyWith value)) =
      Template.setBody.render {} [("value", .text value)] :=
  renderItem_of_templated? rfl

set_option maxRecDepth 20000 in
/-- Templates leave out empty attributes and blank texts, requests leave out lists, and what is
written for an expression or a key may not be read. -/
theorem not_carries_required :
    IsLost unnamedItem "name" ∧ IsLost (bodyWith " ") "value" ∧
      IsLost listedRequest CatalogItem.responseKey ∧ IsLost keyedHeader "name" ∧
      IsLost (bodyWith "@ <a") "value" := by
  refine ⟨?_, ?_, ?_, ?_, ?_⟩
  · refine isLost_of_document ("<check-header failed-check-httpcode=\"401\" " ++
      "failed-check-error-message=\"no\" ignore-case=\"true\" />") ?_ (by decide +kernel)
      (by with_unfolding_all rfl)
    rw [renderItem_of_templated? (t := .checkHeader) (c := unnamedItem.configuration) rfl]
    decide +kernel
  · refine isLost_of_document "<set-body />" ?_ (by decide +kernel) (by with_unfolding_all rfl)
    rw [renderItem_bodyWith]
    decide +kernel
  · refine isLost_of_document "<send-request mode=\"new\" />" ?_ (by decide +kernel)
      (by with_unfolding_all rfl)
    decide +kernel
  · refine isLost_of_document "<set-header name=\"a\" b c=\"d\" />" ?_ (by decide +kernel)
      (by with_unfolding_all rfl)
    rw [Writer.renderItem, Writer.renderCatalog_eq {} _ (by decide),
      CatalogItem.templated?_of_ofPolicy? (by decide)]
    decide +kernel
  · refine isLost_of_document "<set-body>@ <a</set-body>" ?_ (by decide +kernel)
      (by with_unfolding_all rfl)
    rw [renderItem_bodyWith]
    decide +kernel

end GatewayPolicy
