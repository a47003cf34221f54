import GatewayPolicy.Proofs.Policy.Fragment
import GatewayPolicy.Proofs.Policy.SimpleContent
/-!
# From models to documents and back

Fragments, policies without a template, and policies whose template carries one parameter as text are
read back from the document of a model: in the order in which they are emitted, numbered anew, and
with the same configuration up to order.
-/

namespace GatewayPolicy

open Json Text Xml

variable {settings : Settings} {style : NamedValueStyle} {v : Json} {s key : String} {n : Int}

/-! ## Values -/

/-- A text that an attribute gives back. -/
structure IsAttributeSafe (s : String) : Prop where
  /-- It is literal or a complete expression. -/
  clean : IsCleanValue s
  /-- It is on one line. -/
  unbroken : '\n' ∉ s.toList
  /-- It is no token. -/
  literal : NamedValue.isToken s = false
  /-- It is taken for no number and no truth value. -/
  coerced : coerce true s = .text s

/-- A text that the text of an element gives back. -/
structure IsTextSafe (s : String) : Prop where
  /-- It is literal or a complete expression. -/
  clean : IsCleanText s
  /-- It is on one line. -/
  unbroken : '\n' ∉ s.toList
  /-- It has no blanks at its ends. -/
  trimmed : trim s = s
  /-- It is not empty. -/
  ne_empty : s ≠ ""

theorem IsTextSafe.isElementText {s : String} (h : IsTextSafe s) : IsElementText s :=
  ⟨h.trimmed, h.ne_empty⟩

/-- A name whose token can be written. -/
structure IsReferenceName (name : String) : Prop where
  /-- It can stand in a token. -/
  token : NamedValue.IsTokenName name.toList
  /-- It has no quotes. -/
  quote : '"' ∉ name.toList
  /-- It has no ampersands. -/
  ampersand : '&' ∉ name.toList
  /-- It is on one line. -/
  unbroken : '\n' ∉ name.toList

/-- A value that an attribute gives back. -/
inductive IsAttributeValue : Json → Prop
  /-- A truth value. -/
  | bool (b : Bool) : IsAttributeValue (.bool b)
  /-- An integer of 64 bits. -/
  | int {n : Int} (h : fitsSigned64 n = true) : IsAttributeValue (.number (.int n))
  /-- A text. -/
  | text {s : String} (h : IsAttributeSafe s) : IsAttributeValue (.text s)

/-- The text of a value that an attribute gives back. -/
structure IsTextOf (style : NamedValueStyle) (s : String) (v : Json) : Prop where
  /-- It is the text. -/
  scalarText?_eq : scalarText? style v = some s
  /-- The value is taken from it. -/
  coerce_eq : coerce true s = v
  /-- It is literal or a complete expression. -/
  clean : IsCleanValue s
  /-- It is on one line. -/
  unbroken : '\n' ∉ s.toList
  /-- It is no token. -/
  literal : NamedValue.isToken s = false

theorem IsAttributeValue.exists_text (style : NamedValueStyle) (h : IsAttributeValue v) :
    ∃ s, IsTextOf style s v := by
  cases h with
  | bool b =>
    refine ⟨boolWord b, by rw [scalarText?], coerce_boolWord b, ?_, ?_, ?_⟩
    · cases b <;> decide
    · cases b <;> decide
    · cases b <;> decide
  | @int n h =>
    have hother {c : Char} (hc : isNumberChar c = false) : c ∉ (toString n).toList :=
      notMem_print hc (.int n)
    exact ⟨toString n, by rw [scalarText?, Number.print], coerce_toString h,
      .inl (isExpression_print (.int n)), hother (by decide),
      NamedValue.isToken_of_notMem (hother (by decide))⟩
  | @text s h => exact ⟨s, by rw [scalarText?], h.coerced, h.clean, h.unbroken, h.literal⟩

/-! ## Items -/

/-- A reference to a fragment that is read back. -/
structure FragmentItem.IsRestorable (i : FragmentItem) : Prop where
  /-- The name is not empty. -/
  ne_empty : i.fragmentId ≠ ""
  /-- It has no blanks at its ends. -/
  trimmed : trim i.fragmentId = i.fragmentId
  /-- It is on one line. -/
  unbroken : '\n' ∉ i.fragmentId.toList
  /-- It is no expression. -/
  literal : isExpression i.fragmentId = false

namespace CatalogItem

/-- A policy without template that is read back. -/
structure IsPlainPolicy (i : CatalogItem) : Prop where
  /-- The policy has a name. -/
  name : IsName i.policyId
  /-- It is taken neither for the enclosing scope nor for a fragment nor for `send-request`. -/
  notMem : i.policyId ∉ ["base", "include-fragment", "include", SendRequest.policyId]
  /-- It has no template. -/
  untemplated : Template.ofPolicy? i.policyId = none
  /-- No parameter is repeated. -/
  distinct : (i.configuration.map Prod.fst).Nodup
  /-- The parameters have names, the text aside. -/
  names : ∀ a ∈ i.configuration, a.1 ≠ textKey → IsName a.1
  /-- The parameters are given back, the text aside. -/
  values : ∀ a ∈ i.configuration, a.1 ≠ textKey → IsAttributeValue a.2
  /-- The text is given back. -/
  text : ∀ a ∈ i.configuration, a.1 = textKey → ∃ s, a.2 = .text s ∧ IsTextSafe s
  /-- The attributes have names, which are no parameters, and are named values without a secret. -/
  attributes : ∀ a ∈ i.attributes.entries, IsName a.1 ∧ a.1 ∉ i.configuration.map Prod.fst ∧
    ∃ name, a.2 = .namedValue { name } ∧ IsReferenceName name

end CatalogItem

/-- A policy with a template that is read back: it has parameters that the template writes, and
nothing else. -/
structure CatalogItem.IsTemplatePolicy (i : CatalogItem) (t : Template) (content : String) :
    Prop where
  /-- The policy has the template. -/
  policy : i.policyId = t.policyId
  /-- The template writes a text. -/
  content_eq : t.content? = some content
  /-- There are no attributes. -/
  attributes : i.attributes = .empty
  /-- No parameter is repeated. -/
  distinct : (i.configuration.map Prod.fst).Nodup
  /-- The parameters are attributes or the text, and are given back. -/
  parameters : ∀ a ∈ i.configuration,
    (a.1 ∈ t.attributeKeys ∧ IsAttributeValue a.2 ∧ a.2 ≠ .text "") ∨
      (a.1 = content ∧ ∃ s, a.2 = .text s ∧ IsTextSafe s)

/-- An item that is read back. -/
inductive Item.IsRestorable : Item → Prop
  /-- A reference to a fragment. -/
  | fragment {i : FragmentItem} (h : i.IsRestorable) : Item.IsRestorable (.fragment i)
  /-- A policy that is written as one element. -/
  | plain {i : CatalogItem} (h : i.IsPlainPolicy) : Item.IsRestorable (.catalog i)
  /-- A policy that is written by a template. -/
  | template {i : CatalogItem} {t : Template} {content : String}
      (h : i.IsTemplatePolicy t content) : Item.IsRestorable (.catalog i)

/-- The second item is the first with a new identifier and a new place; its configuration may be in
another order. -/
inductive IsRestored (id : String) (order : Int) : Item → Item → Prop
  /-- A reference to a fragment. -/
  | fragment (i : FragmentItem) :
      IsRestored id order (.fragment i) (.fragment { id, order, fragmentId := i.fragmentId })
  /-- A policy. -/
  | catalog {i : CatalogItem} {c : Fields} (h : c.Perm i.configuration) :
      IsRestored id order (.catalog i)
        (.catalog { id, order, policyId := i.policyId, configuration := c
                    attributes := i.attributes })

/-! ## Fragments -/

theorem isWrittenAs_restorable {i : FragmentItem} (h : i.IsRestorable) :
    IsWrittenAs { settings } (.fragment i) (fragmentElement i.fragmentId).node := by
  refine isWrittenAs_fragment ⟨.inl h.literal, ?_, h.unbroken⟩
  rw [attributeText, if_neg (by simp [h.literal])]

theorem isReadAs_restorable {i : FragmentItem} (h : i.IsRestorable) :
    IsReadAs settings (fragmentElement i.fragmentId).node
      fun id order i' => IsRestored id order (.fragment i) i' := by
  intro n hn id order
  obtain ⟨i', hi', rfl⟩ := isReadAs_fragment settings h.trimmed h.ne_empty n hn id order
  exact ⟨_, hi', .fragment i⟩

/-! ## Policies -/

/-- An element that binds what a policy binds is read as the policy. -/
theorem isReadAs_of_isSimple {e : Element} {i : CatalogItem} (h : IsSimple e)
    (hwf : AreWellFormed e.attributes) (hflat : IsFlat e) (hname : e.name = i.policyId)
    (hattributes : referenceAttributes e.attributes = i.attributes)
    (hdistinct : (i.configuration.map Prod.fst).Nodup)
    (hget : ∀ key, (simpleConfiguration settings e).get? key = i.configuration.get? key) :
    IsReadAs settings e.node fun id order i' => IsRestored id order (.catalog i) i' := by
  refine isReadAs_node fun e' htidy id order => ?_
  have hshape : shape e' = .simple := (shape_eq_of_tidy_eq htidy).trans h.shape_eq
  have hperm : (simpleConfiguration settings e).Perm i.configuration :=
    Fields.perm_of_get?_eq (nodup_keys_simpleConfiguration settings h hwf) hdistinct hget
  refine ⟨_, by rw [elementItem?, hshape], ?_⟩
  rw [simpleItem_eq_of_tidy_eq settings id order htidy hflat, simpleItem, hname, hattributes]
  generalize simpleConfiguration settings e = c at hperm ⊢
  exact .catalog hperm

/-! ## Policies as one element -/

namespace CatalogItem.IsPlainPolicy

variable {i : CatalogItem}

theorem get?_configuration (style : NamedValueStyle) (h : i.IsPlainPolicy)
    (hv : i.configuration.get? key = some v) (hkey : key ≠ textKey) : ∃ s, IsTextOf style s v :=
  (h.values (key, v) (mem_of_lookup hv) hkey).exists_text style

theorem get?_attributes {value : AttributeValue} (h : i.IsPlainPolicy)
    (hv : i.attributes.get? key = some value) : IsName key ∧ i.configuration.get? key = none ∧
      ∃ name, value = .namedValue { name } ∧ IsReferenceName name := by
  obtain ⟨hname, hnot, hvalue⟩ := h.attributes (key, value) (mem_of_lookup hv)
  exact ⟨hname, lookup_eq_none_iff.2 hnot, hvalue⟩

/-- An attribute of the element is a named value or a parameter. -/
theorem attribute?_cases (h : i.IsPlainPolicy)
    (hs : (i.genericElement style).attribute? key = some s) :
    (∃ name, i.attributes.get? key = some (.namedValue { name }) ∧
        s = NamedValue.token style name ∧ IsReferenceName name) ∨
      (i.attributes.get? key = none ∧ key ≠ textKey ∧
        ∃ v, i.configuration.get? key = some v ∧ IsTextOf style s v) := by
  rw [attribute?_genericElement style h.distinct] at hs
  cases ha : i.attributes.get? key with
  | some value =>
    obtain ⟨-, -, name, rfl, hname⟩ := h.get?_attributes ha
    rw [ha, Option.map_some, Option.some_or] at hs
    exact .inl ⟨name, rfl, (Option.some.inj hs).symm, hname⟩
  | none =>
    rw [ha, Option.map_none, Option.none_or] at hs
    split at hs
    · simp at hs
    · rename_i hkey
      obtain ⟨v, hv, hs⟩ := Option.bind_eq_some_iff.1 hs
      obtain ⟨s', hs'⟩ := h.get?_configuration style hv hkey
      obtain rfl : s' = s := Option.some.inj (hs'.scalarText?_eq.symm.trans hs)
      exact .inr ⟨rfl, hkey, v, hv, hs'⟩

theorem areWellFormed (h : i.IsPlainPolicy) : AreWellFormed (i.genericElement style).attributes := by
  refine areWellFormed_genericElement style h.distinct ?_ ?_
  · intro key hkey hne
    obtain ⟨a, ha, rfl⟩ := List.mem_map.1 hkey
    exact h.names a ha hne
  · intro key hkey
    obtain ⟨a, ha, rfl⟩ := List.mem_map.1 hkey
    exact (h.attributes a ha).1

theorem elementText?_eq_some_iff (h : i.IsPlainPolicy) :
    Writer.elementText? style i = some s ↔ i.configuration.get? textKey = some (.text s) := by
  rw [Writer.elementText?]
  cases hv : i.configuration.get? textKey with
  | none => simp
  | some v =>
    obtain ⟨t, rfl, ht⟩ := h.text (textKey, v) (mem_of_lookup hv) rfl
    rw [Option.bind_some, scalarText?, Option.filter_some, if_pos (by simpa using ht.ne_empty)]
    simp

theorem isTextSafe_of_elementText? (h : i.IsPlainPolicy)
    (hs : Writer.elementText? style i = some s) : IsTextSafe s := by
  obtain ⟨t, ht, hsafe⟩ := h.text (textKey, .text s)
    (mem_of_lookup (h.elementText?_eq_some_iff.1 hs)) rfl
  rwa [Json.text.inj ht]

theorem isGeneric (h : i.IsPlainPolicy) (style : NamedValueStyle) : i.IsGeneric style := by
  refine ⟨h.name, h.areWellFormed, ?_, ?_, ?_⟩
  · intro a ha
    have hlookup := lookup_of_mem
      (h.distinct.sublist (keys_parameterTexts_sublist style i)) (show (a.1, a.2) ∈ _ from ha)
    rw [lookup_parameterTexts style h.distinct] at hlookup
    split at hlookup
    · rename_i hkey
      obtain ⟨v, hv, hs⟩ := Option.bind_eq_some_iff.1 hlookup
      obtain ⟨s, hs'⟩ := h.get?_configuration style hv
        (by simpa using (Bool.and_eq_true_iff.1 hkey).1)
      obtain rfl : s = a.2 := Option.some.inj (hs'.scalarText?_eq.symm.trans hs)
      rw [IsParameterText, if_neg (by simp [hs'.literal])]
      exact hs'.clean
    · simp at hlookup
  · intro a ha
    obtain ⟨-, -, name, hvalue, hname⟩ := h.attributes a ha
    rw [hvalue]
    exact ⟨hname.token, hname.quote, hname.ampersand⟩
  · intro t ht
    have hsafe := h.isTextSafe_of_elementText? ht
    exact ⟨hsafe.trimmed, hsafe.clean⟩

theorem lineFeed_notMem (h : i.IsPlainPolicy) :
    ∀ a ∈ (i.genericElement style).attributes, '\n' ∉ a.2.toList := by
  intro a ha
  have hs : (i.genericElement style).attribute? a.1 = some a.2 :=
    lookup_of_mem h.areWellFormed.distinct (show (a.1, a.2) ∈ _ from ha)
  rcases h.attribute?_cases hs with ⟨name, -, htoken, hname⟩ | ⟨-, -, v, -, hv⟩
  · rw [htoken]
    intro hm
    rcases NamedValue.mem_token hm with hm | hm
    · simp at hm
    · exact hname.unbroken hm
  · exact hv.unbroken

theorem isWrittenAs (h : i.IsPlainPolicy) :
    IsWrittenAs { settings } (.catalog i) (i.genericElement settings.namedValueStyle).node := by
  have hsend : i.policyId ≠ SendRequest.policyId := fun heq => h.notMem (by simp [heq])
  have hrender : ({ settings } : Writer).renderItem (.catalog i) =
      ({ settings } : Writer).renderGeneric i := by
    rw [Writer.renderItem, Writer.renderCatalog_eq settings i hsend,
      templated?_of_ofPolicy? h.untemplated]
  refine isWrittenAs_of_isLine ?_ ?_ rfl
  · rw [hrender]
    exact Writer.isLine_renderGeneric _ h.name h.areWellFormed.names h.lineFeed_notMem
      fun t ht => (h.isTextSafe_of_elementText? ht).unbroken
  · rw [hrender]
    exact (Writer.readsAsElement_renderGeneric _ (h.isGeneric _)).inside

theorem isSimple (h : i.IsPlainPolicy) : IsSimple (i.genericElement style) := by
  have hnot := h.notMem
  simp only [List.mem_cons, List.not_mem_nil, or_false, not_or] at hnot
  obtain ⟨hbase, hfragment, hinclude, hsend⟩ := hnot
  refine ⟨hbase, ⟨hfragment, hinclude⟩, hsend, ?_⟩
  rw [genericElement]
  cases Writer.elementText? style i <;> rfl

theorem textKeyOf_eq (h : i.IsPlainPolicy) : textKeyOf (i.genericElement style) = textKey := by
  have hnone : textParameter? i.policyId = none := by
    cases hp : textParameter? i.policyId with
    | none => rfl
    | some p =>
      have hall : ∀ a ∈ [("set-body", "value"), ("set-method", "method"),
          ("log-to-eventhub", "message")], Template.ofPolicy? a.1 ≠ none := by decide
      exact absurd h.untemplated (hall _ (mem_of_lookup hp))
  rw [textKeyOf, name_genericElement, hnone]

theorem trimmedText?_eq (h : i.IsPlainPolicy) :
    (i.genericElement style).trimmedText? = Writer.elementText? style i := by
  cases ht : Writer.elementText? style i with
  | none => exact trimmedText?_of_children_nil (by rw [genericElement, ht]; rfl)
  | some t =>
    have hsafe := h.isTextSafe_of_elementText? ht
    rw [trimmedText?_of_children_text (s := t) (by rw [genericElement, ht]; rfl), hsafe.trimmed,
      Option.filter_some, if_pos (by simpa using hsafe.ne_empty)]

theorem referenceAttributes_eq (h : i.IsPlainPolicy) :
    referenceAttributes (i.genericElement style).attributes = i.attributes := by
  refine NameMap.ext_get? fun key => ?_
  rw [get?_referenceAttributes h.areWellFormed, tokenName?]
  cases hs : (i.genericElement style).attribute? key with
  | none =>
    cases ha : i.attributes.get? key with
    | none => rfl
    | some value =>
      rw [attribute?_genericElement style h.distinct, ha] at hs
      simp at hs
  | some s =>
    rcases h.attribute?_cases hs with ⟨name, ha, rfl, hname⟩ | ⟨ha, -, v, -, hv⟩
    · rw [Option.bind_some, NamedValue.name?_token style hname.token, ha]
      rfl
    · have hnone : NamedValue.name? s = none := by simpa [NamedValue.isToken] using hv.literal
      rw [Option.bind_some, hnone, ha]
      rfl

/-- The text of the element is what the policy has under the text key. -/
theorem text_elementText? (style : NamedValueStyle) (h : i.IsPlainPolicy) :
    (Writer.elementText? style i).map Json.text = i.configuration.get? textKey := by
  cases hv : i.configuration.get? textKey with
  | none =>
    cases ht : Writer.elementText? style i with
    | none => rfl
    | some t =>
      rw [h.elementText?_eq_some_iff.1 ht] at hv
      simp at hv
  | some v =>
    obtain ⟨t, rfl, -⟩ := h.text (textKey, v) (mem_of_lookup hv) rfl
    rw [h.elementText?_eq_some_iff.2 hv, Option.map_some]

/-- The literal attributes of the element are the other parameters of the policy. -/
theorem coerce_literal? (h : i.IsPlainPolicy) {key : String} (hkey : key ≠ textKey) :
    (literal? (i.genericElement style) key).map (coerce true) = i.configuration.get? key := by
  have hattribute := attribute?_genericElement style h.distinct key
  rw [if_neg hkey] at hattribute
  cases hv : i.configuration.get? key with
  | some v =>
    obtain ⟨s, hs⟩ := h.get?_configuration style hv hkey
    have ha : i.attributes.get? key = none := by
      by_contra hsome
      obtain ⟨value, ha⟩ := Option.ne_none_iff_exists'.1 hsome
      have hnone := (h.get?_attributes ha).2.1
      rw [hv] at hnone
      simp at hnone
    rw [ha, Option.map_none, Option.none_or, hv, Option.bind_some, hs.scalarText?_eq] at hattribute
    rw [literal?_of_attribute? hattribute hs.literal, Option.map_some, hs.coerce_eq]
  | none =>
    rw [hv, Option.bind_none, Option.or_none] at hattribute
    cases ha : i.attributes.get? key with
    | none =>
      rw [ha, Option.map_none] at hattribute
      rw [literal?, hattribute]
      rfl
    | some value =>
      -- A reference is written as a token, which is no literal attribute.
      obtain ⟨-, -, name, rfl, hname⟩ := h.get?_attributes ha
      rw [ha, Option.map_some, AttributeValue.text] at hattribute
      have htoken := NamedValue.isToken_token style hname.token
      rw [literal?, hattribute, Option.filter_some, if_neg (by simp [htoken])]
      rfl

/-- The configuration binds what that of the policy binds. -/
theorem get?_simpleConfiguration_eq (h : i.IsPlainPolicy) (hcoerce : settings.coerceScalars = true)
    (key : String) :
    (simpleConfiguration settings (i.genericElement style)).get? key = i.configuration.get? key := by
  rw [get?_simpleConfiguration settings h.isSimple h.areWellFormed, h.textKeyOf_eq,
    h.trimmedText?_eq, hcoerce,
    leafText?_of_childElements_nil (childElements_of_children_texts rfl), Option.map_none,
    Option.none_or]
  by_cases hkey : key = textKey
  · subst hkey
    rw [literal?_textKey h.areWellFormed, Option.map_none, Option.or_none,
      ← text_elementText? style h]
    cases Writer.elementText? style i <;> simp
  · have hnone : ((Writer.elementText? style i).filter fun _ => key = textKey) = none := by
      simp [hkey]
    rw [hnone, Option.map_none, Option.none_or, h.coerce_literal? hkey]

theorem isReadAs (h : i.IsPlainPolicy) (hcoerce : settings.coerceScalars = true) :
    IsReadAs settings (i.genericElement style).node
      fun id order i' => IsRestored id order (.catalog i) i' :=
  isReadAs_of_isSimple h.isSimple h.areWellFormed (isFlat_genericElement style i)
    (name_genericElement style i) h.referenceAttributes_eq h.distinct
    (h.get?_simpleConfiguration_eq hcoerce)

end CatalogItem.IsPlainPolicy

/-! ## Policies by a template -/

theorem IsTextOf.ne_empty (h : IsTextOf style s v) (hv : v ≠ .text "") : s ≠ "" := by
  rintro rfl
  exact hv (h.coerce_eq.symm.trans rfl)

theorem filter_eq_self {o : Option String} {content : String} (hkey : key = content) :
    (o.filter fun _ => key = content) = o := by
  cases o <;> simp [hkey]

theorem filter_eq_none {o : Option String} {content : String} (hkey : key ≠ content) :
    (o.filter fun _ => key = content) = none := by
  simp [hkey]

/-- A text in the place of a leaf. -/
theorem leafText?_eq_of_children {e : Element} {o : Option String} {name : String}
    (hsafe : ∀ s, o = some s → IsTextSafe s)
    (hc : e.children = (o.map (Template.leaf name)).toList) (key : String) :
    e.trimmedText? = none ∧ leafText? e key = o.filter fun _ => key = name := by
  cases o with
  | none =>
    refine ⟨trimmedText?_of_children_nil hc, ?_⟩
    rw [leafText?, Element.childElements, hc]
    rfl
  | some s =>
    have hleaf : (⟨name, [], [.text s]⟩ : Element).trimmedText? = some s :=
      trimmedText?_of_texts (o := some s) rfl fun s hs => (hsafe s hs).isElementText
    refine ⟨trimmedText?_of_visibleCharacters_nil (by rw [hc]; rfl), ?_⟩
    have hchild : e.childElements = [⟨name, [], [.text s]⟩] := by
      rw [Element.childElements, hc]
      rfl
    rw [leafText?, hchild, List.find?_singleton]
    by_cases hkey : key = name
    · rw [if_pos (by simp [hkey]), Option.bind_some, hleaf, filter_eq_self hkey]
    · rw [if_neg (by simpa using Ne.symm hkey), Option.bind_none, filter_eq_none hkey]

namespace CatalogItem.IsTemplatePolicy

variable {i : CatalogItem} {t : Template} {content : String}

/-- The text is that of the element, or that of a leaf of a trace. -/
theorem content_cases (h : i.IsTemplatePolicy t content) :
    textParameter? t.policyId = some content ∨ t = .trace ∧ content = "message" := by
  have hcontent := h.content_eq
  cases t <;> simp [Template.content?] at hcontent <;> subst hcontent <;> decide

theorem content_notMem (h : i.IsTemplatePolicy t content) : content ∉ t.attributeKeys := by
  have hcontent := h.content_eq
  cases t <;> simp [Template.content?] at hcontent <;> subst hcontent <;> decide

theorem content_ne_textKey (h : i.IsTemplatePolicy t content) : content ≠ textKey := by
  have hcontent := h.content_eq
  cases t <;> simp [Template.content?] at hcontent <;> subst hcontent <;> decide

theorem ne_choose (h : i.IsTemplatePolicy t content) : t ≠ .choose := by
  rintro rfl
  have hcontent := h.content_eq
  simp [Template.content?] at hcontent

theorem get?_configuration (h : i.IsTemplatePolicy t content) (style : NamedValueStyle)
    (hv : i.configuration.get? key = some v) :
    (key ∈ t.attributeKeys ∧ ∃ s, s ≠ "" ∧ IsTextOf style s v) ∨
      (key = content ∧ ∃ s, v = .text s ∧ IsTextSafe s) := by
  rcases h.parameters (key, v) (mem_of_lookup hv) with ⟨hkey, hvalue, hne⟩ | hcontent
  · obtain ⟨s, hs⟩ := hvalue.exists_text style
    exact .inl ⟨hkey, s, hs.ne_empty hne, hs⟩
  · exact .inr hcontent

theorem get?_eq_none (h : i.IsTemplatePolicy t content) (hkey : key ∉ t.attributeKeys)
    (hcontent : key ≠ content) : i.configuration.get? key = none := by
  cases hv : i.configuration.get? key with
  | none => rfl
  | some v =>
    rcases h.parameters (key, v) (mem_of_lookup hv) with ⟨hm, -⟩ | ⟨heq, -⟩
    · exact absurd hm hkey
    · exact absurd heq hcontent

theorem text?_content (h : i.IsTemplatePolicy t content) :
    Template.text? style i.configuration content = some s ↔
      i.configuration.get? content = some (.text s) := by
  rw [Template.text?]
  cases hv : i.configuration.get? content with
  | none => simp
  | some v =>
    rcases h.get?_configuration style hv with ⟨hkey, -⟩ | ⟨-, s', rfl, hs'⟩
    · exact absurd hkey h.content_notMem
    · rw [Option.bind_some, scalarText?, Option.filter_some, if_pos (by simpa using hs'.ne_empty)]
      simp

theorem isTextSafe_of_text? (h : i.IsTemplatePolicy t content)
    (hs : Template.text? style i.configuration content = some s) : IsTextSafe s := by
  rcases h.get?_configuration style (h.text?_content.1 hs) with ⟨hkey, -⟩ | ⟨-, s', heq, hs'⟩
  · exact absurd hkey h.content_notMem
  · rwa [Json.text.inj heq]

theorem text?_attribute (h : i.IsTemplatePolicy t content)
    (hs : Template.text? style i.configuration key = some s) (hkey : key ∈ t.attributeKeys) :
    ∃ v, i.configuration.get? key = some v ∧ IsTextOf style s v := by
  rw [Template.text?, Option.filter_eq_some_iff] at hs
  obtain ⟨v, hv, hscalar⟩ := Option.bind_eq_some_iff.1 hs.1
  rcases h.get?_configuration style hv with ⟨-, s', -, hs'⟩ | ⟨rfl, -⟩
  · obtain rfl : s' = s := Option.some.inj (hs'.scalarText?_eq.symm.trans hscalar)
    exact ⟨v, hv, hs'⟩
  · exact absurd hkey h.content_notMem

theorem children_eq (h : i.IsTemplatePolicy t content) :
    (t.element style i.configuration).children =
      ((Template.text? style i.configuration content).map fun s =>
        if t = .trace then Template.leaf "message" s else .text s).toList := by
  have hcontent := h.content_eq
  cases t with
  | checkHeader => simp [Template.content?] at hcontent
  | choose => simp [Template.content?] at hcontent
  | setBody =>
    obtain rfl : "value" = content := Option.some.inj hcontent
    have hbody : Template.text? style i.configuration "body" = none := by
      rw [Template.text?, h.get?_eq_none (by decide) (by decide)]
      rfl
    rw [Template.element, hbody, Option.or_none]
    rfl
  | setMethod =>
    obtain rfl : "method" = content := Option.some.inj hcontent
    rfl
  | trace =>
    obtain rfl : "message" = content := Option.some.inj hcontent
    rfl
  | logToEventhub =>
    obtain rfl : "message" = content := Option.some.inj hcontent
    rfl

theorem areWellFormed (style : NamedValueStyle) (c : Fields) (t : Template) :
    AreWellFormed (t.element style c).attributes := by
  have hkeys := Template.keys_attributes_sublist style c t.attributeKeys
  rw [← Template.attributes_element] at hkeys
  exact ⟨fun a ha => Template.isName_of_mem_attributeKeys a.1
    (hkeys.subset (List.mem_map_of_mem ha)), (Template.nodup_attributeKeys t).sublist hkeys⟩

theorem attribute?_eq (style : NamedValueStyle) (c : Fields) (t : Template) (key : String) :
    (t.element style c).attribute? key =
      if key ∈ t.attributeKeys then Template.text? style c key else none := by
  rw [Element.attribute?, Template.attributes_element,
    Template.lookup_attributes style _ (Template.nodup_attributeKeys t)]

theorem exists_of_attribute? (h : i.IsTemplatePolicy t content)
    (hs : (t.element style i.configuration).attribute? key = some s) :
    key ∈ t.attributeKeys ∧ ∃ v, i.configuration.get? key = some v ∧ IsTextOf style s v := by
  rw [attribute?_eq] at hs
  split at hs
  · rename_i hkey
    exact ⟨hkey, h.text?_attribute hs hkey⟩
  · simp at hs

theorem exists_of_mem_attributes (h : i.IsTemplatePolicy t content) {a : String × String}
    (ha : a ∈ (t.element style i.configuration).attributes) : ∃ v, IsTextOf style a.2 v := by
  have hs : (t.element style i.configuration).attribute? a.1 = some a.2 :=
    lookup_of_mem (areWellFormed style i.configuration t).distinct (show (a.1, a.2) ∈ _ from ha)
  obtain ⟨-, v, -, hv⟩ := h.exists_of_attribute? hs
  exact ⟨v, hv⟩

theorem isClean_child {n : Node} (h : i.IsTemplatePolicy t content)
    (hn : n ∈ (t.element style i.configuration).children) : n.IsClean ∧ n.IsUnbroken := by
  rw [h.children_eq] at hn
  obtain ⟨s, hs, rfl⟩ := Option.map_eq_some_iff.1 (Option.mem_toList.1 hn)
  have hsafe := h.isTextSafe_of_text? hs
  have hclean : (Node.text s).IsClean := .text (.inr (by rw [hsafe.trimmed]; exact hsafe.clean))
  have hunbroken : (Node.text s).IsUnbroken := .text (by rw [hsafe.trimmed]; exact hsafe.unbroken)
  split
  · refine ⟨.element (by decide) ⟨by simp, by simp, by simp⟩ (List.forall_mem_singleton.2 hclean) ?_,
      .element (by simp) (List.forall_mem_singleton.2 hunbroken)⟩
    exact haveSeparateTexts_of_pairwise (List.pairwise_singleton _ _)
  · exact ⟨hclean, hunbroken⟩

theorem isClean (h : i.IsTemplatePolicy t content) : (t.element style i.configuration).IsClean := by
  have hwf := areWellFormed style i.configuration t
  refine Element.isClean_of ?_ ⟨hwf.names, hwf.distinct, ?_⟩ (fun n hn => (h.isClean_child hn).1) ?_
  · rw [Template.name_element]
    exact t.isName_policyId
  · intro a ha
    obtain ⟨v, hv⟩ := h.exists_of_mem_attributes ha
    exact hv.clean
  · rw [h.children_eq]
    refine haveSeparateTexts_of_pairwise ?_
    cases Template.text? style i.configuration content <;> simp

theorem isUnbroken (h : i.IsTemplatePolicy t content) :
    (t.element style i.configuration).IsUnbroken := by
  refine .element ?_ fun n hn => (h.isClean_child hn).2
  intro a ha
  obtain ⟨v, hv⟩ := h.exists_of_mem_attributes ha
  exact hv.unbroken

theorem templated?_eq (h : i.IsTemplatePolicy t content) :
    i.templated? = some (t, i.configuration) := by
  refine templated?_of_no_text ?_ ?_ (h.get?_eq_none ?_ h.content_ne_textKey.symm)
  · rw [h.policy, Template.ofPolicy?_policyId]
  · rw [h.attributes]
    rfl
  · exact fun hkey => (Template.of_mem_attributeKeys hkey).1 rfl

theorem isWrittenAs (h : i.IsTemplatePolicy t content) :
    IsWrittenAs { settings } (.catalog i)
      (t.element settings.namedValueStyle i.configuration).node := by
  have hsend : i.policyId ≠ SendRequest.policyId := by
    rw [h.policy]
    cases t <;> decide
  refine isWrittenAs_of_serialize ?_ h.isClean h.isUnbroken
  have hne := h.ne_choose
  rw [Writer.renderItem, Writer.renderCatalog_eq settings i hsend, h.templated?_eq]
  cases t with
  | choose => exact absurd rfl hne
  | _ => rfl

theorem isSimple (h : i.IsTemplatePolicy t content) :
    IsSimple (t.element style i.configuration) := by
  have hname := Template.name_element style i.configuration t
  have hstructured : isStructured (leafParameters t.policyId) []
      (t.element style i.configuration).children = false := by
    rw [h.children_eq]
    cases Template.text? style i.configuration content with
    | none => rfl
    | some s => cases t <;> rfl
  rw [← hname] at hstructured
  refine ⟨?_, ?_, ?_, hstructured⟩
  · rw [hname]
    cases t <;> decide
  · rw [hname]
    cases t <;> decide
  · rw [hname]
    cases t <;> decide

theorem referenceAttributes_eq (h : i.IsTemplatePolicy t content) :
    referenceAttributes (t.element style i.configuration).attributes = i.attributes := by
  rw [h.attributes]
  refine NameMap.ext_get? fun key => ?_
  rw [get?_referenceAttributes (areWellFormed style i.configuration t), NameMap.get?_empty,
    Option.map_eq_none_iff, tokenName?]
  cases hs : (t.element style i.configuration).attribute? key with
  | none => rfl
  | some s =>
    obtain ⟨-, v, -, hv⟩ := h.exists_of_attribute? hs
    simpa [NamedValue.isToken] using hv.literal

theorem map_coerce_literal? (h : i.IsTemplatePolicy t content) (hkey : key ≠ content) :
    (literal? (t.element style i.configuration) key).map (coerce true) =
      i.configuration.get? key := by
  cases hs : (t.element style i.configuration).attribute? key with
  | some s =>
    obtain ⟨-, v, hget, hv⟩ := h.exists_of_attribute? hs
    rw [literal?_of_attribute? hs hv.literal, Option.map_some, hv.coerce_eq, hget]
  | none =>
    rw [literal?, hs]
    by_cases hm : key ∈ t.attributeKeys
    · rw [attribute?_eq, if_pos hm] at hs
      cases hget : i.configuration.get? key with
      | none => rfl
      | some v =>
        rcases h.get?_configuration style hget with ⟨-, s, hne, hv⟩ | ⟨heq, -⟩
        · rw [Template.text?, hget, Option.bind_some, hv.scalarText?_eq, Option.filter_some,
            if_pos (by simpa using hne)] at hs
          simp at hs
        · exact absurd heq hkey
    · rw [h.get?_eq_none hm hkey]
      rfl

theorem literal?_content (h : i.IsTemplatePolicy t content) :
    literal? (t.element style i.configuration) content = none := by
  rw [literal?, attribute?_eq, if_neg h.content_notMem]
  rfl

theorem map_text_content (style : NamedValueStyle) (h : i.IsTemplatePolicy t content) :
    (Template.text? style i.configuration content).map Json.text =
      i.configuration.get? content := by
  cases hs : Template.text? style i.configuration content with
  | some s => rw [h.text?_content.1 hs, Option.map_some]
  | none =>
    cases hv : i.configuration.get? content with
    | none => rfl
    | some v =>
      rcases h.get?_configuration style hv with ⟨hm, -⟩ | ⟨-, s, rfl, -⟩
      · exact absurd hm h.content_notMem
      · rw [h.text?_content.2 hv] at hs
        simp at hs

/-- The text of the element or of the leaf is the text that the template carries. -/
theorem carriedText_eq (style : NamedValueStyle) (h : i.IsTemplatePolicy t content)
    (key : String) :
    ((t.element style i.configuration).trimmedText?.filter fun _ =>
        key = textKeyOf (t.element style i.configuration)).or
        (leafText? (t.element style i.configuration) key) =
      (Template.text? style i.configuration content).filter fun _ => key = content := by
  have hchildren : (t.element style i.configuration).children = _ := h.children_eq
  have hname := Template.name_element style i.configuration t
  have hliteral : literal? (t.element style i.configuration) content = none := h.literal?_content
  have hsafe : ∀ s, Template.text? style i.configuration content = some s → IsTextSafe s :=
    fun s hs => h.isTextSafe_of_text? hs
  generalize Template.text? style i.configuration content = o at *
  generalize t.element style i.configuration = e at *
  rcases h.content_cases with hp | ⟨rfl, rfl⟩
  · have ht : t ≠ .trace := by
      rintro rfl
      simp [show textParameter? Template.trace.policyId = none by decide] at hp
    have hkey : textKeyOf e = content := by
      rw [textKeyOf, hname, hp]
      dsimp only
      rw [hliteral, if_neg (by simp)]
    simp only [if_neg ht] at hchildren
    rw [leafText?_of_childElements_nil (childElements_of_children_texts hchildren), hkey,
      Option.or_none, trimmedText?_of_texts hchildren fun s hs => (hsafe s hs).isElementText]
  · simp only [if_pos] at hchildren
    obtain ⟨htext, hleaf⟩ := leafText?_eq_of_children hsafe hchildren key
    rw [htext, hleaf]
    rfl

/-- The configuration binds what that of the policy binds. -/
theorem get?_simpleConfiguration_eq (h : i.IsTemplatePolicy t content)
    (hcoerce : settings.coerceScalars = true) (key : String) :
    (simpleConfiguration settings (t.element style i.configuration)).get? key =
      i.configuration.get? key := by
  rw [get?_simpleConfiguration settings h.isSimple (areWellFormed style i.configuration t), hcoerce,
    ← Option.or_assoc, ← Option.map_or, h.carriedText_eq style]
  by_cases hkey : key = content
  · rw [filter_eq_self hkey, hkey, h.literal?_content, Option.map_none, Option.or_none,
      ← h.map_text_content style]
  · rw [filter_eq_none hkey, Option.map_none, Option.none_or, h.map_coerce_literal? hkey]

theorem isReadAs (h : i.IsTemplatePolicy t content) (hcoerce : settings.coerceScalars = true) :
    IsReadAs settings (t.element style i.configuration).node
      fun id order i' => IsRestored id order (.catalog i) i' :=
  isReadAs_of_isSimple h.isSimple (areWellFormed style i.configuration t)
    (Template.isFlat_element style i.configuration t)
    ((Template.name_element style i.configuration t).trans h.policy.symm) h.referenceAttributes_eq
    h.distinct (h.get?_simpleConfiguration_eq hcoerce)

end CatalogItem.IsTemplatePolicy

/-! ## Models -/

/-- An item that is read back is written as one node, which is read as the item. -/
theorem Item.IsRestorable.exists_node {i : Item} (h : i.IsRestorable)
    (hcoerce : settings.coerceScalars = true) :
    ∃ n, IsWrittenAs { settings } i n ∧ n.isText = false ∧
      IsReadAs settings n fun id order i' => IsRestored id order i i' := by
  cases h with
  | fragment h => exact ⟨_, isWrittenAs_restorable h, rfl, isReadAs_restorable h⟩
  | plain h => exact ⟨_, h.isWrittenAs, rfl, h.isReadAs hcoerce⟩
  | template h => exact ⟨_, h.isWrittenAs, rfl, h.isReadAs hcoerce⟩

theorem exists_nodes {items : List Item} (h : ∀ i ∈ items, i.IsRestorable)
    (hcoerce : settings.coerceScalars = true) :
    ∃ ns, List.Forall₂ (IsWrittenAs { settings }) items ns ∧ (∀ n ∈ ns, n.isText = false) ∧
      List.Forall₂ (fun i n => IsReadAs settings n fun id order i' => IsRestored id order i i')
        items ns := by
  induction items with
  | nil => exact ⟨[], .nil, by simp, .nil⟩
  | cons i items ih =>
    obtain ⟨hi, hitems⟩ := List.forall_mem_cons.1 h
    obtain ⟨n, hwritten, htext, hread⟩ := hi.exists_node hcoerce
    obtain ⟨ns, hwrittens, htexts, hreads⟩ := ih hitems
    exact ⟨n :: ns, .cons hwritten hwrittens, List.forall_mem_cons.2 ⟨htext, htexts⟩,
      .cons hread hreads⟩

/-- The second section is what the first is read back as. An absent section is read back as a
section that is present. -/
inductive IsRestoredSection (kind : SectionKind) : Option Section → Section → Prop
  /-- A section that is present keeps its items in the order in which they are emitted. -/
  | present {s s' : Section} (hbase : s'.includeBase = some s.includesBase)
      (hitems : List.Forall₂ (fun (i : Item × Nat) i' => IsRestored (itemId kind i.2) i.2 i.1 i')
        s.sortedItems.zipIdx s'.items) : IsRestoredSection kind (some s) s'
  /-- The absent backend section forwards the request. -/
  | forwarding (h : kind = .backend) :
      IsRestoredSection kind none
        { includeBase := some false
          items := [.catalog { id := itemId kind 0, order := 0, policyId := "forward-request" }] }
  /-- Other absent sections are empty. -/
  | empty (h : kind ≠ .backend) : IsRestoredSection kind none { includeBase := some false }

theorem simpleConfiguration_emptyElement (settings : Settings) (name : String) :
    simpleConfiguration settings ⟨name, [], []⟩ = [] := by
  rw [simpleConfiguration_of_no_text settings (trimmedText?_of_children_nil rfl), namedFields]
  rfl

/-- What the writer puts in an absent backend section is read as a policy. -/
theorem isReadAs_forwardRequest (settings : Settings) :
    IsReadAs settings (.element "forward-request" [] []) fun id order i =>
      i = .catalog { id, order, policyId := "forward-request" } := by
  refine isReadAs_node (e := ⟨"forward-request", [], []⟩) fun e htidy id order => ?_
  have hshape : shape e = .simple := (shape_eq_of_tidy_eq htidy).trans (by decide)
  have hflat : IsFlat ⟨"forward-request", [], []⟩ := ⟨by decide, by simp [Element.childElements]⟩
  refine ⟨_, by rw [elementItem?, hshape], ?_⟩
  rw [simpleItem_eq_of_tidy_eq settings id order htidy hflat, simpleItem,
    simpleConfiguration_emptyElement]
  rfl

theorem eq_of_includeBase {s : Section} {b : Option Bool} {items : List Item}
    (hbase : s.includeBase = b) (hitems : s.items = items) :
    s = { includeBase := b, items } := by
  cases s
  simp_all

theorem mem_items_of_mem_sortedItems {s : Section} {i : Item} (h : i ∈ s.sortedItems) :
    i ∈ s.items := by
  rw [Section.sortedItems] at h
  exact (List.mergeSort_perm _ _).mem_iff.1 h

/-- What is read back of an absent backend section. -/
theorem isRestoredSection_forwarding {e : Element}
    (htidy : tidyNodes e.children = tidyNodes [.element "forward-request" [] []]) :
    IsRestoredSection .backend none (readSection settings .backend e) := by
  have hread : List.Forall₂ (fun (_ : Unit) n => IsReadAs settings n fun id order i =>
      i = .catalog { id, order, policyId := "forward-request" })
      [()] [.element "forward-request" [] []] :=
    .cons (isReadAs_forwardRequest settings) .nil
  obtain ⟨hbase, hitems⟩ := readSection_of_isReadAs (b := false) htidy
    (List.forall_mem_singleton.2 rfl) hread .backend
  rw [List.zipIdx_singleton, List.forall₂_cons_left_iff] at hitems
  obtain ⟨i, is, rfl, his, heq⟩ := hitems
  rw [List.forall₂_nil_left_iff.1 his] at heq
  rw [eq_of_includeBase hbase heq]
  exact .forwarding rfl

/-- What is read back of another absent section. -/
theorem isRestoredSection_empty {kind : SectionKind} (hkind : kind ≠ .backend) {e : Element}
    (htidy : tidyNodes e.children = tidyNodes []) :
    IsRestoredSection kind none (readSection settings kind e) := by
  have hread : List.Forall₂ (fun (_ : Unit) n => IsReadAs settings n fun _ _ _ => True) [] [] :=
    .nil
  obtain ⟨hbase, hitems⟩ := readSection_of_isReadAs (b := false) htidy (by simp) hread kind
  rw [eq_of_includeBase hbase (List.forall₂_nil_left_iff.1 hitems)]
  exact .empty hkind

/-- A section is written as nodes from which it is read back. -/
theorem exists_sectionNodes (kind : SectionKind) {section? : Option Section}
    (hcoerce : settings.coerceScalars = true)
    (h : ∀ s, section? = some s → ∀ i ∈ s.items, i.IsRestorable) :
    ∃ ns, SectionIsWrittenAs { settings } kind section? ns ∧
      ∀ e : Element, tidyNodes e.children = tidyNodes ns →
        IsRestoredSection kind section? (readSection settings kind e) := by
  cases section? with
  | some s =>
    obtain ⟨ns, hwritten, htexts, hread⟩ := exists_nodes
      (fun i hi => h s rfl i (mem_items_of_mem_sortedItems hi)) hcoerce
    have hseparate : HaveSeparateTexts ns := by
      refine haveSeparateTexts_of_pairwise (List.pairwise_of_forall_mem_list fun n hn m _ => ?_)
      rw [htexts n hn, Bool.false_and]
    refine ⟨_, .present hwritten hseparate, fun e htidy => ?_⟩
    obtain ⟨hbase, hitems⟩ := readSection_of_isReadAs htidy (isBlank_of_areWrittenAs hwritten)
      hread kind
    exact .present hbase hitems
  | none =>
    by_cases hkind : kind = .backend
    · subst hkind
      exact ⟨_, .forwarding rfl, fun _ htidy => isRestoredSection_forwarding htidy⟩
    · exact ⟨_, .empty hkind, fun _ htidy => isRestoredSection_empty hkind htidy⟩

/-- **Models are read back.** If every item is a fragment, a policy without template or one whose
template carries a text, and values are taken for numbers and truth values, then the document of a
model is read as a model with the items of each section in the order in which they are emitted. -/
theorem exists_ofXml_toXml (settings : Settings) (m : Model)
    (hcoerce : settings.coerceScalars = true)
    (h : ∀ kind s, m.sections.get? kind = some s → ∀ i ∈ s.items, i.IsRestorable) :
    ∃ sections : Sections, Model.ofXml settings (m.toXml settings) =
        .ok { scope := settings.defaultScope, sections } ∧
      ∀ kind, ∃ s', sections.get? kind = some s' ∧
        IsRestoredSection kind (m.sections.get? kind) s' := by
  choose nodes hwritten hread using fun kind => exists_sectionNodes kind hcoerce (h kind)
  obtain ⟨sections, hparse, hget⟩ :=
    exists_ofXml_write fun kind => (hwritten kind).readsAs
  refine ⟨sections, hparse, fun kind => ?_⟩
  obtain ⟨e, htidy, hsection⟩ := hget kind
  exact ⟨_, hsection, hread kind e htidy⟩

/-- A policy with an integer, an expression, a text and a named value. -/
def limitItem : CatalogItem where
  id := "limit"
  order := 2
  policyId := "rate-limit-by-key"
  configuration := [("calls", .number (.int (-10))), ("counter-key", .text "@(context.User + \"<\")"),
    (textKey, .text "a & b")]
  attributes := ⟨[("renewal-period", .namedValue { name := "period" })], List.pairwise_singleton _ _⟩

/-- A policy whose template writes a leaf. -/
def traceItem : CatalogItem where
  id := "trace"
  order := 0
  policyId := "trace"
  configuration := [("message", .text "done"), ("source", .bool true)]

/-- A model that lists its items in another order than it emits them. -/
def restorableModel : Model where
  scope := .product
  sections :=
    { inbound := some { items := [.catalog limitItem, .fragment ⟨"f", 1, "auth"⟩] }
      outbound := some { includeBase := some false, items := [.catalog traceItem] } }

theorem isPlainPolicy_limitItem : limitItem.IsPlainPolicy := by
  have hname : IsReferenceName "period" :=
    ⟨⟨by decide, by decide, by simp [NamedValue.isBrace]⟩, by decide, by decide, by decide⟩
  have hkey : IsAttributeValue (.text "@(context.User + \"<\")") :=
    .text ⟨by decide +kernel, by decide, by decide, by rfl⟩
  refine ⟨by decide, by decide, by rfl, by decide, ?_, ?_, ?_, ?_⟩
  · simp only [limitItem, List.forall_mem_cons]
    exact ⟨fun _ => by decide, fun _ => by decide, fun h => absurd rfl h, by simp⟩
  · simp only [limitItem, List.forall_mem_cons]
    exact ⟨fun _ => .int (by decide), fun _ => hkey, fun h => absurd rfl h, by simp⟩
  · simp only [limitItem, List.forall_mem_cons]
    refine ⟨fun h => absurd h (by decide), fun h => absurd h (by decide), fun _ => ?_, by simp⟩
    exact ⟨_, rfl, by decide +kernel, by decide, by decide, by decide⟩
  · simp only [limitItem, List.forall_mem_singleton]
    exact ⟨by decide, by decide, _, rfl, hname⟩

theorem isTemplatePolicy_traceItem : traceItem.IsTemplatePolicy .trace "message" := by
  have hmessage : IsTextSafe "done" := ⟨by decide +kernel, by decide, by decide, by decide⟩
  refine ⟨rfl, rfl, rfl, by decide, ?_⟩
  exact List.forall_mem_cons.2 ⟨.inr ⟨rfl, _, rfl, hmessage⟩,
    List.forall_mem_singleton.2 (.inl ⟨by decide, .bool true, by simp⟩)⟩

theorem exists_ofXml_toXml_restorableModel :
    (({} : Settings).coerceScalars = true ∧
      ∀ kind s, restorableModel.sections.get? kind = some s → ∀ i ∈ s.items, i.IsRestorable) ∧
    ∃ sections : Sections, Model.ofXml {} (restorableModel.toXml {}) =
        .ok { scope := .api, sections } ∧
      ∀ kind, ∃ s', sections.get? kind = some s' ∧
        IsRestoredSection kind (restorableModel.sections.get? kind) s' := by
  have hfragment : (Item.fragment ⟨"f", 1, "auth"⟩).IsRestorable :=
    .fragment ⟨by decide, by decide, by decide, by decide⟩
  have h : ∀ kind s, restorableModel.sections.get? kind = some s →
      ∀ i ∈ s.items, i.IsRestorable := by
    intro kind s hs
    cases kind with
    | inbound =>
      obtain rfl := Option.some.inj hs
      exact List.forall_mem_cons.2 ⟨.plain isPlainPolicy_limitItem,
        List.forall_mem_singleton.2 hfragment⟩
    | outbound =>
      obtain rfl := Option.some.inj hs
      exact List.forall_mem_singleton.2 (.template isTemplatePolicy_traceItem)
    | backend => simp [restorableModel, Sections.get?] at hs
    | onError => simp [restorableModel, Sections.get?] at hs
  exact ⟨⟨rfl, h⟩, exists_ofXml_toXml {} restorableModel rfl h⟩

end GatewayPolicy
