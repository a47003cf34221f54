import GatewayPolicy.Policy.Writing
import GatewayPolicy.Proofs.Bindings
import GatewayPolicy.Proofs.Policy.NamedValue
import GatewayPolicy.Proofs.Xml.Layout
import GatewayPolicy.Proofs.Xml.WellFormed
/-!
# Policies written as one element

A policy without a template is one element: its configuration and its named values are attributes,
and the value under the text key is the text. The element is given here as a tree, and what is
written is read back as that tree.
-/

namespace GatewayPolicy

open Json Text Xml

/-! ## Raw values -/

namespace Xml

/-- The raw attribute value is found by the reader and stands for the value. -/
structure ReadsAsValue (raw value : String) : Prop where
  /-- Its closing quote is found. -/
  quotable : IsQuotable raw.toList
  /-- It stands for the value. -/
  unescape_eq : unescape raw = value

theorem readsAsValue_attributeText {s : String} (h : IsCleanValue s) :
    ReadsAsValue (attributeText s) s :=
  ⟨isQuotable_attributeText h, unescape_attributeText h⟩

/-- A value without quotes, ampersands and an at sign in front can be written as it is. -/
theorem readsAsValue_self {s : String} (hquote : '"' ∉ s.toList) (hamp : '&' ∉ s.toList)
    (hat : isExpression s = false) : ReadsAsValue s s := by
  constructor
  · refine isQuotable_of_notMem hquote (not_opensExpression ?_)
    rwa [String.ofList_toList]
  · rw [unescape, unescapeChars_of_notMem hamp, String.ofList_toList]

theorem areReadable_of_forall₂ {raw attributes : Attributes}
    (h : List.Forall₂ (fun a b => a.1 = b.1 ∧ ReadsAsValue a.2 b.2) raw attributes)
    (hwf : AreWellFormed attributes) : AreReadable raw ∧ readRaw raw = attributes := by
  have hkeys : raw.map Prod.fst = attributes.map Prod.fst := by
    clear hwf
    induction h with
    | nil => rfl
    | cons hab _ ih => rw [List.map_cons, List.map_cons, hab.1, ih]
  have hread : readRaw raw = attributes := by
    clear hwf hkeys
    induction h with
    | nil => rfl
    | cons hab _ ih =>
      rw [readRaw, List.map_cons, ← readRaw, ih]
      exact congrArg (· :: _) (Prod.ext hab.1 hab.2.unescape_eq)
  refine ⟨⟨?_, ?_, ?_⟩, hread⟩
  · intro a ha
    have hkey : a.1 ∈ attributes.map Prod.fst := hkeys ▸ List.mem_map_of_mem ha
    obtain ⟨b, hb, heq⟩ := List.mem_map.1 hkey
    rw [← heq]
    exact hwf.names b hb
  · rw [hkeys]
    exact hwf.distinct
  · clear hwf hkeys hread
    induction h with
    | nil => simp
    | cons hab _ ih => exact List.forall_mem_cons.2 ⟨hab.2.quotable, ih⟩

end Xml

/-! ## Tokens as raw values -/

namespace NamedValue

variable {s name : String}

theorem isExpression_of_isToken (h : isToken s = true) : isExpression s = false := by
  obtain ⟨name, hname⟩ := isToken_iff.1 h
  obtain ⟨-, style, ws, ws', -, -, heq⟩ := name?_eq_some_iff.1 hname
  rw [Bool.eq_false_iff]
  intro hat
  have htrim := isExpression_trim hat
  rw [isExpression, heq, beq_iff_eq] at htrim
  cases style <;> simp [NamedValueStyle.opening] at htrim

theorem readsAsValue_token (style : NamedValueStyle) (h : IsTokenName name.toList)
    (hquote : '"' ∉ name.toList) (hamp : '&' ∉ name.toList) :
    ReadsAsValue (token style name) (token style name) := by
  refine readsAsValue_self ?_ ?_ (isExpression_of_isToken (isToken_token style h))
  · intro hm
    rcases mem_token hm with hm | hm
    · simp at hm
    · exact hquote hm
  · intro hm
    rcases mem_token hm with hm | hm
    · simp at hm
    · exact hamp hm

end NamedValue

/-! ## The element of a policy -/

/-- The text of an attribute value. -/
def AttributeValue.text (style : NamedValueStyle) : AttributeValue → String
  | .literal s => s
  | .namedValue r => NamedValue.token style r.name

namespace CatalogItem

/-- The configuration values that become attributes, with their texts. -/
def parameterTexts (style : NamedValueStyle) (i : CatalogItem) : Attributes :=
  (i.configuration.filter fun (key, _) => key != textKey && !i.attributes.contains key).filterMap
    fun (key, v) => (scalarText? style v).map (key, ·)

/-- The attribute values, with their texts. -/
def attributeTexts (style : NamedValueStyle) (i : CatalogItem) : Attributes :=
  i.attributes.entries.map fun (key, v) => (key, v.text style)

/-- The policy as one element. -/
def genericElement (style : NamedValueStyle) (i : CatalogItem) : Element where
  name := i.policyId
  attributes := i.parameterTexts style ++ i.attributeTexts style
  children := ((Writer.elementText? style i).map Node.text).toList

@[simp] theorem name_genericElement (style : NamedValueStyle) (i : CatalogItem) :
    (i.genericElement style).name = i.policyId := rfl

/-- The text of a parameter can be written as an attribute: a token as it is, any other text with
references. -/
def IsParameterText (s : String) : Prop :=
  if NamedValue.isToken s then '"' ∉ s.toList ∧ '&' ∉ s.toList else IsCleanValue s

instance (s : String) : Decidable (IsParameterText s) := by
  unfold IsParameterText
  infer_instance

/-- An attribute value that can be written. -/
def IsWritable : AttributeValue → Prop
  | .literal s => IsCleanValue s
  | .namedValue r =>
    NamedValue.IsTokenName r.name.toList ∧ '"' ∉ r.name.toList ∧ '&' ∉ r.name.toList

/-- The conditions under which a policy that is written as one element is read back. -/
structure IsGeneric (style : NamedValueStyle) (i : CatalogItem) : Prop where
  /-- The policy has a name. -/
  name : IsName i.policyId
  /-- The attributes have names, none of them repeated. -/
  attributes : AreWellFormed (i.genericElement style).attributes
  /-- The parameters can be written. -/
  parameters : ∀ a ∈ i.parameterTexts style, IsParameterText a.2
  /-- The attribute values can be written. -/
  values : ∀ a ∈ i.attributes.entries, IsWritable a.2
  /-- The text is clean and has no blanks at its ends. -/
  text : ∀ t, Writer.elementText? style i = some t → trim t = t ∧ IsCleanText t

variable {style : NamedValueStyle} {i : CatalogItem}

theorem readsAsValue_parameter {s : String} (h : IsParameterText s) :
    ReadsAsValue (if NamedValue.isToken s then s else attributeText s) s := by
  unfold IsParameterText at h
  by_cases ht : NamedValue.isToken s = true
  · rw [if_pos ht] at h ⊢
    exact readsAsValue_self h.1 h.2 (NamedValue.isExpression_of_isToken ht)
  · rw [if_neg ht] at h ⊢
    exact readsAsValue_attributeText h

theorem readsAsValue_value (style : NamedValueStyle) {v : AttributeValue} (h : IsWritable v) :
    ReadsAsValue (Writer.attributeValueText style v) (v.text style) := by
  cases v with
  | literal s => exact readsAsValue_attributeText h
  | namedValue r => exact NamedValue.readsAsValue_token style h.1 h.2.1 h.2.2

theorem forall₂_attributes {R : String → String → Prop} (style : NamedValueStyle) (i : CatalogItem)
    (hparameters : ∀ a ∈ i.parameterTexts style,
      R (if NamedValue.isToken a.2 then a.2 else attributeText a.2) a.2)
    (hvalues : ∀ a ∈ i.attributes.entries,
      R (Writer.attributeValueText style a.2) (a.2.text style)) :
    List.Forall₂ (fun a b => a.1 = b.1 ∧ R a.2 b.2)
      (Writer.configurationAttributes style i ++
        i.attributes.entries.map fun (key, v) => (key, Writer.attributeValueText style v))
      (i.genericElement style).attributes := by
  refine List.rel_append ?_ ?_
  · unfold parameterTexts at hparameters
    unfold Writer.configurationAttributes parameterTexts
    generalize (i.configuration.filter fun (key, _) =>
      key != textKey && !i.attributes.contains key) = fields at hparameters ⊢
    induction fields with
    | nil => exact .nil
    | cons f fields ih =>
      obtain ⟨key, v⟩ := f
      cases hv : scalarText? style v with
      | none =>
        simp only [List.filterMap_cons, hv, attributeForm?, Option.map_none] at hparameters ⊢
        exact ih hparameters
      | some s =>
        simp only [List.filterMap_cons, hv, attributeForm?, Option.map_some,
          List.forall_mem_cons] at hparameters ⊢
        exact .cons ⟨rfl, hparameters.1⟩ (ih hparameters.2)
  · unfold attributeTexts
    generalize i.attributes.entries = entries at hvalues ⊢
    induction entries with
    | nil => exact .nil
    | cons a entries ih =>
      obtain ⟨ha, hentries⟩ := List.forall_mem_cons.1 hvalues
      exact .cons ⟨rfl, ha⟩ (ih hentries)

end CatalogItem

/-! ## The attributes of the element -/

namespace CatalogItem

variable {style : NamedValueStyle} {i : CatalogItem}

/-- The configuration values that become attributes, each with what `f` makes of it. -/
def parametersWith (f : Json → Option String) (i : CatalogItem) : Attributes :=
  (i.configuration.filter fun (key, _) => key != textKey && !i.attributes.contains key).filterMap
    fun (key, v) => (f v).map (key, ·)

/-- The attributes of the policy, with what `f` makes of configuration values and `g` of attribute
values. -/
def attributesWith (f : Json → Option String) (g : AttributeValue → String) (i : CatalogItem) :
    Attributes :=
  i.parametersWith f ++ i.attributes.entries.map fun (key, v) => (key, g v)

/-- The attributes of a policy as they are written, without their quotes. -/
def rawAttributes (style : NamedValueStyle) (i : CatalogItem) : Attributes :=
  Writer.configurationAttributes style i ++
    i.attributes.entries.map fun (key, v) => (key, Writer.attributeValueText style v)

theorem rawAttributes_eq (style : NamedValueStyle) (i : CatalogItem) :
    i.rawAttributes style =
      i.attributesWith (attributeForm? style) (Writer.attributeValueText style) := rfl

theorem keys_parametersWith_sublist (f : Json → Option String) (i : CatalogItem) :
    ((i.parametersWith f).map Prod.fst).Sublist (i.configuration.map Prod.fst) :=
  (keys_filterMap_sublist (fun _ v => f v) _).trans (keys_filter_sublist _ i.configuration)

theorem lookup_parametersWith (f : Json → Option String)
    (h : (i.configuration.map Prod.fst).Nodup) (key : String) :
    (i.parametersWith f).lookup key =
      if key != textKey && !i.attributes.contains key then (i.configuration.get? key).bind f
      else none := by
  have hfilter : ((i.configuration.filter fun (key, _) =>
      key != textKey && !i.attributes.contains key).map Prod.fst).Nodup :=
    h.sublist (keys_filter_sublist _ _)
  rw [parametersWith, lookup_filterMap hfilter (fun _ v => f v),
    lookup_filter fun key => key != textKey && !i.attributes.contains key]
  split <;> rfl

/-- An attribute value goes before a parameter. -/
theorem lookup_attributesWith (f : Json → Option String) (g : AttributeValue → String)
    (h : (i.configuration.map Prod.fst).Nodup) (key : String) :
    (i.attributesWith f g).lookup key =
      ((i.attributes.get? key).map g).or
        (if key = textKey then none else (i.configuration.get? key).bind f) := by
  have hvalues : (i.attributes.entries.map fun (key, v) => (key, g v)).lookup key =
      (i.attributes.get? key).map g := lookup_map (fun _ v => g v) i.attributes.entries key
  rw [attributesWith, List.lookup_append, lookup_parametersWith f h, hvalues]
  cases hv : i.attributes.get? key with
  | none =>
    have hc : i.attributes.contains key = false := by
      rw [Bool.eq_false_iff, ne_eq, NameMap.contains_iff, hv]
      simp
    by_cases hk : key = textKey
    · simp [hk]
    · simp [hk, hc]
  | some v =>
    have hc : i.attributes.contains key = true := NameMap.contains_iff.2 (by rw [hv]; rfl)
    simp [hc]

/-- No key is repeated. -/
theorem nodup_keys_attributesWith (f : Json → Option String) (g : AttributeValue → String)
    (h : (i.configuration.map Prod.fst).Nodup) : ((i.attributesWith f g).map Prod.fst).Nodup := by
  have hkeys : (i.attributes.entries.map fun (key, v) => (key, g v)).map Prod.fst =
      i.attributes.entries.map Prod.fst := by simp
  rw [attributesWith, List.map_append, hkeys]
  refine List.nodup_append.2
    ⟨h.sublist (keys_parametersWith_sublist f i), i.attributes.nodup_keys, ?_⟩
  rintro key hkey _ hkey' rfl
  have hcontains : i.attributes.contains key = true := by
    obtain ⟨a, ha, heq⟩ := List.mem_map.1 hkey'
    exact List.any_eq_true.2 ⟨a, ha, by simp [heq]⟩
  have hnone : (i.parametersWith f).lookup key = none := by
    rw [lookup_parametersWith f h, hcontains]
    simp
  exact lookup_eq_none_iff.1 hnone hkey

theorem keys_parameterTexts_sublist (style : NamedValueStyle) (i : CatalogItem) :
    ((i.parameterTexts style).map Prod.fst).Sublist (i.configuration.map Prod.fst) :=
  keys_parametersWith_sublist _ i

theorem lookup_parameterTexts (style : NamedValueStyle)
    (h : (i.configuration.map Prod.fst).Nodup) (key : String) :
    (i.parameterTexts style).lookup key =
      if key != textKey && !i.attributes.contains key then
        (i.configuration.get? key).bind (scalarText? style)
      else none :=
  lookup_parametersWith _ h key

/-- The attributes that a policy is written with. -/
theorem attribute?_genericElement (style : NamedValueStyle)
    (h : (i.configuration.map Prod.fst).Nodup) (key : String) :
    (i.genericElement style).attribute? key =
      ((i.attributes.get? key).map (AttributeValue.text style)).or
        (if key = textKey then none else (i.configuration.get? key).bind (scalarText? style)) :=
  lookup_attributesWith _ _ h key

/-- The element has names as keys, none repeated, if the configuration and the attributes have. -/
theorem areWellFormed_genericElement (style : NamedValueStyle)
    (hdistinct : (i.configuration.map Prod.fst).Nodup)
    (hnames : ∀ key ∈ i.configuration.map Prod.fst, key ≠ textKey → IsName key)
    (hattributes : ∀ key ∈ i.attributes.entries.map Prod.fst, IsName key) :
    AreWellFormed (i.genericElement style).attributes := by
  have hkeys : (i.attributeTexts style).map Prod.fst = i.attributes.entries.map Prod.fst := by
    simp [attributeTexts]
  refine ⟨fun a ha => ?_, nodup_keys_attributesWith _ (AttributeValue.text style) hdistinct⟩
  rcases List.mem_append.1 ha with ha | ha
  · have hkey : a.1 ∈ (i.parameterTexts style).map Prod.fst := List.mem_map_of_mem ha
    refine hnames a.1 ((keys_parameterTexts_sublist style i).subset hkey) ?_
    rintro heq
    refine lookup_eq_none_iff.1 ?_ hkey
    rw [lookup_parameterTexts style hdistinct, heq]
    rfl
  · exact hattributes a.1 (hkeys ▸ List.mem_map_of_mem ha)

end CatalogItem

/-! ## Reading it back -/

theorem Writer.toList_rawAttributes (raw : Attributes) :
    (Writer.rawAttributes raw).toList = attributeChars raw := by
  simp [Writer.rawAttributes, attributeChars, String.toList_join, List.flatMap_map]

/-- A policy that is written as one element is read back as that element. -/
theorem Writer.readsAsElement_renderGeneric (w : Writer) {i : CatalogItem}
    (h : i.IsGeneric w.settings.namedValueStyle) :
    ReadsAsElement (w.renderGeneric i).toList (i.genericElement w.settings.namedValueStyle) := by
  have hforall := CatalogItem.forall₂_attributes w.settings.namedValueStyle i
    (fun a ha => CatalogItem.readsAsValue_parameter (h.parameters a ha))
    (fun a ha => CatalogItem.readsAsValue_value _ (h.values a ha))
  obtain ⟨hreadable, hread⟩ := areReadable_of_forall₂ hforall h.attributes
  unfold renderGeneric CatalogItem.genericElement
  dsimp only
  cases ht : elementText? w.settings.namedValueStyle i with
  | none =>
    have hclosed := readsAsElement_closed h.name hreadable tidyNodes_nil
    rw [hread] at hclosed
    simpa [toList_rawAttributes, closedChars, CatalogItem.genericElement] using hclosed
  | some t =>
    obtain ⟨htrim, hclean⟩ := h.text t ht
    have hreads : ReadsAs (contentText t).toList (.text t) := by
      have := readsAs_contentText (s := t) (by rwa [htrim])
      rwa [htrim] at this
    have hvisible : (Node.text t).isBlank = false := by
      have hne : t ≠ "" := by
        rintro rfl
        simp [elementText?, Option.filter_eq_some_iff] at ht
      rw [Bool.eq_false_iff]
      intro hb
      exact hne (by rw [← htrim]; exact trim_eq_empty_iff.2 hb)
    have hw : AreWritten [((contentText t).toList, Node.text t)] [.text t] :=
      areWritten_nil.cons hvisible hreads
    have helement := readsAsElement_element h.name hreadable isBlankRun_nil isBlankRun_nil
      (hw.areSeparate (by simp [HaveSeparateTexts, visibleNodes, hvisible])) hw.tidyNodes_eq
    rw [hread] at helement
    simpa [toList_rawAttributes, elementChars, gappedChars, toList_endTag,
      CatalogItem.genericElement] using helement

/-- What is written for attributes holds a line feed only if they do. -/
theorem CatalogItem.lineFeed_notMem_rawAttributes {i : CatalogItem} {style : NamedValueStyle}
    (hkeys : ∀ a ∈ (i.genericElement style).attributes, IsName a.1)
    (hvalues : ∀ a ∈ (i.genericElement style).attributes, '\n' ∉ a.2.toList) :
    '\n' ∉ attributeChars (Writer.configurationAttributes style i ++
      i.attributes.entries.map fun (key, v) => (key, Writer.attributeValueText style v)) := by
  have hforall := forall₂_attributes (R := fun raw s => '\n' ∉ s.toList → '\n' ∉ raw.toList)
    style i ?_ ?_
  · refine lineFeed_notMem_attributeChars ?_
    generalize (i.genericElement style).attributes = attributes at hforall hkeys hvalues
    generalize Writer.configurationAttributes style i ++ _ = raw at hforall ⊢
    induction hforall with
    | nil => simp
    | cons hab _ ih =>
      obtain ⟨hkey, hkeys⟩ := List.forall_mem_cons.1 hkeys
      obtain ⟨hvalue, hvalues⟩ := List.forall_mem_cons.1 hvalues
      refine List.forall_mem_cons.2 ⟨⟨?_, hab.2 hvalue⟩, ih hkeys hvalues⟩
      rw [hab.1]
      exact lineFeed_notMem_of_isName hkey
  · intro a _ h
    split
    · exact h
    · exact lineFeed_notMem_attributeText h
  · rintro ⟨key, v⟩ _ h
    cases v with
    | literal s => exact lineFeed_notMem_attributeText h
    | namedValue r => exact h

/-- A policy that is written as one element stands on one line if nothing in it holds a line feed. -/
theorem Writer.isLine_renderGeneric (w : Writer) {i : CatalogItem} (hname : IsName i.policyId)
    (hkeys : ∀ a ∈ (i.genericElement w.settings.namedValueStyle).attributes, IsName a.1)
    (hvalues : ∀ a ∈ (i.genericElement w.settings.namedValueStyle).attributes,
      '\n' ∉ a.2.toList)
    (htext : ∀ t, elementText? w.settings.namedValueStyle i = some t → '\n' ∉ t.toList) :
    IsLine (w.renderGeneric i).toList := by
  have hraw := CatalogItem.lineFeed_notMem_rawAttributes hkeys hvalues
  rw [← toList_rawAttributes] at hraw
  have hname := lineFeed_notMem_of_isName hname
  unfold renderGeneric
  dsimp only
  cases ht : elementText? w.settings.namedValueStyle i with
  | none =>
    have hline : IsLine ('<' :: i.policyId.toList ++
        (rawAttributes (configurationAttributes w.settings.namedValueStyle i ++
          i.attributes.entries.map fun (key, v) =>
            (key, attributeValueText w.settings.namedValueStyle v))).toList ++ [' ', '/'] ++ ['>']) :=
      isLine_append_bracket (by simp [hname, hraw])
    simpa using hline
  | some t =>
    have hcontent := lineFeed_notMem_contentText (htext t ht)
    have hline : IsLine ('<' :: i.policyId.toList ++
        (rawAttributes (configurationAttributes w.settings.namedValueStyle i ++
          i.attributes.entries.map fun (key, v) =>
            (key, attributeValueText w.settings.namedValueStyle v))).toList ++
          '>' :: (contentText t).toList ++ '<' :: '/' :: i.policyId.toList ++ ['>']) :=
      isLine_append_bracket (by simp [hname, hraw, hcontent])
    simpa [toList_endTag] using hline

end GatewayPolicy
