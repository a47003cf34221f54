import GatewayPolicy.Proofs.Policy.SendRequest
import GatewayPolicy.Proofs.Policy.StartTags
/-!
# Requests to other services, both ways and back

A request that is written as an element is read back with its texts trimmed and everything else as it
was, also from the text of the element if nothing in the request looks like an expression. A request
that was read is found again in its configuration, except that an address that is the word for a truth
value comes back as the truth value.
-/

namespace GatewayPolicy

open Json Text Xml

namespace SendRequest

variable {settings : Settings} {style : NamedValueStyle} {s : SendRequest} {h : SendRequestHeader}
  {e : Element} {v : Json} {t : String}

/-! ## Requests that can be written -/

/-- How long to wait, as an attribute can say it. -/
inductive IsTimeout : Json → Prop
  | bool (b : Bool) : IsTimeout (.bool b)
  | integer {n : Int} (hfits : fitsSigned64 n = true) : IsTimeout (.number (.int n))
  | text {t : String} (hkept : coerce true t = .text t) : IsTimeout (.text t)

/-- The value of a header, as an attribute can say it. -/
inductive IsHeaderValue : Json → Prop
  | null : IsHeaderValue .null
  | text {t : String} (hplain : NamedValue.isToken t = false) : IsHeaderValue (.text t)
  | reference {name : String} (hname : NamedValue.IsTokenName name.toList) :
    IsHeaderValue (.object [("name", .text name)])

/-- The request can be written: attributes can say its timeout and the values of its headers. -/
structure IsExpressible (s : SendRequest) : Prop where
  /-- How long to wait. -/
  timeout : ∀ v, s.timeout = some v → IsTimeout v
  /-- The headers. -/
  headers : ∀ h ∈ s.headers, IsHeaderValue h.value

theorem IsTimeout.exists_coerce (hv : IsTimeout v) : ∃ t, v = coerce true t := by
  cases hv with
  | bool b => exact ⟨boolWord b, (coerce_boolWord b).symm⟩
  | integer hfits => exact ⟨_, (coerce_toString hfits).symm⟩
  | text hkept => exact ⟨_, hkept.symm⟩

theorem IsHeaderValue.exists_headerValue? (hv : IsHeaderValue v) : ∃ o, v = headerValue? o := by
  cases hv with
  | null => exact ⟨none, rfl⟩
  | @text t hplain =>
    refine ⟨some t, ?_⟩
    have hnone : NamedValue.name? t = none := by
      simpa [NamedValue.isToken] using hplain
    rw [headerValue?, headerValue, hnone]
  | @reference name hname =>
    refine ⟨some (NamedValue.token .plain name), ?_⟩
    rw [headerValue?, headerValue, NamedValue.name?_token .plain hname]

theorem IsExpressible.hasAttributeValues (hs : IsExpressible s)
    (hcoerce : settings.coerceScalars = true) : HasAttributeValues settings s := by
  constructor
  · intro v hv
    rw [hcoerce]
    exact (hs.timeout v hv).exists_coerce
  · intro h hh
    exact (hs.headers h hh).exists_headerValue?

/-! ## Their texts -/

/-- The text of a value, or the name that it refers to. -/
def valueTexts : Json → List String
  | .text t => [t]
  | .object [("name", .text name)] => [name]
  | _ => []

/-- The texts of a header. -/
def headerTexts (h : SendRequestHeader) : List String :=
  [h.name] ++ valueTexts h.value ++ h.existsAction.toList

/-- The address to set, if there is one. -/
def setUrlTexts : SetUrl → List String
  | .flag _ => []
  | .target t => [t]

/-- All texts that a request holds. -/
def texts (s : SendRequest) : List String :=
  s.mode.toList ++ s.url.toList ++ s.setUrl.toList.flatMap setUrlTexts ++ s.method.toList ++
    s.headers.flatMap headerTexts ++ s.body.toList ++ s.timeout.toList.flatMap valueTexts ++
    s.responseVariableName.toList

/-- The text neither is nor mentions an expression, blanks around it aside. -/
def IsPlainText (t : String) : Prop := isExpression (trim t) = false ∧ MentionsNoExpression t

instance (t : String) : Decidable (IsPlainText t) := inferInstanceAs (Decidable (_ ∧ _))

theorem IsPlainText.isCleanValue (ht : IsPlainText t) : IsCleanValue t := by
  left
  by_contra hat
  have htrim := isExpression_trim (Bool.not_eq_false _ ▸ hat)
  rw [ht.1] at htrim
  exact Bool.false_ne_true htrim

theorem IsPlainText.isCleanText (ht : IsPlainText t) : IsCleanText (trim t) := by
  refine .inl ⟨ht.1, fun b hb => ht.2 b ?_⟩
  rw [toList_trim] at hb
  exact hb.trans (trimChars_isInfix t.toList)

theorem targets_fst_mem_texts (ht : s.targets.1 = some t) : t ∈ s.texts := by
  have hmem : t ∈ s.url.toList ++ s.setUrl.toList.flatMap setUrlTexts := by
    unfold targets at ht
    split at ht
    · exact List.mem_append_left _ (Option.mem_toList.2 ht)
    · rename_i target hset
      obtain rfl := Option.some.inj ht
      rw [hset]
      exact List.mem_append_right _ (List.mem_singleton_self target)
    · simp at ht
  rw [texts]
  simp only [List.mem_append] at hmem ⊢
  tauto

theorem targets_snd_mem_texts (ht : s.targets.2 = some t) : t ∈ s.texts := by
  have hurl : s.url = some t := by
    unfold targets at ht
    split at ht
    · simp at ht
    · exact ht
    · exact ht
  simp [texts, hurl]

/-! ## Their elements are clean -/

theorem isCleanValue_boolWord (b : Bool) : IsCleanValue (boolWord b) := by
  cases b <;> exact .inl (by decide)

theorem IsTimeout.isCleanValue (hv : IsTimeout v) (hplain : ∀ t ∈ valueTexts v, IsPlainText t)
    (ht : scalarText? style v = some t) : IsCleanValue t := by
  cases hv with
  | bool b =>
    obtain rfl := Option.some.inj ht
    exact isCleanValue_boolWord b
  | @integer n hfits =>
    obtain rfl := Option.some.inj ht
    exact .inl (isExpression_print (.int n))
  | text =>
    obtain rfl := Option.some.inj ht
    exact (hplain _ (List.mem_singleton_self _)).isCleanValue

theorem IsHeaderValue.isCleanValue (hv : IsHeaderValue v)
    (hplain : ∀ t ∈ valueTexts v, IsPlainText t) (ht : scalarText? style v = some t) :
    IsCleanValue t := by
  cases hv with
  | null => simp [scalarText?] at ht
  | text =>
    obtain rfl := Option.some.inj ht
    exact (hplain _ (List.mem_singleton_self _)).isCleanValue
  | @reference name hname =>
    have htoken : scalarText? style (.object [("name", .text name)]) =
        some (NamedValue.token style name) := rfl
    rw [htoken] at ht
    obtain rfl := Option.some.inj ht
    exact .inl (NamedValue.isExpression_of_isToken (NamedValue.isToken_token style hname))

theorem mem_attribute? {name : String} {o : Option String} {a : String × String} :
    a ∈ attribute? name o ↔ ∃ value, o = some value ∧ a = (name, value) := by
  cases o with
  | none => simp [attribute?]
  | some value => simp [attribute?]

theorem isClean_headerElement (hv : IsHeaderValue h.value)
    (hplain : ∀ t ∈ headerTexts h, IsPlainText t) : (headerElement style h).IsClean := by
  have hname : IsPlainText h.name := hplain _ (by simp [headerTexts])
  have hvalue : ∀ t ∈ valueTexts h.value, IsPlainText t :=
    fun t ht => hplain t (by simp [headerTexts, ht])
  have haction : ∀ t, h.existsAction = some t → IsPlainText t :=
    fun t ht => hplain t (by simp [headerTexts, ht])
  have hnames : ∀ key ∈ ["header", "name", "value", "exists-action"], IsName key := by decide
  refine .element (hnames _ (by simp)) ⟨?_, ?_, ?_⟩ (List.forall_mem_nil _) (by decide)
  · intro a ha
    simp only [List.mem_append, List.mem_singleton, mem_attribute?] at ha
    rcases ha with (rfl | ⟨t, -, rfl⟩) | ⟨t, -, rfl⟩
    · exact hnames _ (by simp)
    · exact hnames _ (by simp)
    · exact hnames _ (by simp)
  · cases scalarText? style h.value <;> cases h.existsAction <;> simp [attribute?]
  · intro a ha
    simp only [List.mem_append, List.mem_singleton, mem_attribute?] at ha
    rcases ha with (rfl | ⟨t, ht, rfl⟩) | ⟨t, ht, rfl⟩
    · exact hname.isCleanValue
    · exact hv.isCleanValue hvalue ht
    · exact (haction t ht).isCleanValue

theorem isClean_textElement {name : String} (hname : IsName name) (ht : IsPlainText t) :
    (textElement name t).IsClean := by
  refine .element hname ⟨by simp, by simp, by simp⟩ ?_ ?_
  · exact List.forall_mem_singleton.2 (.text (.inr ht.isCleanText))
  · exact haveSeparateTexts_of_pairwise (List.pairwise_singleton _ _)

theorem areCleanAttributes_toElement (hs : IsExpressible s)
    (hplain : ∀ t ∈ s.texts, IsPlainText t) :
    AreCleanAttributes (s.toElement settings).attributes := by
  have hnames : ∀ key ∈ ["mode", "response-variable-name", "timeout", "ignore-error"],
      IsName key := by decide
  refine ⟨?_, CatalogItem.nodup_keys_toElement settings s, ?_⟩
  · intro a ha
    simp only [toElement, List.mem_append, List.mem_singleton, mem_attribute?] at ha
    rcases ha with ((rfl | ⟨t, -, rfl⟩) | ⟨t, -, rfl⟩) | ⟨t, -, rfl⟩
    · exact hnames _ (by simp)
    · exact hnames _ (by simp)
    · exact hnames _ (by simp)
    · exact hnames _ (by simp)
  · intro a ha
    simp only [toElement, List.mem_append, List.mem_singleton, mem_attribute?] at ha
    rcases ha with ((rfl | ⟨t, ht, rfl⟩) | ⟨t, ht, rfl⟩) | ⟨t, ht, rfl⟩
    · cases hmode : s.mode with
      | none => exact .inl (by decide)
      | some mode => exact (hplain mode (by simp [texts, hmode])).isCleanValue
    · exact (hplain t (by simp [texts, ht])).isCleanValue
    · obtain ⟨v, hv, ht⟩ := Option.bind_eq_some_iff.1 ht
      refine (hs.timeout v hv).isCleanValue (fun u hu => hplain u ?_) ht
      simp [texts, hv, hu]
    · obtain ⟨b, -, rfl⟩ := Option.map_eq_some_iff.1 ht
      exact isCleanValue_boolWord b

theorem isClean_headersElement (hs : IsExpressible s) (hplain : ∀ t ∈ s.texts, IsPlainText t) :
    (Node.element "set-headers" [] (s.headers.map (headerElement style))).IsClean := by
  have hname : IsName "set-headers" := by decide
  refine .element hname ⟨by simp, by simp, by simp⟩ ?_ ?_
  · intro m hm
    obtain ⟨h, hh, rfl⟩ := List.mem_map.1 hm
    refine isClean_headerElement (hs.headers h hh) fun t ht => hplain t ?_
    have hmem : t ∈ s.headers.flatMap headerTexts := List.mem_flatMap.2 ⟨h, hh, ht⟩
    simp [texts, List.mem_flatMap.1 hmem]
  · refine haveSeparateTexts_of_elements fun m hm => ?_
    obtain ⟨h, -, rfl⟩ := List.mem_map.1 hm
    exact ⟨⟨_, _, _⟩, rfl⟩

theorem isClean_backendElement {base : String} (hbase : IsPlainText base) :
    (Node.element "set-backend-service" [("base-url", base)] []).IsClean := by
  have hnames : ∀ name ∈ ["set-backend-service", "base-url"], IsName name := by decide
  refine .element (hnames _ (by simp)) ⟨?_, by simp, ?_⟩ (List.forall_mem_nil _) (by decide)
  · exact List.forall_mem_singleton.2 (hnames _ (by simp))
  · exact List.forall_mem_singleton.2 hbase.isCleanValue

theorem isClean_of_mem_children (hs : IsExpressible s) (hplain : ∀ t ∈ s.texts, IsPlainText t)
    {n : Node} (hn : n ∈ (s.toElement settings).children) : n.IsClean := by
  have hnames : ∀ name ∈ ["set-url", "set-method", "set-body"], IsName name := by decide
  simp only [toElement, List.mem_append, Option.mem_toList, Option.map_eq_some_iff] at hn
  rcases hn with (((⟨t, ht, rfl⟩ | ⟨t, ht, rfl⟩) | hn) | ⟨t, ht, rfl⟩) | ⟨base, hbase, rfl⟩
  · exact isClean_textElement (hnames _ (by simp)) (hplain t (targets_fst_mem_texts ht))
  · exact isClean_textElement (hnames _ (by simp)) (hplain t (by simp [texts, ht]))
  · split at hn
    · simp at hn
    · rw [List.mem_singleton.1 hn]
      exact isClean_headersElement hs hplain
  · exact isClean_textElement (hnames _ (by simp)) (hplain t (by simp [texts, ht]))
  · exact isClean_backendElement (hplain base (targets_snd_mem_texts hbase))

/-- The element of a request without expressions is read back. -/
theorem isClean_toElement (hs : IsExpressible s) (hplain : ∀ t ∈ s.texts, IsPlainText t) :
    (s.toElement settings).IsClean := by
  have hname : IsName policyId := by decide
  have hseparate : HaveSeparateTexts (s.toElement settings).children :=
    haveSeparateTexts_of_elements fun n hn =>
      (exists_element_of_mem_children hn).imp fun _ hc => hc.1
  exact Element.isClean_of hname (areCleanAttributes_toElement hs hplain)
    (fun n hn => isClean_of_mem_children hs hplain hn) hseparate

/-! ## Written and read back -/

/-- The second request says what the first one says once it is written: the mode is there, the texts
of elements are trimmed, and everything else is the same. -/
structure IsKeptAs (s s' : SendRequest) : Prop where
  mode : s'.mode = some (s.mode.getD "new")
  responseVariableName : s'.responseVariableName = s.responseVariableName
  timeout : s'.timeout = s.timeout
  ignoreErrors : s'.ignoreErrors = s.ignoreErrors
  headers : s'.headers = s.headers
  method : s'.method = s.method.bind visibleText?
  body : s'.body = s.body.bind visibleText?
  targets : s'.targets = (s.targets.1.map trim, s.targets.2)

theorem isKeptAs_reread (s : SendRequest) : s.IsKeptAs s.withVisibleTexts.reread := by
  have htargets : s.withVisibleTexts.reread.targets = (s.targets.1.map trim, s.targets.2) :=
    targets_reread s.withVisibleTexts
  obtain ⟨hmode, hname, htimeout, hignore, hmethod, hheaders, hbody⟩ :=
    fields_reread s.withVisibleTexts
  exact ⟨hmode, hname, htimeout, hignore, hheaders, hmethod, hbody, htargets⟩

/-- **A request survives its element.** What is written for a request is read back as what the request
says. The text of the element is read back as the same, unless the request has text that looks like an
expression. -/
theorem exists_isKeptAs_ofElement?_toElement (hcoerce : settings.coerceScalars = true)
    (hs : s.IsExpressible) :
    ∃ s', s.IsKeptAs s' ∧ ofElement? settings (s.toElement settings) = some s' ∧
      ((∀ t ∈ s.texts, IsPlainText t) → ∀ width, ∃ e,
        parse ((s.toElement settings).serialize width) = .ok e ∧ ofElement? settings e = some s') := by
  have hread := ofElement?_toElement_of_hasAttributeValues (hs.hasAttributeValues hcoerce)
  refine ⟨_, isKeptAs_reread s, hread, fun hplain width => ?_⟩
  obtain ⟨e, hparse, htidy, -⟩ :=
    exists_parse_serialize (s.toElement settings) width (isClean_toElement hs hplain)
  exact ⟨e, hparse, (ofElement?_of_tidy_eq htidy).trans hread⟩

/-- A request with both addresses, blanks around its texts and a header of each kind. -/
def orderRequest : SendRequest where
  url := some "https://backend"
  setUrl := some (.target " /orders ")
  method := some "POST "
  headers := [{ name := "Accept", value := .text "text/plain", existsAction := some "override" },
    { name := "Key", value := .object [("name", .text "api-key")] }, { name := "Old", value := .null }]
  body := some "  "
  timeout := some (.number (.int 20))
  ignoreErrors := some true
  responseVariableName := some "order"

theorem exists_isKeptAs_orderRequest :
    ({} : Settings).coerceScalars = true ∧ orderRequest.IsExpressible ∧
      (∀ t ∈ orderRequest.texts, IsPlainText t) ∧
      ∃ s', orderRequest.IsKeptAs s' ∧
        ofElement? {} (orderRequest.toElement {}) = some s' ∧
        ∀ width, ∃ e, parse ((orderRequest.toElement {}).serialize width) = .ok e ∧
          ofElement? {} e = some s' := by
  have hcoerce : ({} : Settings).coerceScalars = true := rfl
  have htimeout : ∀ v, orderRequest.timeout = some v → IsTimeout v := by
    rintro _ ⟨⟩
    exact .integer (by decide)
  have hheaders : ∀ h ∈ orderRequest.headers, IsHeaderValue h.value := by
    have haccept : NamedValue.isToken "text/plain" = false := by decide +kernel
    have hkey : NamedValue.IsTokenName "api-key".toList :=
      ⟨by simp, by decide +kernel, by simp [NamedValue.isBrace]⟩
    simp only [orderRequest, List.forall_mem_cons]
    exact ⟨.text haccept, .reference hkey, .null, List.forall_mem_nil _⟩
  have hplain : ∀ t ∈ orderRequest.texts, IsPlainText t := by decide +kernel
  obtain ⟨s', hkept, hread, hparse⟩ :=
    exists_isKeptAs_ofElement?_toElement hcoerce ⟨htimeout, hheaders⟩
  exact ⟨hcoerce, ⟨htimeout, hheaders⟩, hplain, s', hkept, hread, hparse hplain⟩

/-! ## Read and configured -/

theorem isNull_coerce (enabled : Bool) (t : String) : (coerce enabled t).isNull = false := by
  rcases coerce_cases enabled t with h | ⟨b, h⟩ | ⟨n, h⟩
  · rw [h]
    rfl
  · rw [h]
    rfl
  · rw [h]
    rfl

/-- Of a request that was read everything but the address is found in its configuration. -/
theorem ofConfiguration_toConfiguration_of_ofElement? (hread : ofElement? settings e = some s) :
    ofConfiguration s.toConfiguration = { s with setUrl := s.setUrl.map configuredSetUrl } := by
  have htimeout : s.timeout.filter (!·.isNull) = s.timeout := by
    cases hv : s.timeout with
    | none => rfl
    | some v =>
      obtain ⟨t, rfl⟩ := (isReadRecord_of_ofElement? hread).timeout v hv
      rw [Option.filter_some, isNull_coerce]
      rfl
  rw [ofConfiguration_toConfiguration, htimeout]

/-- The address is the word for a truth value. -/
def HasWordAsAddress (s : SendRequest) : Prop := ∃ b, s.setUrl = some (.target (boolWord b))

theorem map_configuredSetUrl_eq (hword : ¬ s.HasWordAsAddress) :
    s.setUrl.map configuredSetUrl = s.setUrl := by
  cases hset : s.setUrl with
  | none => rfl
  | some u =>
    cases u with
    | flag b => rfl
    | target t =>
      have hne : ∀ b, t ≠ boolWord b := by
        rintro b rfl
        exact hword ⟨b, hset⟩
      rw [Option.map_some, configuredSetUrl_of_ne hne]

/-- A word as the address is lost: one of the two addresses goes with it. -/
theorem targets_ne_of_hasWordAsAddress (hword : s.HasWordAsAddress) :
    ({ s with setUrl := s.setUrl.map configuredSetUrl } : SendRequest).targets ≠ s.targets := by
  obtain ⟨b, hset⟩ := hword
  rw [targets, targets, hset, Option.map_some, configuredSetUrl_target_boolWord]
  cases b with
  | false => simp
  | true =>
    intro heq
    obtain ⟨hfirst, hsecond⟩ := Prod.mk.inj heq
    rw [← hsecond] at hfirst
    simp at hfirst

/-- **A request that was read is found again in its configuration**, up to an address that is the word
for a truth value. Such a request is not found again, and its addresses are not. -/
theorem ofConfiguration_toConfiguration_iff (hread : ofElement? settings e = some s) :
    (ofConfiguration s.toConfiguration = s ↔ ¬ s.HasWordAsAddress) ∧
      ((ofConfiguration s.toConfiguration).targets = s.targets ↔ ¬ s.HasWordAsAddress) ∧
      ofConfiguration s.toConfiguration = { s with setUrl := s.setUrl.map configuredSetUrl } := by
  have hconfigured := ofConfiguration_toConfiguration_of_ofElement? hread
  rw [hconfigured]
  have hkept : ¬ s.HasWordAsAddress → { s with setUrl := s.setUrl.map configuredSetUrl } = s :=
    fun hword => by rw [map_configuredSetUrl_eq hword]
  have hlost := fun hword => targets_ne_of_hasWordAsAddress (s := s) hword
  refine ⟨⟨fun heq hword => hlost hword ?_, hkept⟩, ⟨fun heq hword => hlost hword heq, ?_⟩, rfl⟩
  · rw [heq]
  · intro hword
    rw [hkept hword]

/-- An element whose address is a word, next to a base address. -/
def wordElement : Element where
  name := policyId
  attributes := [("mode", "new")]
  children := [textElement "set-url" "true",
    .element "set-backend-service" [("base-url", "https://backend")] []]

theorem ofConfiguration_toConfiguration_wordElement :
    ∃ s, ofElement? {} wordElement = some s ∧ s.HasWordAsAddress ∧
      ofConfiguration s.toConfiguration ≠ s ∧
      (ofConfiguration s.toConfiguration).targets ≠ s.targets := by
  have hread : ofElement? {} wordElement = some
      { mode := some "new", url := some "https://backend", setUrl := some (.target "true") } := by
    rfl
  obtain ⟨hsame, htargets, -⟩ := ofConfiguration_toConfiguration_iff hread
  have hword : HasWordAsAddress
      { mode := some "new", url := some "https://backend", setUrl := some (.target "true") } :=
    ⟨true, rfl⟩
  exact ⟨_, hread, hword, fun heq => hsame.1 heq hword, fun heq => htargets.1 heq hword⟩

end SendRequest

end GatewayPolicy
