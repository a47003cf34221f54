import GatewayPolicy.Proofs.Policy.Generic
import GatewayPolicy.Proofs.Policy.ReadReferences
/-!
# Named values that are written

What is written for a policy refers to named values that are collected from the policy, if its
references are plain: texts of a list can become a token together, and a literal attribute is never
looked at when references are collected.
-/

namespace GatewayPolicy

open Json Text Xml NamedValue

variable {names : List String} {settings : Settings} {style : NamedValueStyle} {i : CatalogItem}
  {c : Fields} {v : Json} {s key : String} {t : Template} {e : Element} {n : Node}

/-! ## Values as texts -/

/-- No list in the value becomes a token when its texts are joined; a single text may be one. -/
inductive JoinsNoToken (style : NamedValueStyle) : Json → Prop where
  | scalar {v : Json} (h : ∀ items, v ≠ .array items) : JoinsNoToken style v
  | several {items : List Json}
    (h : isToken (String.intercalate "," (scalarTexts style items)) = false) :
    JoinsNoToken style (.array items)
  | single {items : List Json} (hitems : ∀ v ∈ items, JoinsNoToken style v)
    (hlength : (scalarTexts style items).length ≤ 1) : JoinsNoToken style (.array items)

theorem mem_scalarTexts {vs : List Json} :
    s ∈ scalarTexts style vs ↔ ∃ v ∈ vs, scalarText? style v = some s := by
  induction vs with
  | nil => simp [scalarTexts]
  | cons v vs ih =>
    rw [scalarTexts]
    cases hv : scalarText? style v with
    | none => simp [hv, ih]
    | some t => simp [hv, ih, eq_comm]

theorem name?_of_brace {d : Char} {t : List Char} (hs : s.toList = '\x7b' :: d :: t)
    (hd : d ≠ '\x7b') : NamedValue.name? s = none := by
  have hskip : skipBlanks ('\x7b' :: d :: t) = '\x7b' :: d :: t := skipBlanks_cons (by decide) _
  obtain ⟨ws, -, heq⟩ := exists_dropEndBlanks_append ('\x7b' :: d :: t)
  rw [NamedValue.name?, nameChars?, hs, trimChars, hskip]
  split
  · rename_i h
    rw [h] at heq
    simp at heq
  · rename_i h
    rw [h] at heq
    exact absurd (List.cons.inj (List.cons.inj heq).2).1 hd
  · rfl

/-- An object as JSON text has a quote or nothing behind its first brace. -/
theorem name?_compact_object (fields : Fields) :
    NamedValue.name? (Json.object fields).compact = none := by
  cases fields with
  | nil => exact name?_of_brace (d := '\x7d') (t := []) rfl (by decide)
  | cons f rest =>
    obtain ⟨key, v⟩ := f
    have hstart : (Json.object ((key, v) :: rest)).compact.toList =
        '\x7b' :: '"' :: (key.toList.flatMap escapeChar ++
          '"' :: ':' :: (v.compact ++ compactFields rest ++ "\x7d").toList) := by
      simp [Json.compact, quote]
    exact name?_of_brace hstart (by decide)

theorem refersWithin_boolWord (b : Bool) : NamedValue.RefersWithin names (boolWord b) := by
  refine refersWithin_of_name?_eq_none ?_
  cases b with
  | true => decide
  | false => decide

theorem refersWithin_print (x : Number) : NamedValue.RefersWithin names x.print :=
  refersWithin_of_name?_eq_none (name?_of_notMem (notMem_print (by decide) x))

/-- The token for a name without blanks at its ends refers to the name. -/
theorem refersWithin_token {name : String} (hname : name ∈ names) (htrim : trim name = name) :
    NamedValue.RefersWithin names (token style name) := by
  intro found hfound
  rw [eq_trim_of_name?_token hfound, htrim]
  exact hname

/-- A value as text refers to what the value refers to. -/
theorem refersWithin_scalarText? (hnames : ∀ name ∈ names, trim name = name)
    (hjoin : JoinsNoToken style v) (h : v.RefersWithin names) (hs : scalarText? style v = some s) :
    NamedValue.RefersWithin names s := by
  induction hjoin generalizing s with
  | @scalar v harray =>
    cases v with
    | null => simp [scalarText?] at hs
    | bool b =>
      rw [scalarText?] at hs
      obtain rfl := Option.some.inj hs
      exact refersWithin_boolWord b
    | number x =>
      rw [scalarText?] at hs
      obtain rfl := Option.some.inj hs
      exact refersWithin_print x
    | text t =>
      rw [scalarText?] at hs
      obtain rfl := Option.some.inj hs
      exact refersWithin_text.1 h
    | array items => exact absurd rfl (harray items)
    | object fields =>
      rw [scalarText?] at hs
      cases hname : referenceName? fields with
      | none =>
        rw [hname] at hs
        obtain rfl := Option.some.inj hs
        exact refersWithin_of_name?_eq_none (name?_compact_object fields)
      | some name =>
        rw [hname] at hs
        obtain rfl := Option.some.inj hs
        have hmem : name ∈ names := h name (by simp [Json.namedValues, hname])
        exact refersWithin_token hmem (hnames name hmem)
  | several htoken =>
    rw [scalarText?] at hs
    obtain rfl := Option.some.inj hs
    exact refersWithin_of_name?_eq_none (name?_of_isToken_eq_false htoken)
  | @single items hitems hlength ih =>
    rw [scalarText?] at hs
    obtain rfl := Option.some.inj hs
    rcases htexts : scalarTexts style items with _ | ⟨t, _ | ⟨t', rest⟩⟩
    · exact refersWithin_of_name?_eq_none (name?_of_isBlankText (by decide))
    · have hmem : t ∈ scalarTexts style items := by simp [htexts]
      obtain ⟨v, hv, ht⟩ := mem_scalarTexts.1 hmem
      refine ih v hv (fun name hname => h name ?_) ht
      rw [Json.namedValues, mem_namedValuesOfItems]
      exact ⟨v, hv, hname⟩
    · rw [htexts] at hlength
      simp at hlength

/-! ## Written elements -/

/-- References are plain: no name has blanks at its ends or a line end in it, no literal attribute is
a token, no list becomes one, and so for the headers of a `send-request`. -/
structure CatalogItem.HasPlainReferences (style : NamedValueStyle) (i : CatalogItem) : Prop where
  names : ∀ name ∈ i.namedValues, trim name = name ∧ '\n' ∉ name.toList
  literals : ∀ a ∈ i.attributes.entries, ∀ s, a.2 = .literal s → isToken s = false
  lists : ∀ f ∈ i.configuration, JoinsNoToken style f.2
  headerNames : i.policyId = SendRequest.policyId → ∀ fields : Fields,
    i.configuration.get? "headers" = some (.object fields) → ∀ f ∈ fields, isToken f.1 = false
  headerValues : i.policyId = SendRequest.policyId →
    ∀ x ∈ (SendRequest.ofConfiguration i.configuration).headers, JoinsNoToken style x.value

theorem referWithin_configuration (i : CatalogItem) : i.configuration.ReferWithin i.namedValues := by
  intro f hf name hname
  rw [CatalogItem.namedValues, List.mem_append, mem_namedValuesOfFields]
  exact .inr ⟨f, hf, hname⟩

theorem holdsWithin_of_texts {name : String} {attributes : Attributes} {o : Option String}
    (hvalues : ∀ a ∈ attributes, NamedValue.RefersWithin names a.2)
    (ho : ∀ t, o = some t → NamedValue.RefersWithin names t) :
    (Node.element name attributes (o.map Node.text).toList).HoldsWithin names := by
  refine .element hvalues ((length_visibleCharacters_le _).trans ?_) fun n hn => ?_
  · cases o with
    | none => exact Nat.zero_le 1
    | some t => exact Nat.le_refl 1
  · obtain ⟨t, ht, rfl⟩ := Option.map_eq_some_iff.1 (Option.mem_toList.1 hn)
    exact .text (ho t ht)

theorem holdsWithin_of_elements {name : String} {attributes : Attributes} {children : List Node}
    (hvalues : ∀ a ∈ attributes, NamedValue.RefersWithin names a.2)
    (hchildren : ∀ n ∈ children, n.isCharacters = false ∧ n.HoldsWithin names) :
    (Node.element name attributes children).HoldsWithin names := by
  refine .element hvalues ?_ fun n hn => (hchildren n hn).2
  rw [visibleCharacters_eq_nil fun n hn => (hchildren n hn).1]
  exact Nat.zero_le 1

theorem CatalogItem.HasPlainReferences.trimmed (h : i.HasPlainReferences style) :
    ∀ name ∈ i.namedValues, trim name = name := fun name hname => (h.names name hname).1

theorem CatalogItem.HasPlainReferences.scalarText? (h : i.HasPlainReferences style)
    {f : String × Json} (hf : f ∈ i.configuration) (hs : scalarText? style f.2 = some s) :
    NamedValue.RefersWithin i.namedValues s :=
  refersWithin_scalarText? h.trimmed (h.lists f hf) (referWithin_configuration i f hf) hs

/-- A policy that is written as one element refers to the named values that are collected. -/
theorem holdsWithin_genericElement (h : i.HasPlainReferences style) :
    (i.genericElement style).node.HoldsWithin i.namedValues := by
  refine holdsWithin_of_texts (fun a ha => ?_) fun t ht => ?_
  · rcases List.mem_append.1 ha with ha | ha
    · obtain ⟨f, hf, hkey⟩ := List.mem_filterMap.1 ha
      obtain ⟨s, hs, rfl⟩ := Option.map_eq_some_iff.1 hkey
      exact h.scalarText? (List.mem_filter.1 hf).1 hs
    · obtain ⟨⟨key, value⟩, hb, rfl⟩ := List.mem_map.1 ha
      cases value with
      | literal s =>
        exact refersWithin_of_name?_eq_none
          (name?_of_isToken_eq_false (h.literals _ hb s rfl))
      | namedValue r =>
        have hmem : r.name ∈ i.namedValues := by
          rw [CatalogItem.namedValues]
          exact List.mem_append_left _ (List.mem_filterMap.2 ⟨_, hb, rfl⟩)
        exact refersWithin_token hmem (h.trimmed _ hmem)
  · obtain ⟨ht, -⟩ := Option.filter_eq_some_iff.1 ht
    obtain ⟨v, hv, ht⟩ := Option.bind_eq_some_iff.1 ht
    exact h.scalarText? (mem_of_lookup hv) ht

/-! ## Templates -/

section Template

variable (hnames : ∀ name ∈ names, trim name = name) (hc : c.ReferWithin names)
  (hlists : ∀ f ∈ c, JoinsNoToken style f.2)

include hnames hc hlists

theorem refersWithin_text? (h : Template.text? style c key = some s) :
    NamedValue.RefersWithin names s := by
  obtain ⟨h, -⟩ := Option.filter_eq_some_iff.1 h
  obtain ⟨v, hv, hs⟩ := Option.bind_eq_some_iff.1 h
  have hmem := mem_of_lookup hv
  exact refersWithin_scalarText? hnames (hlists _ hmem) (hc _ hmem) hs

theorem refersWithin_attributes (keys : List String) :
    ∀ a ∈ Template.attributes style c keys, NamedValue.RefersWithin names a.2 := by
  intro a ha
  obtain ⟨key, -, hkey⟩ := List.mem_filterMap.1 ha
  obtain ⟨s, hs, rfl⟩ := Option.map_eq_some_iff.1 hkey
  exact refersWithin_text? hnames hc hlists hs

/-- What a template writes refers to what its configuration refers to, lists of values aside. -/
theorem holdsWithin_element (hvalues : t = .checkHeader → Template.texts style c "values" = []) :
    (t.element style c).node.HoldsWithin names := by
  have htext {key s : String} (h : Template.text? style c key = some s) :=
    refersWithin_text? hnames hc hlists h
  have hattributes (keys : List String) := refersWithin_attributes hnames hc hlists keys
  cases t with
  | checkHeader =>
    have hchildren : (Template.checkHeader.element style c).children = [] := by
      rw [Template.element, hvalues rfl]
      rfl
    rw [Element.node, hchildren]
    exact holdsWithin_of_texts (o := none) (hattributes _) (by simp)
  | setBody =>
    refine holdsWithin_of_texts (hattributes _) fun s hs => ?_
    rcases Option.or_eq_some_iff.1 hs with hs | ⟨-, hs⟩
    · exact htext hs
    · exact htext hs
  | setMethod => exact holdsWithin_of_texts (hattributes []) fun s hs => htext hs
  | trace =>
    refine holdsWithin_of_elements (hattributes _) fun n hn => ?_
    obtain ⟨s, hs, rfl⟩ := Option.map_eq_some_iff.1 (Option.mem_toList.1 hn)
    exact ⟨rfl, holdsWithin_of_texts (o := some s) (hattributes [])
      fun t ht => Option.some.inj ht ▸ htext hs⟩
  | logToEventhub => exact holdsWithin_of_texts (hattributes _) fun s hs => htext hs
  | choose => exact holdsWithin_of_texts (o := none) (hattributes []) (by simp)

end Template

theorem forall_templated? {P : Json → Prop} (h : ∀ f ∈ i.configuration, P f.2)
    (ht : i.templated? = some (t, c)) : ∀ f ∈ c, P f.2 := by
  obtain ⟨t', -, ht⟩ := Option.bind_eq_some_iff.1 ht
  split at ht
  · split at ht
    · obtain ⟨-, rfl⟩ := Prod.mk.inj (Option.some.inj ht)
      exact h
    · rename_i v hv
      obtain ⟨key, -, ht⟩ := Option.bind_eq_some_iff.1 ht
      split at ht
      · simp at ht
      · obtain ⟨-, rfl⟩ := Prod.mk.inj (Option.some.inj ht)
        exact Fields.forall_mem_set (fun f hf => h f (List.mem_filter.1 hf).1)
          (h _ (mem_of_lookup hv)) key
  · simp at ht

/-! ## The policy `send-request` -/

namespace SendRequest

variable {r : SendRequest} {x : SendRequestHeader}

theorem refersWithin_plainText? (h : v.RefersWithin names) (hs : plainText? v = some s) :
    NamedValue.RefersWithin names s := by
  cases v with
  | text t =>
    obtain rfl := Option.some.inj hs
    exact refersWithin_text.1 h
  | number x =>
    obtain rfl := Option.some.inj hs
    exact refersWithin_print x
  | bool b =>
    obtain rfl := Option.some.inj hs
    exact refersWithin_boolWord b
  | _ => simp [plainText?] at hs

theorem refersWithin_of_mem_object {fields : Fields} (h : (Json.object fields).RefersWithin names) :
    fields.ReferWithin names := by
  intro f hf name hname
  refine h name ?_
  rw [Json.namedValues, List.mem_append, mem_namedValuesOfFields]
  exact .inr ⟨f, hf, hname⟩

theorem headerRefersWithin_of_header? {fields : Fields} (h : fields.ReferWithin names)
    (hx : header? fields = some x) : HeaderRefersWithin names x := by
  obtain ⟨name, hname, rfl⟩ := Option.map_eq_some_iff.1 hx
  obtain ⟨v, hv, hname⟩ := Option.bind_eq_some_iff.1 hname
  refine ⟨refersWithin_plainText? (h _ (mem_of_lookup hv)) hname, ?_, fun t ht => ?_⟩
  · cases hvalue : fields.get? "value" with
    | none => simp [Json.RefersWithin, Json.namedValues]
    | some v => exact h _ (mem_of_lookup hvalue)
  · obtain ⟨v, hv, ht⟩ := Option.bind_eq_some_iff.1 ht
    rcases Option.or_eq_some_iff.1 hv with hv | ⟨-, hv⟩
    · exact refersWithin_plainText? (h _ (mem_of_lookup hv)) ht
    · exact refersWithin_plainText? (h _ (mem_of_lookup hv)) ht

theorem headerRefersWithin_of_mem_headersOf (h : v.RefersWithin names)
    (hkeys : ∀ fields : Fields, v = .object fields → ∀ f ∈ fields, isToken f.1 = false)
    (hx : x ∈ headersOf v) : HeaderRefersWithin names x := by
  cases v with
  | array items =>
    obtain ⟨v, hv, hheader⟩ := List.mem_filterMap.1 hx
    obtain ⟨fields, hfields, hheader⟩ := Option.bind_eq_some_iff.1 hheader
    have hv' : v = .object fields := by
      cases v with
      | object fields' => rw [Option.some.inj hfields]
      | _ => simp [Json.object?] at hfields
    refine headerRefersWithin_of_header? (refersWithin_of_mem_object fun name hname => h name ?_)
      hheader
    rw [Json.namedValues, mem_namedValuesOfItems]
    exact ⟨v, hv, hv' ▸ hname⟩
  | object fields =>
    obtain ⟨f, hf, rfl⟩ := List.mem_map.1 hx
    have hname := name?_of_isToken_eq_false (hkeys fields rfl f hf)
    exact ⟨refersWithin_of_name?_eq_none hname, refersWithin_of_mem_object h f hf, by simp⟩
  | _ => simp [headersOf] at hx

theorem refersWithin_ofConfiguration (hc : c.ReferWithin names)
    (hkeys : ∀ fields : Fields, c.get? "headers" = some (.object fields) →
      ∀ f ∈ fields, isToken f.1 = false) : RefersWithin names (ofConfiguration c) := by
  have hget {key : String} {v : Json} (h : c.get? key = some v) : v.RefersWithin names :=
    hc _ (mem_of_lookup h)
  have htext (key t : String) (h : (c.get? key).bind plainText? = some t) :
      NamedValue.RefersWithin names t := by
    obtain ⟨v, hv, ht⟩ := Option.bind_eq_some_iff.1 h
    exact refersWithin_plainText? (hget hv) ht
  refine ⟨htext "mode", htext "url", fun t ht => ?_, htext "method", fun x hx => ?_, htext "body",
    fun v hv => hget (Option.filter_eq_some_iff.1 hv).1, htext "responseVariableName"⟩
  · obtain ⟨v, hv, ht⟩ := Option.bind_eq_some_iff.1 ht
    unfold setUrl? at ht
    split at ht
    · simp at ht
    · obtain ⟨t', ht', heq⟩ := Option.map_eq_some_iff.1 ht
      obtain rfl := SetUrl.target.inj heq
      cases v with
      | text t =>
        obtain rfl := Option.some.inj ht'
        exact refersWithin_text.1 (hget hv)
      | _ => simp [Json.text?] at ht'
  · rw [ofConfiguration] at hx
    dsimp only at hx
    cases hv : c.get? "headers" with
    | none => simp [hv] at hx
    | some v =>
      rw [hv] at hx
      exact headerRefersWithin_of_mem_headersOf (hget hv) (fun fields h => hkeys fields (h ▸ hv)) hx

theorem refersWithin_attribute? {o : Option String}
    (h : ∀ t, o = some t → NamedValue.RefersWithin names t) (key : String) :
    ∀ a ∈ attribute? key o, NamedValue.RefersWithin names a.2 := by
  intro a ha
  obtain ⟨t, ht, rfl⟩ := Option.map_eq_some_iff.1 (Option.mem_toList.1 ha)
  exact h t ht

theorem holdsWithin_headerElement (hnames : ∀ name ∈ names, trim name = name)
    (h : HeaderRefersWithin names x) (hjoin : JoinsNoToken style x.value) :
    (headerElement style x).HoldsWithin names := by
  refine holdsWithin_of_texts (o := none) ?_ (by simp)
  simp only [List.forall_mem_append, List.forall_mem_singleton]
  exact ⟨⟨h.name, refersWithin_attribute? (fun t ht =>
    refersWithin_scalarText? hnames hjoin h.value ht) _⟩, refersWithin_attribute? h.existsAction _⟩

theorem RefersWithin.targets (h : RefersWithin names r) :
    (∀ t, r.targets.1 = some t → NamedValue.RefersWithin names t) ∧
      ∀ t, r.targets.2 = some t → NamedValue.RefersWithin names t := by
  unfold SendRequest.targets
  split
  · exact ⟨h.url, by simp⟩
  · rename_i t ht
    exact ⟨forall_eq_some (h.setUrl t ht), h.url⟩
  · exact ⟨by simp, h.url⟩

/-- The element of a record refers to what the record refers to. -/
theorem holdsWithin_toElement (hnames : ∀ name ∈ names, trim name = name)
    (h : RefersWithin names r)
    (htimeout : ∀ v, r.timeout = some v → JoinsNoToken settings.namedValueStyle v)
    (hheaders : ∀ x ∈ r.headers, JoinsNoToken settings.namedValueStyle x.value) :
    (r.toElement settings).node.HoldsWithin names := by
  have htextElement {o : Option String} (ho : ∀ t, o = some t → NamedValue.RefersWithin names t)
      (name : String) : ∀ n ∈ (o.map (textElement name)).toList,
        n.isCharacters = false ∧ n.HoldsWithin names := by
    intro n hn
    obtain ⟨t, ht, rfl⟩ := Option.map_eq_some_iff.1 (Option.mem_toList.1 hn)
    exact ⟨rfl, holdsWithin_of_texts (o := some t) (by simp) (forall_eq_some (ho t ht))⟩
  obtain ⟨htarget, hbase⟩ := h.targets
  refine holdsWithin_of_elements ?_ ?_
  · have hmode : NamedValue.RefersWithin names (r.mode.getD "new") := by
      cases hm : r.mode with
      | none => exact refersWithin_of_name?_eq_none (by decide)
      | some t => exact h.mode t hm
    have hwait : ∀ t, r.timeout.bind (scalarText? settings.namedValueStyle) = some t →
        NamedValue.RefersWithin names t := by
      intro t ht
      obtain ⟨v, hv, ht⟩ := Option.bind_eq_some_iff.1 ht
      exact refersWithin_scalarText? hnames (htimeout v hv) (h.timeout v hv) ht
    have hignore : ∀ t, r.ignoreErrors.map boolWord = some t → NamedValue.RefersWithin names t := by
      intro t ht
      obtain ⟨b, -, rfl⟩ := Option.map_eq_some_iff.1 ht
      exact refersWithin_boolWord b
    simp only [toElement, List.forall_mem_append, List.forall_mem_singleton]
    exact ⟨⟨⟨hmode, refersWithin_attribute? h.responseVariableName _⟩,
      refersWithin_attribute? hwait _⟩, refersWithin_attribute? hignore _⟩
  · simp only [toElement, List.forall_mem_append]
    refine ⟨⟨⟨⟨htextElement htarget _, htextElement h.method _⟩, ?_⟩, htextElement h.body _⟩, ?_⟩
    · split
      · simp
      · refine List.forall_mem_singleton.2 ⟨rfl, holdsWithin_of_elements (by simp) fun n hn => ?_⟩
        obtain ⟨x, hx, rfl⟩ := List.mem_map.1 hn
        exact ⟨rfl, holdsWithin_headerElement hnames (h.headers x hx) (hheaders x hx)⟩
    · intro n hn
      obtain ⟨base, hb, rfl⟩ := Option.map_eq_some_iff.1 (Option.mem_toList.1 hn)
      exact ⟨rfl, holdsWithin_of_texts (o := none) (List.forall_mem_singleton.2 (hbase base hb))
        (by simp)⟩

theorem name_ne_of_mem_childElements {c : Element} (hc : c ∈ (r.toElement settings).childElements) :
    c.name ≠ "set-header" := by
  obtain ⟨n, hn, heq⟩ := List.mem_filterMap.1 hc
  obtain ⟨c', rfl, -, hname⟩ := exists_element_of_mem_children hn
  rwa [← Option.some.inj heq]

end SendRequest

end GatewayPolicy
