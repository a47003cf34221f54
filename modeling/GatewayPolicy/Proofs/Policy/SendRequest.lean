import GatewayPolicy.Proofs.Bindings
import GatewayPolicy.Proofs.Policy.NamedValue
import GatewayPolicy.Proofs.Policy.RequestReading
/-!
# The `send-request` policy, laws

The record of the policy goes two ways: through its configuration and through its element. Both ways
keep what the record says, up to the two forms of the address, so an element that was written from a
configuration is read back as one that is written alike.
-/

namespace GatewayPolicy.SendRequest

open Json Text Xml

variable {settings : Settings} {style : NamedValueStyle} {s s' : SendRequest} {p p' : Parts}
  {e e' : Element} {ns ms : List Node}

/-! ## Through the configuration -/

theorem get?_field? (k : String) (v : Option Json) (key : String) :
    Fields.get? (field? k v) key = if key = k then v else none := by
  cases v with
  | none => simp [field?, Fields.get?]
  | some v =>
    by_cases h : key = k
    · rw [if_pos h, field?, Fields.get?, lookup_cons_of_eq h]
    · rw [if_neg h, field?, Fields.get?, lookup_cons_of_ne h]
      rfl

theorem get?_append (fs gs : Fields) (key : String) :
    Fields.get? (fs ++ gs) key = (Fields.get? fs key).or (Fields.get? gs key) :=
  List.lookup_append

theorem header?_headerToJson (h : SendRequestHeader) :
    ((fun v => v.object?.bind header?) ∘ headerToJson) h = some h := by
  obtain ⟨name, value, existsAction⟩ := h
  cases existsAction <;> rfl

theorem headersOf_map_headerToJson (hs : List SendRequestHeader) :
    headersOf (.array (hs.map headerToJson)) = hs := by
  rw [headersOf, List.filterMap_map]
  induction hs with
  | nil => rfl
  | cons h hs ih => rw [List.filterMap_cons_some (header?_headerToJson h), ih]

/-- The address as the configuration is understood: the word for a truth value is the truth value. -/
def configuredSetUrl : SetUrl → SetUrl
  | .flag b => .flag b
  | .target t =>
    match truthValue? (.text t) with
    | some b => .flag b
    | none => .target t

theorem configuredSetUrl_target_boolWord (b : Bool) :
    configuredSetUrl (.target (boolWord b)) = .flag b := by
  rw [configuredSetUrl, truthValue?_text.2 rfl]

theorem configuredSetUrl_of_ne {t : String} (hne : ∀ b, t ≠ boolWord b) :
    configuredSetUrl (.target t) = .target t := by
  cases htruth : truthValue? (.text t) with
  | none => rw [configuredSetUrl, htruth]
  | some b => exact absurd (truthValue?_text.1 htruth) (hne b)

theorem setUrl?_setUrlToJson (u : SetUrl) :
    setUrl? (setUrlToJson u) = some (configuredSetUrl u) := by
  cases u with
  | flag b => rfl
  | target t =>
    rw [setUrlToJson, setUrl?, configuredSetUrl]
    cases truthValue? (.text t) with
    | none => rfl
    | some b => rfl

theorem eq_target_of_configuredSetUrl {u : SetUrl} {t : String}
    (h : configuredSetUrl u = .target t) : u = .target t := by
  cases u with
  | flag b => simp [configuredSetUrl] at h
  | target t' =>
    by_cases hword : ∃ b, t' = boolWord b
    · obtain ⟨b, rfl⟩ := hword
      rw [configuredSetUrl_target_boolWord] at h
      simp at h
    · rwa [configuredSetUrl_of_ne (not_exists.1 hword)] at h

/-- The record is what its configuration says: a text that is the word for a truth value is not the
address of the request, and a value that is `null` is not there. -/
structure IsPlainRecord (s : SendRequest) : Prop where
  /-- The address. -/
  setUrl : ∀ u, s.setUrl = some u → setUrl? (setUrlToJson u) = some u
  /-- How long to wait. -/
  timeout : ∀ v, s.timeout = some v → v.isNull = false

/-- Reading what a configuration says of the address a second time changes nothing. -/
theorem setUrl?_setUrlToJson_of_setUrl? {v : Json} {u : SetUrl} (h : setUrl? v = some u) :
    setUrl? (setUrlToJson u) = some u := by
  unfold setUrl? at h
  cases hv : truthValue? v with
  | some b =>
    rw [hv] at h
    obtain rfl := Option.some.inj h
    rfl
  | none =>
    rw [hv] at h
    obtain ⟨t, ht, rfl⟩ := Option.map_eq_some_iff.1 h
    cases v with
    | text t' =>
      obtain rfl : t' = t := Option.some.inj ht
      rw [setUrlToJson, setUrl?, hv]
      rfl
    | _ => simp [Json.text?] at ht

theorem isPlainRecord_ofConfiguration (c : Fields) : IsPlainRecord (ofConfiguration c) := by
  constructor
  · intro u hu
    obtain ⟨v, -, hv⟩ := Option.bind_eq_some_iff.1 hu
    exact setUrl?_setUrlToJson_of_setUrl? hv
  · intro v hv
    simpa using (Option.filter_eq_some_iff.1 hv).2

theorem ofConfiguration_toConfiguration (s : SendRequest) :
    ofConfiguration s.toConfiguration =
      { s with
        setUrl := s.setUrl.map configuredSetUrl
        timeout := s.timeout.filter (!·.isNull) } := by
  have htext (o : Option String) : (o.map Json.text).bind plainText? = o := by
    cases o <;> rfl
  have hbool (o : Option Bool) : (o.map Json.bool).bind truthValue? = o := by
    cases o <;> rfl
  have hheaders : ((if s.headers.isEmpty then none
      else some (Json.array (s.headers.map headerToJson))).map headersOf).getD [] = s.headers := by
    split
    · rename_i hempty
      simpa using hempty
    · rw [Option.map_some, headersOf_map_headerToJson, Option.getD_some]
  have hsetUrl (o : Option SetUrl) :
      (o.map setUrlToJson).bind setUrl? = o.map configuredSetUrl := by
    cases o with
    | none => rfl
    | some u => exact setUrl?_setUrlToJson u
  rw [ofConfiguration]
  simp only [toConfiguration, get?_append, get?_field?, String.reduceEq, if_false, if_true,
    Option.or_none, Option.none_or, htext, hbool, hsetUrl, hheaders]

/-- A plain record is read back from its configuration. -/
theorem IsPlainRecord.ofConfiguration_toConfiguration (h : IsPlainRecord s) :
    ofConfiguration s.toConfiguration = s := by
  have hsetUrl : s.setUrl.map configuredSetUrl = s.setUrl := by
    cases hu : s.setUrl with
    | none => rfl
    | some u => exact (setUrl?_setUrlToJson u).symm.trans (h.setUrl u hu)
  have htimeout : s.timeout.filter (!·.isNull) = s.timeout := by
    cases hv : s.timeout with
    | none => rfl
    | some v => rw [Option.filter_some, if_pos (by simp [h.timeout v hv])]
  rw [SendRequest.ofConfiguration_toConfiguration, hsetUrl, htimeout]

/-! ## Records that are written -/

theorem headerValue?_scalarText? (style : NamedValueStyle) (o : Option String) :
    headerValue? (scalarText? style (headerValue? o)) = headerValue? o := by
  cases o with
  | none => rfl
  | some t =>
    rw [headerValue?, headerValue]
    cases ht : NamedValue.name? t with
    | none => rw [scalarText?, headerValue?, headerValue, ht]
    | some name =>
      have htoken := NamedValue.name?_token style (NamedValue.isTokenName_of_name? ht)
      have hname : referenceName? [("name", .text name)] = some name := rfl
      rw [scalarText?, hname]
      dsimp only
      rw [headerValue?, headerValue, htoken]

theorem readHeader?_headerElement {h : SendRequestHeader} (hvalue : ∃ o, h.value = headerValue? o)
    (style : NamedValueStyle) :
    ((headerElement style h).element?.bind readHeader?) = some h := by
  obtain ⟨name, value, existsAction⟩ := h
  obtain ⟨o, rfl⟩ : ∃ o, value = headerValue? o := hvalue
  have hread := headerValue?_scalarText? style o
  rw [headerElement, Node.element?, Option.bind_some, readHeader?, if_pos rfl]
  dsimp only
  generalize scalarText? style (headerValue? o) = t at hread ⊢
  have hname : Element.attribute? ⟨"header", [("name", name)] ++ attribute? "value" t ++
      attribute? "exists-action" existsAction, []⟩ "name" = some name := rfl
  have hvalue : Element.attribute? ⟨"header", [("name", name)] ++ attribute? "value" t ++
      attribute? "exists-action" existsAction, []⟩ "value" = t := by
    cases t <;> cases existsAction <;> rfl
  have haction : Element.attribute? ⟨"header", [("name", name)] ++ attribute? "value" t ++
      attribute? "exists-action" existsAction, []⟩ "exists-action" = existsAction := by
    cases t <;> cases existsAction <;> rfl
  rw [hname, hvalue, haction, Option.map_some, hread]

theorem mapM_readHeader?_headerElement {hs : List SendRequestHeader}
    (h : ∀ x ∈ hs, ∃ o, x.value = headerValue? o) (style : NamedValueStyle) :
    ((hs.map (headerElement style)).filterMap Node.element?).mapM readHeader? = some hs := by
  induction hs with
  | nil => rfl
  | cons x hs ih =>
    obtain ⟨hx, hs⟩ := List.forall_mem_cons.1 h
    obtain ⟨c, hc, hread⟩ := Option.bind_eq_some_iff.1 (readHeader?_headerElement hx style)
    rw [List.map_cons, List.filterMap_cons_some hc, List.mapM_cons, hread, ih hs]
    rfl

/-- The values that are written as attributes are such as attributes are read as. -/
structure HasAttributeValues (settings : Settings) (s : SendRequest) : Prop where
  /-- How long to wait. -/
  timeout : ∀ v, s.timeout = some v → ∃ t, v = coerce settings.coerceScalars t
  /-- The values of the headers. -/
  headers : ∀ h ∈ s.headers, ∃ o, h.value = headerValue? o

theorem IsReadRecord.hasAttributeValues (h : IsReadRecord settings s) :
    HasAttributeValues settings s :=
  ⟨h.timeout, h.headers⟩

theorem foldlM_attributes (hs : HasAttributeValues settings s) :
    (s.toElement settings).attributes.foldlM (readAttribute? settings) {} =
      some { mode := some (s.mode.getD "new"), responseVariableName := s.responseVariableName
             timeout := s.timeout, ignoreErrors := s.ignoreErrors } := by
  have htimeout : ∀ v, s.timeout = some v → ∃ t,
      scalarText? settings.namedValueStyle v = some t ∧ v = coerce settings.coerceScalars t := by
    intro v hv
    obtain ⟨t, rfl⟩ := hs.timeout v hv
    exact ⟨t, scalarText?_coerce _ _ t, rfl⟩
  have hflag (b : Bool) : truthValue? (.text (boolWord b)) = some b := by cases b <;> rfl
  rw [toElement]
  dsimp only
  rw [List.append_assoc, List.append_assoc, List.singleton_append]
  generalize s.responseVariableName = name
  generalize s.ignoreErrors = ignore
  generalize s.timeout = timeout at htimeout ⊢
  cases timeout with
  | none => cases name <;> cases ignore <;> simp [attribute?, readAttribute?, hflag]
  | some v =>
    obtain ⟨t, ht, rfl⟩ := htimeout v rfl
    rw [Option.bind_some, ht]
    cases name <;> cases ignore <;> simp [attribute?, readAttribute?, hflag]

/-- The children of a written element are elements with one text at most, and no `set-header`. -/
theorem exists_element_of_mem_children {n : Node} (hn : n ∈ (s.toElement settings).children) :
    ∃ c : Element, n = c.node ∧ (visibleCharacters c.children).length ≤ 1 ∧
      c.name ≠ "set-header" := by
  have htext (name t : String) (hname : name ≠ "set-header") : ∃ c : Element,
      textElement name t = c.node ∧ (visibleCharacters c.children).length ≤ 1 ∧
        c.name ≠ "set-header" :=
    ⟨⟨name, [], [.text t]⟩, rfl, length_visibleCharacters_le _, hname⟩
  rw [toElement] at hn
  simp only [List.mem_append, Option.mem_toList, Option.map_eq_some_iff] at hn
  rcases hn with (((⟨t, -, rfl⟩ | ⟨t, -, rfl⟩) | hn) | ⟨t, -, rfl⟩) | ⟨base, -, rfl⟩
  · exact htext "set-url" t (by decide)
  · exact htext "set-method" t (by decide)
  · split at hn
    · simp at hn
    · rw [List.mem_singleton] at hn
      refine ⟨⟨"set-headers", [], s.headers.map (headerElement settings.namedValueStyle)⟩, hn, ?_,
        by simp⟩
      have hnone : visibleCharacters (s.headers.map (headerElement settings.namedValueStyle)) = [] := by
        refine visibleCharacters_eq_nil fun m hm => ?_
        obtain ⟨h, -, rfl⟩ := List.mem_map.1 hm
        rfl
      rw [hnone]
      exact Nat.zero_le 1
  · exact htext "set-body" t (by decide)
  · exact ⟨⟨"set-backend-service", [("base-url", base)], []⟩, rfl, length_visibleCharacters_le _ |>.trans
      (Nat.zero_le 1), by simp⟩

theorem foldlM_readNode?_congr
    (h : List.Forall₂ (fun m n => ∀ p, readNode? p m = readNode? p n) ms ns) (p : Parts) :
    ms.foldlM readNode? p = ns.foldlM readNode? p := by
  induction h generalizing p with
  | nil => rfl
  | @cons m n ms ns hmn _ ih =>
    rw [List.foldlM_cons, List.foldlM_cons, hmn p]
    cases readNode? p n with
    | none => rfl
    | some q => exact ih q

/-- What has the tidy form of a written element is read like the written element. -/
theorem ofElement?_of_tidy_eq (h : e.tidy = (s.toElement settings).tidy) :
    ofElement? settings e = ofElement? settings (s.toElement settings) := by
  have hall := forall₂_visibleNodes (tidyNodes_children_of_tidy_eq h.symm)
  have hgood : ∀ n ∈ visibleNodes (s.toElement settings).children, ∃ c : Element, n = c.node ∧
      (visibleCharacters c.children).length ≤ 1 ∧ c.name ≠ "set-header" :=
    fun n hn => exists_element_of_mem_children (List.mem_filter.1 hn).1
  have hread : List.Forall₂ (fun n m => ∀ p, readNode? p n = readNode? p m)
      (visibleNodes (s.toElement settings).children) (visibleNodes e.children) := by
    refine List.Forall₂.imp (fun n m hnm p => ?_) ((List.forall₂_and_left _ _).2 ⟨hgood, hall⟩)
    obtain ⟨⟨c, rfl, hone, hname⟩, htidy⟩ := hnm
    obtain ⟨c', rfl, htidy'⟩ := exists_element_of_tidy_eq htidy.symm
    exact (readChild?_of_tidy_eq htidy' hone hname p).symm
  have hnodes (p : Parts) : e.children.foldlM readNode? p =
      (s.toElement settings).children.foldlM readNode? p := by
    rw [← foldlM_readNode?_visibleNodes e.children,
      ← foldlM_readNode?_visibleNodes (s.toElement settings).children,
      foldlM_readNode?_congr hread p]
  rw [ofElement?_eq, ofElement?_eq, attributes_eq_of_tidy_eq h]
  simp only [hnodes]

/-- The text of the element `set-url` is the address, even if it is empty. -/
theorem foldlM_setUrl (o : Option String) (p : Parts) :
    ((o.map (textElement "set-url")).toList).foldlM readNode? p =
      some { p with setUrl := (o.map trim).or p.setUrl } := by
  cases o with
  | none => rfl
  | some t =>
    have htext : (Element.trimmedText? ⟨"set-url", [], [.text t]⟩).getD "" = trim t := by
      rw [trimmedText?_of_children_text (s := t) rfl]
      by_cases ht : trim t = ""
      · rw [ht]
        rfl
      · rw [Option.filter_some, if_pos (by simpa using ht), Option.getD_some]
    have hread : readNode? p (textElement "set-url" t) =
        some { p with setUrl := some (trim t) } := by
      rw [← htext]
      rfl
    rw [Option.map_some, Option.toList_some, List.foldlM_cons, hread]
    rfl

/-- What is read of a text that is written between the tags of an element. -/
def visibleText? (t : String) : Option String := (some (trim t)).filter (!·.isEmpty)

theorem visibleText?_of_isElementText {t : String} (h : IsElementText t) :
    visibleText? t = some t := by
  obtain ⟨htrim, hne⟩ := h
  rw [visibleText?, htrim, Option.filter_some, if_pos (by simpa using hne)]

theorem bind_visibleText? {o : Option String} (h : ∀ t, o = some t → IsElementText t) :
    o.bind visibleText? = o := by
  cases o with
  | none => rfl
  | some t => rw [Option.bind_some, visibleText?_of_isElementText (h t rfl)]

/-- An element that holds a text, for a part `f` that takes the text of the element. -/
theorem foldlM_textElement {name : String} {f : Option String → Parts}
    (hread : ∀ e : Element, e.name = name → readChild? p e = some (f e.trimmedText?))
    (hnone : f none = p) (o : Option String) :
    ((o.map (textElement name)).toList).foldlM readNode? p = some (f (o.bind visibleText?)) := by
  cases o with
  | none => exact congrArg some hnone.symm
  | some t =>
    have htext : Element.trimmedText? ⟨name, [], [.text t]⟩ = visibleText? t :=
      trimmedText?_of_children_text rfl
    have hstep : readNode? p (textElement name t) = some (f (visibleText? t)) := by
      rw [← htext]
      exact hread ⟨name, [], [.text t]⟩ rfl
    rw [Option.map_some, Option.toList_some, List.foldlM_cons, hstep]
    rfl

theorem foldlM_setMethod (o : Option String) (hp : p.request.method = none) :
    ((o.map (textElement "set-method")).toList).foldlM readNode? p =
      some { p with request := { p.request with method := o.bind visibleText? } } := by
  refine foldlM_textElement (f := fun t => { p with request := { p.request with method := t } })
    (fun e hname => ?_) ?_ o
  · simp [readChild?, hname]
  · rw [← hp]

theorem foldlM_setBody (o : Option String) (hp : p.request.body = none) :
    ((o.map (textElement "set-body")).toList).foldlM readNode? p =
      some { p with request := { p.request with body := o.bind visibleText? } } := by
  refine foldlM_textElement (f := fun t => { p with request := { p.request with body := t } })
    (fun e hname => ?_) ?_ o
  · simp [readChild?, hname]
  · rw [← hp]

theorem foldlM_setHeaders {hs : List SendRequestHeader}
    (h : ∀ x ∈ hs, ∃ o, x.value = headerValue? o) (style : NamedValueStyle) (p : Parts) :
    (if hs.isEmpty then [] else [Node.element "set-headers" [] (hs.map (headerElement style))]).foldlM
        readNode? p =
      some { p with request := { p.request with headers := p.request.headers ++ hs } } := by
  split
  · rename_i hempty
    rw [List.isEmpty_iff.1 hempty, List.append_nil]
    rfl
  · have hread : readNode? p (.element "set-headers" [] (hs.map (headerElement style))) =
        (some hs).map fun hs =>
          { p with request := { p.request with headers := p.request.headers ++ hs } } := by
      rw [← mapM_readHeader?_headerElement h style]
      rfl
    rw [List.foldlM_cons, hread]
    rfl

theorem foldlM_setBackendService (o : Option String) (p : Parts) :
    ((o.map fun base => Node.element "set-backend-service" [("base-url", base)] []).toList).foldlM
        readNode? p =
      some { p with baseUrl := o.or p.baseUrl } := by
  cases o <;> rfl

theorem foldlM_children (hs : HasAttributeValues settings s) {r : SendRequest}
    (hmethod : r.method = none) (hbody : r.body = none) :
    (s.toElement settings).children.foldlM readNode? { request := r } =
      some
        { request :=
            { r with
              method := s.method.bind visibleText?
              headers := r.headers ++ s.headers
              body := s.body.bind visibleText? }
          setUrl := s.targets.1.map trim
          baseUrl := s.targets.2 } := by
  rw [toElement]
  dsimp only
  rw [List.foldlM_append, List.foldlM_append, List.foldlM_append, List.foldlM_append, foldlM_setUrl]
  simp only [Option.bind_eq_bind, Option.bind_some]
  rw [foldlM_setMethod s.method hmethod, Option.bind_some, foldlM_setHeaders hs.headers,
    Option.bind_some, foldlM_setBody s.body hbody, Option.bind_some, foldlM_setBackendService]
  simp

/-- The record that is read of a written element. -/
def reread (s : SendRequest) : SendRequest :=
  Parts.complete
    { request := { s with mode := some (s.mode.getD "new"), url := none, setUrl := none }
      setUrl := s.targets.1.map trim
      baseUrl := s.targets.2 }

/-- The record with the texts that are read between the tags of its method and its body. -/
def withVisibleTexts (s : SendRequest) : SendRequest :=
  { s with method := s.method.bind visibleText?, body := s.body.bind visibleText? }

/-- A written element is read as its record, whose texts are trimmed. -/
theorem ofElement?_toElement_of_hasAttributeValues (hs : HasAttributeValues settings s) :
    ofElement? settings (s.toElement settings) = some s.withVisibleTexts.reread := by
  rw [ofElement?_eq, foldlM_attributes hs, Option.bind_some, foldlM_children hs rfl rfl,
    Option.map_some, List.nil_append]
  rfl

theorem ofElement?_toElement (hs : IsReadRecord settings s) :
    ofElement? settings (s.toElement settings) = some s.reread := by
  rw [ofElement?_toElement_of_hasAttributeValues hs.hasAttributeValues, withVisibleTexts,
    bind_visibleText? hs.method, bind_visibleText? hs.body]

/-! ## Written, read and written again -/

theorem targets_reread (s : SendRequest) :
    s.reread.targets = (s.targets.1.map trim, s.targets.2) := by
  rw [reread]
  obtain ⟨target, base⟩ := s.targets
  cases target with
  | none => rfl
  | some t => cases base <;> rfl

theorem tidyNodes_map_textElement (name : String) (o : Option String) :
    tidyNodes ((o.map trim).map (textElement name)).toList =
      tidyNodes (o.map (textElement name)).toList := by
  cases o with
  | none => rfl
  | some t =>
    have hblank : (Node.text (trim t)).isBlank = (Node.text t).isBlank := isBlank_tidy (.text t)
    have hchildren : tidyNodes [.text (trim t)] = tidyNodes [.text t] := by
      simp only [tidyNodes, hblank, Node.tidy, trim_trim]
    have hnode : (textElement name (trim t)).tidy = (textElement name t).tidy := by
      rw [textElement, textElement, Node.tidy, Node.tidy, hchildren]
    exact congrArg (fun n => [n]) hnode

/-- Of a written element everything but the address is read back. -/
theorem fields_reread (s : SendRequest) :
    s.reread.mode = some (s.mode.getD "new") ∧
      s.reread.responseVariableName = s.responseVariableName ∧ s.reread.timeout = s.timeout ∧
      s.reread.ignoreErrors = s.ignoreErrors ∧ s.reread.method = s.method ∧
      s.reread.headers = s.headers ∧ s.reread.body = s.body := by
  rw [reread]
  obtain ⟨target, base⟩ := s.targets
  cases target with
  | none => exact ⟨rfl, rfl, rfl, rfl, rfl, rfl, rfl⟩
  | some t => cases base <;> exact ⟨rfl, rfl, rfl, rfl, rfl, rfl, rfl⟩

/-- What is read of a written element is written alike. -/
theorem tidy_toElement_reread (s : SendRequest) (settings : Settings) :
    (s.reread.toElement settings).tidy = (s.toElement settings).tidy := by
  obtain ⟨hmode, hname, htimeout, hignore, hmethod, hheaders, hbody⟩ := fields_reread s
  rw [toElement, toElement, Element.tidy, Element.tidy, targets_reread, hmode, hname, htimeout,
    hignore, hmethod, hheaders, hbody]
  dsimp only
  simp only [tidyNodes_append, tidyNodes_map_textElement, Option.getD_some]

theorem IsPlainRecord.reread (h : IsPlainRecord s) (hs : IsReadRecord settings s) :
    IsPlainRecord s.reread := by
  have htimeout : s.reread.timeout = s.timeout := (fields_reread s).2.2.1
  refine ⟨fun u hu => ?_, fun v hv => h.timeout v (htimeout ▸ hv)⟩
  rw [SendRequest.reread, targets] at hu
  -- Only an address beside a base address is kept as a text.
  cases hsetUrl : s.setUrl with
  | none =>
    rw [hsetUrl] at hu
    simp [Parts.complete] at hu
  | some v =>
    rw [hsetUrl] at hu
    cases v with
    | flag b =>
      cases b with
      | false => simp [Parts.complete] at hu
      | true =>
        cases hurl : s.url with
        | none => simp [Parts.complete, hurl] at hu
        | some t =>
          rw [hurl] at hu
          obtain rfl := Option.some.inj hu
          rfl
    | target t =>
      cases hurl : s.url with
      | none =>
        rw [hurl] at hu
        obtain rfl := Option.some.inj hu
        rfl
      | some base =>
        rw [hurl] at hu
        obtain rfl := Option.some.inj hu
        rw [hs.setUrl t hsetUrl]
        exact h.setUrl _ hsetUrl

theorem IsReadRecord.ofConfiguration_toConfiguration (hs : IsReadRecord settings s) :
    IsReadRecord settings (ofConfiguration s.toConfiguration) := by
  rw [SendRequest.ofConfiguration_toConfiguration]
  refine ⟨hs.method, hs.body, fun t ht => ?_, fun v hv => ?_, hs.headers⟩
  · obtain ⟨u, hu, ht⟩ := Option.map_eq_some_iff.1 ht
    exact hs.setUrl t (hu.trans (congrArg some (eq_target_of_configuredSetUrl ht)))
  · exact hs.timeout v (Option.filter_eq_some_iff.1 hv).1

/-- A policy that is written from its configuration is read back as one that is written alike. -/
theorem exists_ofElement?_of_tidy_eq (h : ofElement? settings e = some s)
    (htidy : e'.tidy = ((ofConfiguration s.toConfiguration).toElement settings).tidy) :
    ∃ s', ofElement? settings e' = some s' ∧
      ((ofConfiguration s'.toConfiguration).toElement settings).tidy =
        ((ofConfiguration s.toConfiguration).toElement settings).tidy := by
  have hread := (isReadRecord_of_ofElement? h).ofConfiguration_toConfiguration
  have hplain := isPlainRecord_ofConfiguration s.toConfiguration
  generalize ofConfiguration s.toConfiguration = r at hread hplain htidy ⊢
  refine ⟨r.reread, ?_, ?_⟩
  · rw [ofElement?_of_tidy_eq htidy, ofElement?_toElement hread]
  · rw [(hplain.reread hread).ofConfiguration_toConfiguration, tidy_toElement_reread]

end GatewayPolicy.SendRequest
