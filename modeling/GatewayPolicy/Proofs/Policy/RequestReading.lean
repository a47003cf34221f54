import GatewayPolicy.Proofs.Scalar
import GatewayPolicy.Proofs.Xml.ElementText
import GatewayPolicy.Proofs.Xml.Serialization
import GatewayPolicy.SendRequest
/-!
# The `send-request` policy, read

An element is read attribute by attribute and child by child, and each step takes in one part or fails.
Whether all steps succeed is a matter of names and of the attributes that are needed, not of layout;
what each step keeps is what can be said of a record that was read.
-/

namespace GatewayPolicy.SendRequest

open Json Text Xml

variable {settings : Settings} {s s' : SendRequest} {p p' : Parts} {e e' c : Element} {n : Node}
  {ns : List Node} {a : String × String}

/-! ## Runs of steps that may fail -/

theorem exists_of_mem_mapM {α β : Type} {f : α → Option β} {as : List α} {bs : List β}
    (h : as.mapM f = some bs) : ∀ b ∈ bs, ∃ a ∈ as, f a = some b := by
  induction as generalizing bs with
  | nil =>
    obtain rfl : [] = bs := Option.some.inj h
    simp
  | cons a as ih =>
    rw [List.mapM_cons] at h
    obtain ⟨b, hb, h⟩ := Option.bind_eq_some_iff.1 h
    obtain ⟨bs', hbs, h⟩ := Option.bind_eq_some_iff.1 h
    obtain rfl : b :: bs' = bs := Option.some.inj h
    intro c hc
    rcases List.mem_cons.1 hc with rfl | hc
    · exact ⟨a, List.mem_cons_self, hb⟩
    · obtain ⟨a', ha', hfa'⟩ := ih hbs c hc
      exact ⟨a', List.mem_cons_of_mem a ha', hfa'⟩

theorem isSome_mapM_iff {α β : Type} {f : α → Option β} {as : List α} :
    (as.mapM f).isSome ↔ ∀ a ∈ as, (f a).isSome := by
  induction as with
  | nil => simp
  | cons a as ih =>
    rw [List.mapM_cons, List.forall_mem_cons, ← ih]
    cases f a with
    | none => simp
    | some b => cases as.mapM f <;> simp

/-- A property that each step keeps holds at the end. -/
theorem of_foldlM_eq_some {α σ : Type} {f : σ → α → Option σ} {P : σ → Prop} {as : List α} {s t : σ}
    (hstep : ∀ a ∈ as, ∀ s t, P s → f s a = some t → P t) (hs : P s) (h : as.foldlM f s = some t) :
    P t := by
  induction as generalizing s with
  | nil => rwa [← Option.some.inj h]
  | cons a as ih =>
    rw [List.foldlM_cons] at h
    obtain ⟨u, hu, h⟩ := Option.bind_eq_some_iff.1 h
    obtain ⟨hfirst, hrest⟩ := List.forall_mem_cons.1 hstep
    exact ih hrest (hfirst s u hs hu) h

/-- A run succeeds if no step fails, whatever the states are. -/
theorem isSome_foldlM_iff {α σ : Type} {f : σ → α → Option σ} {P : α → Prop}
    (hstep : ∀ s a, (f s a).isSome ↔ P a) (as : List α) (s : σ) :
    (as.foldlM f s).isSome ↔ ∀ a ∈ as, P a := by
  induction as generalizing s with
  | nil => simp
  | cons a as ih =>
    have ha := hstep s a
    rw [List.foldlM_cons, List.forall_mem_cons, ← ha]
    cases f s a with
    | none => simp
    | some t => simpa using ih t

/-! ## One step of reading -/

theorem truthValue?_text {t : String} {b : Bool} : truthValue? (.text t) = some b ↔ t = boolWord b := by
  unfold truthValue?
  by_cases htrue : t = "true"
  · subst htrue
    cases b <;> decide
  · by_cases hfalse : t = "false"
    · subst hfalse
      cases b <;> decide
    · have hne : t ≠ boolWord b := by cases b <;> assumption
      simp [htrue, hfalse, hne]

/-- The record takes the attribute in and becomes the other one. -/
inductive TakesAttribute (settings : Settings) (s : SendRequest) :
    String × String → SendRequest → Prop
  | mode (v : String) : TakesAttribute settings s ("mode", v) { s with mode := some v }
  | responseVariableName (v : String) :
    TakesAttribute settings s ("response-variable-name", v) { s with responseVariableName := some v }
  | timeout (v : String) : TakesAttribute settings s ("timeout", v)
      { s with timeout := some (coerce settings.coerceScalars v) }
  | ignoreErrors {v : String} {b : Bool} (hflag : truthValue? (.text v) = some b) :
    TakesAttribute settings s ("ignore-error", v) { s with ignoreErrors := some b }

theorem readAttribute?_eq_some_iff {a : String × String} :
    readAttribute? settings s a = some s' ↔ TakesAttribute settings s a s' := by
  obtain ⟨key, v⟩ := a
  constructor
  · intro h
    unfold readAttribute? at h
    dsimp only at h
    split at h
    · rename_i hkey
      obtain rfl := Option.some.inj h
      rw [hkey]
      exact .mode v
    · split at h
      · rename_i hkey
        obtain rfl := Option.some.inj h
        rw [hkey]
        exact .responseVariableName v
      · split at h
        · rename_i hkey
          obtain rfl := Option.some.inj h
          rw [hkey]
          exact .timeout v
        · split at h
          · rename_i hkey
            obtain ⟨b, hb, rfl⟩ := Option.map_eq_some_iff.1 h
            rw [hkey]
            exact .ignoreErrors hb
          · simp at h
  · intro h
    cases h with
    | mode => rfl
    | responseVariableName => rfl
    | timeout => rfl
    | ignoreErrors hflag => simp [readAttribute?, hflag]

/-- The parts take the child element in and become the other ones. -/
inductive TakesChild (p : Parts) (e : Element) : Parts → Prop
  | setUrl (hname : e.name = "set-url") :
    TakesChild p e { p with setUrl := some (e.trimmedText?.getD "") }
  | setMethod (hname : e.name = "set-method") :
    TakesChild p e { p with request := { p.request with method := e.trimmedText? } }
  | setBody (hname : e.name = "set-body") :
    TakesChild p e { p with request := { p.request with body := e.trimmedText? } }
  | setBackendService (hname : e.name = "set-backend-service") {base : String}
      (hbase : e.attribute? "base-url" = some base) : TakesChild p e { p with baseUrl := some base }
  | setHeaders (hname : e.name = "set-headers") {hs : List SendRequestHeader}
      (hread : e.childElements.mapM readHeader? = some hs) :
    TakesChild p e { p with request := { p.request with headers := p.request.headers ++ hs } }
  | setHeader (hname : e.name = "set-header") {h : SendRequestHeader}
      (hread : readSetHeader? e = some h) :
    TakesChild p e { p with request := { p.request with headers := p.request.headers ++ [h] } }

theorem readChild?_eq_some_iff : readChild? p e = some p' ↔ TakesChild p e p' := by
  constructor
  · intro h
    unfold readChild? at h
    split at h
    · obtain rfl := Option.some.inj h
      exact .setUrl ‹_›
    · split at h
      · obtain rfl := Option.some.inj h
        exact .setMethod ‹_›
      · split at h
        · obtain rfl := Option.some.inj h
          exact .setBody ‹_›
        · split at h
          · obtain ⟨base, hbase, rfl⟩ := Option.map_eq_some_iff.1 h
            exact .setBackendService ‹_› hbase
          · split at h
            · obtain ⟨hs, hread, rfl⟩ := Option.map_eq_some_iff.1 h
              exact .setHeaders ‹_› hread
            · split at h
              · obtain ⟨x, hread, rfl⟩ := Option.map_eq_some_iff.1 h
                exact .setHeader ‹_› hread
              · simp at h
  · intro h
    cases h with
    | setUrl hname => simp [readChild?, hname]
    | setMethod hname => simp [readChild?, hname]
    | setBody hname => simp [readChild?, hname]
    | setBackendService hname hbase => simp [readChild?, hname, hbase]
    | setHeaders hname hread => simp [readChild?, hname, hread]
    | setHeader hname hread => simp [readChild?, hname, hread]

theorem readNode?_of_element? (hn : n.element? = some c) (p : Parts) :
    readNode? p n = readChild? p c := by
  have hvisible : ¬ n.isBlank = true := by
    cases n with
    | element => exact Bool.false_ne_true
    | _ => simp [Node.element?] at hn
  rw [readNode?, if_neg hvisible, hn, Option.bind_some]

theorem ofElement?_eq (settings : Settings) (e : Element) :
    ofElement? settings e = (e.attributes.foldlM (readAttribute? settings) {}).bind fun request =>
      (e.children.foldlM readNode? { request }).map Parts.complete := by
  have hbind (o : Option Parts) : (o >>= fun parts => pure parts.complete) =
      o.map Parts.complete := by
    cases o <;> rfl
  rw [ofElement?]
  simp only [hbind]
  rfl

/-! ## Elements that are taken apart -/

/-- The record has a place for the attribute. -/
def IsRequestAttribute (a : String × String) : Prop :=
  a.1 ∈ ["mode", "response-variable-name", "timeout"] ∨
    a.1 = "ignore-error" ∧ ∃ b, a.2 = boolWord b

/-- The record has a place for the child element. -/
inductive HasPlace (c : Element) : Prop
  | text (hname : c.name ∈ ["set-url", "set-method", "set-body"])
  | backend (hname : c.name = "set-backend-service") (hbase : (c.attribute? "base-url").isSome)
  | headers (hname : c.name = "set-headers")
      (hheaders : ∀ h ∈ c.childElements, h.name = "header" ∧ (h.attribute? "name").isSome)
  | header (hname : c.name = "set-header") (hnamed : (c.attribute? "name").isSome)

/-- The record has a place for everything the element has at its first level. -/
structure IsRequest (e : Element) : Prop where
  attributes : ∀ a ∈ e.attributes, IsRequestAttribute a
  children : ∀ n ∈ e.children, n.isBlank = true ∨ ∃ c, n.element? = some c ∧ HasPlace c

theorem shape_of_name (hname : e.name = policyId) : shape e = .sendRequest := by
  have hbase : e.name ≠ "base" := by simp [hname, policyId]
  have hfragment : (e.name = "include-fragment" || e.name = "include") = false := by
    simp [hname, policyId]
  rw [shape, if_neg hbase, hfragment, if_neg Bool.false_ne_true, if_pos hname]

theorem isSome_readAttribute?_iff :
    (readAttribute? settings s a).isSome ↔ IsRequestAttribute a := by
  rw [Option.isSome_iff_exists]
  constructor
  · rintro ⟨s', h⟩
    cases readAttribute?_eq_some_iff.1 h with
    | mode => exact .inl (by simp)
    | responseVariableName => exact .inl (by simp)
    | timeout => exact .inl (by simp)
    | ignoreErrors hflag => exact .inr ⟨rfl, _, truthValue?_text.1 hflag⟩
  · obtain ⟨key, v⟩ := a
    rintro (hkey | ⟨hkey, b, hv⟩)
    · rcases (by simpa using hkey : key = _ ∨ key = _ ∨ key = _) with rfl | rfl | rfl
      · exact ⟨_, readAttribute?_eq_some_iff.2 (.mode v)⟩
      · exact ⟨_, readAttribute?_eq_some_iff.2 (.responseVariableName v)⟩
      · exact ⟨_, readAttribute?_eq_some_iff.2 (.timeout v)⟩
    · obtain rfl : key = "ignore-error" := hkey
      exact ⟨_, readAttribute?_eq_some_iff.2 (.ignoreErrors (truthValue?_text.2 hv))⟩

theorem isSome_readHeader?_iff :
    (readHeader? c).isSome ↔ c.name = "header" ∧ (c.attribute? "name").isSome := by
  unfold readHeader?
  by_cases hname : c.name = "header"
  · simp [hname]
  · simp [hname]

theorem isSome_readChild?_iff : (readChild? p c).isSome ↔ HasPlace c := by
  rw [Option.isSome_iff_exists]
  constructor
  · rintro ⟨p', h⟩
    cases readChild?_eq_some_iff.1 h with
    | setUrl hname => exact .text (by simp [hname])
    | setMethod hname => exact .text (by simp [hname])
    | setBody hname => exact .text (by simp [hname])
    | setBackendService hname hbase => exact .backend hname (by simp [hbase])
    | setHeaders hname hread =>
      refine .headers hname fun h hh => isSome_readHeader?_iff.1 ?_
      exact isSome_mapM_iff.1 (by simp [hread]) h hh
    | setHeader hname hread =>
      refine .header hname ?_
      obtain ⟨t, ht, -⟩ := Option.map_eq_some_iff.1 hread
      simp [ht]
  · intro h
    cases h with
    | text hname =>
      rcases (by simpa using hname : c.name = _ ∨ c.name = _ ∨ c.name = _) with h | h | h
      · exact ⟨_, readChild?_eq_some_iff.2 (.setUrl h)⟩
      · exact ⟨_, readChild?_eq_some_iff.2 (.setMethod h)⟩
      · exact ⟨_, readChild?_eq_some_iff.2 (.setBody h)⟩
    | backend hname hbase =>
      obtain ⟨base, hbase⟩ := Option.isSome_iff_exists.1 hbase
      exact ⟨_, readChild?_eq_some_iff.2 (.setBackendService hname hbase)⟩
    | headers hname hheaders =>
      have hsome : (c.childElements.mapM readHeader?).isSome :=
        isSome_mapM_iff.2 fun h hh => isSome_readHeader?_iff.2 (hheaders h hh)
      obtain ⟨hs, hread⟩ := Option.isSome_iff_exists.1 hsome
      exact ⟨_, readChild?_eq_some_iff.2 (.setHeaders hname hread)⟩
    | header hname hnamed =>
      have hsome : (readSetHeader? c).isSome := by
        rw [readSetHeader?, Option.isSome_map]
        exact hnamed
      obtain ⟨h, hread⟩ := Option.isSome_iff_exists.1 hsome
      exact ⟨_, readChild?_eq_some_iff.2 (.setHeader hname hread)⟩

theorem isSome_readNode?_iff :
    (readNode? p n).isSome ↔ n.isBlank = true ∨ ∃ c, n.element? = some c ∧ HasPlace c := by
  unfold readNode?
  by_cases hblank : n.isBlank = true
  · simp [hblank]
  · cases hn : n.element? with
    | none => simp [hblank]
    | some c => simp [hblank, isSome_readChild?_iff]

theorem isSome_ofElement?_iff : (ofElement? settings e).isSome ↔ IsRequest e := by
  have hattribute (s : SendRequest) (a : String × String) :
      (readAttribute? settings s a).isSome ↔ IsRequestAttribute a := isSome_readAttribute?_iff
  have hattributes := isSome_foldlM_iff hattribute e.attributes {}
  have hnode (p : Parts) (n : Node) : (readNode? p n).isSome ↔
      n.isBlank = true ∨ ∃ c, n.element? = some c ∧ HasPlace c := isSome_readNode?_iff
  have hchildren (request : SendRequest) := isSome_foldlM_iff hnode e.children { request }
  rw [ofElement?_eq]
  constructor
  · intro h
    obtain ⟨s, hs⟩ := Option.isSome_iff_exists.1 h
    obtain ⟨request, hrequest, hs⟩ := Option.bind_eq_some_iff.1 hs
    obtain ⟨parts, hparts, -⟩ := Option.map_eq_some_iff.1 hs
    exact ⟨hattributes.1 (by rw [hrequest]; rfl), (hchildren request).1 (by rw [hparts]; rfl)⟩
  · rintro ⟨ha, hc⟩
    obtain ⟨request, hrequest⟩ := Option.isSome_iff_exists.1 (hattributes.2 ha)
    rw [hrequest, Option.bind_some, Option.isSome_map]
    exact (hchildren request).2 hc

theorem ofElement?_eq_none_iff : ofElement? settings e = none ↔ ¬ IsRequest e := by
  have hsome : (ofElement? settings e).isSome ↔ IsRequest e := isSome_ofElement?_iff
  rw [← hsome, Option.not_isSome_iff_eq_none]

/-! ## Elements with one tidy form -/

theorem mapM_readHeader?_of_tidy_eq (h : e'.tidy = e.tidy) :
    e'.childElements.mapM readHeader? = e.childElements.mapM readHeader? := by
  have hchildren := congrArg Element.childElements h
  rw [childElements_tidy, childElements_tidy] at hchildren
  have htidy (es : List Element) : (es.map Element.tidy).mapM readHeader? = es.mapM readHeader? := by
    rw [List.mapM_map]
    rfl
  rw [← htidy, hchildren, htidy]

/-- A child element with one visible text at most is read like what it is read back as. Only
`set-header` reads the texts of elements further inside. -/
theorem readChild?_of_tidy_eq (h : e'.tidy = e.tidy)
    (hone : (visibleCharacters e.children).length ≤ 1) (hname : e.name ≠ "set-header") (p : Parts) :
    readChild? p e' = readChild? p e := by
  rw [readChild?, readChild?, name_eq_of_tidy_eq h, trimmedText?_eq_of_tidy_eq h hone,
    Element.attribute?, attributes_eq_of_tidy_eq h, ← Element.attribute?,
    mapM_readHeader?_of_tidy_eq h, if_neg hname, if_neg hname]

theorem HasPlace.of_tidy_eq (h : HasPlace e) (htidy : e'.tidy = e.tidy) : HasPlace e' := by
  have hname := name_eq_of_tidy_eq htidy
  have hattribute (key : String) : e'.attribute? key = e.attribute? key := by
    rw [Element.attribute?, attributes_eq_of_tidy_eq htidy, ← Element.attribute?]
  cases h with
  | text hmem => exact .text (hname ▸ hmem)
  | backend heq hbase => exact .backend (hname.trans heq) (by rwa [hattribute])
  | headers heq hheaders =>
    have hsome : (e.childElements.mapM readHeader?).isSome :=
      isSome_mapM_iff.2 fun x hx => isSome_readHeader?_iff.2 (hheaders x hx)
    rw [← mapM_readHeader?_of_tidy_eq htidy] at hsome
    exact .headers (hname.trans heq) fun x hx =>
      isSome_readHeader?_iff.1 (isSome_mapM_iff.1 hsome x hx)
  | header heq hnamed => exact .header (hname.trans heq) (by rwa [hattribute])

/-- Whether an element is taken apart does not depend on its layout. -/
theorem IsRequest.of_tidy_eq (h : IsRequest e) (htidy : e'.tidy = e.tidy) : IsRequest e' := by
  constructor
  · rw [attributes_eq_of_tidy_eq htidy]
    exact h.attributes
  · intro n hn
    by_cases hblank : n.isBlank = true
    · exact .inl hblank
    · obtain ⟨m, hm, hnm⟩ := exists_mem_of_tidyNodes_eq (tidyNodes_children_of_tidy_eq htidy) hn
        (by simpa using hblank)
      have hvisible : ¬ m.isBlank = true := by rwa [← isBlank_tidy, ← hnm, isBlank_tidy]
      obtain ⟨c, hc, hplace⟩ := (h.children m hm).resolve_left hvisible
      obtain rfl : m = c.node := by
        cases m with
        | element => rw [← Option.some.inj hc]; rfl
        | _ => simp [Node.element?] at hc
      obtain ⟨c', rfl, hc'⟩ := exists_element_of_tidy_eq hnm
      exact .inr ⟨c', rfl, hplace.of_tidy_eq hc'⟩

theorem foldlM_readNode?_visibleNodes (ns : List Node) (p : Parts) :
    (visibleNodes ns).foldlM readNode? p = ns.foldlM readNode? p := by
  induction ns generalizing p with
  | nil => rfl
  | cons n ns ih =>
    cases hb : n.isBlank with
    | true =>
      have hskip : readNode? p n = some p := by rw [readNode?, if_pos hb]
      rw [visibleNodes_cons_of_isBlank hb, List.foldlM_cons, hskip, ih]
      rfl
    | false =>
      rw [visibleNodes_cons hb, List.foldlM_cons, List.foldlM_cons]
      cases readNode? p n with
      | none => rfl
      | some q => exact ih q

/-! ## Records that were read -/

/-- What can be said of a record that was read from an element. -/
structure IsReadRecord (settings : Settings) (s : SendRequest) : Prop where
  /-- The method is the text of an element. -/
  method : ∀ t, s.method = some t → IsElementText t
  /-- The body is the text of an element. -/
  body : ∀ t, s.body = some t → IsElementText t
  /-- An address that is not the base address is trimmed. -/
  setUrl : ∀ t, s.setUrl = some (.target t) → trim t = t
  /-- The time to wait is an attribute. -/
  timeout : ∀ v, s.timeout = some v → ∃ t, v = coerce settings.coerceScalars t
  /-- The values of the headers are attributes. -/
  headers : ∀ h ∈ s.headers, ∃ o, h.value = headerValue? o

theorem isReadRecord_empty (settings : Settings) : IsReadRecord settings {} := by
  constructor <;> simp

theorem IsReadRecord.of_readAttribute? {a : String × String} (hs : IsReadRecord settings s)
    (h : readAttribute? settings s a = some s') : IsReadRecord settings s' := by
  obtain ⟨hmethod, hbody, hsetUrl, htimeout, hheaders⟩ := hs
  cases readAttribute?_eq_some_iff.1 h with
  | mode => exact ⟨hmethod, hbody, hsetUrl, htimeout, hheaders⟩
  | responseVariableName => exact ⟨hmethod, hbody, hsetUrl, htimeout, hheaders⟩
  | timeout v =>
    exact ⟨hmethod, hbody, hsetUrl, fun w hw => ⟨v, (Option.some.inj hw).symm⟩, hheaders⟩
  | ignoreErrors => exact ⟨hmethod, hbody, hsetUrl, htimeout, hheaders⟩

theorem exists_headerValue?_of_readHeader? {h : SendRequestHeader} (he : readHeader? e = some h) :
    ∃ o, h.value = headerValue? o := by
  unfold readHeader? at he
  split at he
  · obtain ⟨name, -, rfl⟩ := Option.map_eq_some_iff.1 he
    exact ⟨_, rfl⟩
  · simp at he

theorem exists_headerValue?_of_readSetHeader? {h : SendRequestHeader}
    (he : readSetHeader? e = some h) : ∃ o, h.value = headerValue? o := by
  obtain ⟨name, -, rfl⟩ := Option.map_eq_some_iff.1 he
  dsimp only
  split
  · exact ⟨none, rfl⟩
  · exact ⟨some _, rfl⟩

/-- What can be said of the parts of a record that are read from an element. -/
structure AreReadParts (settings : Settings) (p : Parts) : Prop where
  /-- The record. -/
  request : IsReadRecord settings p.request
  /-- The address is a text of an element, or none. -/
  setUrl : ∀ t, p.setUrl = some t → trim t = t

theorem AreReadParts.of_readChild? (hp : AreReadParts settings p) (h : readChild? p e = some p') :
    AreReadParts settings p' := by
  have htext : ∀ t, e.trimmedText? = some t → IsElementText t := fun t ht => trim_of_trimmedText? ht
  obtain ⟨hrequest, hsetUrl⟩ := hp
  obtain ⟨hmethod, hbody, htarget, htimeout, hheaders⟩ := hrequest
  cases readChild?_eq_some_iff.1 h with
  | setUrl hname =>
    refine ⟨⟨hmethod, hbody, htarget, htimeout, hheaders⟩, fun t ht => ?_⟩
    obtain rfl := Option.some.inj ht
    generalize e.trimmedText? = text at htext ⊢
    cases text with
    | none => decide
    | some t => exact (htext t rfl).1
  | setMethod hname =>
    generalize e.trimmedText? = text at htext ⊢
    exact ⟨⟨htext, hbody, htarget, htimeout, hheaders⟩, hsetUrl⟩
  | setBody hname =>
    generalize e.trimmedText? = text at htext ⊢
    exact ⟨⟨hmethod, htext, htarget, htimeout, hheaders⟩, hsetUrl⟩
  | setBackendService hname hbase =>
    exact ⟨⟨hmethod, hbody, htarget, htimeout, hheaders⟩, hsetUrl⟩
  | setHeaders hname hread =>
    refine ⟨⟨hmethod, hbody, htarget, htimeout, fun x hx => ?_⟩, hsetUrl⟩
    rcases List.mem_append.1 hx with hx | hx
    · exact hheaders x hx
    · obtain ⟨c, -, hc⟩ := exists_of_mem_mapM hread x hx
      exact exists_headerValue?_of_readHeader? hc
  | setHeader hname hread =>
    refine ⟨⟨hmethod, hbody, htarget, htimeout, fun x hx => ?_⟩, hsetUrl⟩
    rcases List.mem_append.1 hx with hx | hx
    · exact hheaders x hx
    · rw [List.mem_singleton.1 hx]
      exact exists_headerValue?_of_readSetHeader? hread

theorem AreReadParts.of_readNode? {n : Node} (hp : AreReadParts settings p)
    (h : readNode? p n = some p') : AreReadParts settings p' := by
  unfold readNode? at h
  split at h
  · rwa [← Option.some.inj h]
  · obtain ⟨e, -, he⟩ := Option.bind_eq_some_iff.1 h
    exact hp.of_readChild? he

theorem AreReadParts.complete (hp : AreReadParts settings p) :
    IsReadRecord settings p.complete := by
  obtain ⟨⟨hmethod, hbody, htarget, htimeout, hheaders⟩, hsetUrl⟩ := hp
  unfold Parts.complete
  split
  · rename_i t ht
    split
    · refine ⟨hmethod, hbody, fun t' ht' => ?_, htimeout, hheaders⟩
      obtain rfl := SetUrl.target.inj (Option.some.inj ht')
      exact hsetUrl t ht
    · exact ⟨hmethod, hbody, by simp, htimeout, hheaders⟩
  · exact ⟨hmethod, hbody, htarget, htimeout, hheaders⟩

theorem isReadRecord_of_ofElement? (h : ofElement? settings e = some s) :
    IsReadRecord settings s := by
  rw [ofElement?_eq] at h
  obtain ⟨request, hrequest, h⟩ := Option.bind_eq_some_iff.1 h
  obtain ⟨p, hp, rfl⟩ := Option.map_eq_some_iff.1 h
  have hread : IsReadRecord settings request :=
    of_foldlM_eq_some (fun _ _ _ _ => IsReadRecord.of_readAttribute?) (isReadRecord_empty settings)
      hrequest
  have hparts : AreReadParts settings { request } := ⟨hread, by simp⟩
  exact (of_foldlM_eq_some (fun _ _ _ _ => AreReadParts.of_readNode?) hparts hp).complete

end GatewayPolicy.SendRequest
