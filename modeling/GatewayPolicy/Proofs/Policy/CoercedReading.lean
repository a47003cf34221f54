import GatewayPolicy.Proofs.Bindings
import GatewayPolicy.Proofs.Policy.Document
import GatewayPolicy.Proofs.Policy.RequestReading
import Mathlib.Data.List.Forall2
/-!
# Documents, read with coercion and without

The reader may take attributes for numbers and truth values or leave them texts. The model that it
makes is the same either way, save that a value may be the text that was there or what the text was
taken for: one model refines the other, value by value.
-/

namespace GatewayPolicy

open Json Text Xml

variable {settings : Settings} {v v' : Json} {c c' fs fs' : Fields} {key id : String} {order : Int}
  {e : Element} {m : Model}

/-! ## Refinement -/

/-- The value is the other one, or what the other one may be taken for. -/
inductive Json.Refines : Json → Json → Prop where
  /-- The values are the same. -/
  | refl (v : Json) : Json.Refines v v
  /-- The other value is a text. -/
  | coercion {s : String} {v : Json} (h : IsCoercion s v) : Json.Refines v (.text s)

/-- The fields have the same keys, and their values refine the others. -/
def Json.Fields.Refines (c c' : Fields) : Prop :=
  List.Forall₂ (fun a b => a.1 = b.1 ∧ a.2.Refines b.2) c c'

/-- The items are the same but for values of the configuration. -/
inductive Item.Refines : Item → Item → Prop where
  /-- A policy has a configuration. -/
  | catalog (i : CatalogItem) {c : Fields} (h : i.configuration.Refines c) :
    Item.Refines (.catalog i) (.catalog { i with configuration := c })
  /-- The items are the same. -/
  | refl (i : Item) : Item.Refines i i

/-- The items of the sections refine one another, one by one. -/
structure Section.Refines (s s' : Section) : Prop where
  /-- They agree on the enclosing scope. -/
  includeBase : s.includeBase = s'.includeBase
  /-- They have as many items. -/
  items : List.Forall₂ Item.Refines s.items s'.items

/-- The models are the same but for values of configurations. -/
structure Model.Refines (m m' : Model) : Prop where
  /-- They apply at the same level. -/
  scope : m.scope = m'.scope
  /-- They apply to the same API. -/
  apiId : m.apiId = m'.apiId
  /-- They apply to the same operation. -/
  operationId : m.operationId = m'.operationId
  /-- They have the same sections. -/
  sections : ∀ kind, Option.Rel Section.Refines (m.sections.get? kind) (m'.sections.get? kind)

/-- The settings, with attributes left texts. -/
def Settings.uncoerced (settings : Settings) : Settings := { settings with coerceScalars := false }

/-! ## Configurations -/

theorem refines_coerce (settings : Settings) (s : String) :
    (coerce settings.coerceScalars s).Refines (coerce settings.uncoerced.coerceScalars s) :=
  .coercion (isCoercion_coerce settings.coerceScalars s)

namespace Json.Fields

theorem Refines.refl (c : Fields) : c.Refines c :=
  List.forall₂_same.2 fun _ _ => ⟨rfl, .refl _⟩

theorem Refines.append (h : c.Refines c') (hfs : fs.Refines fs') :
    Fields.Refines (c ++ fs) (c' ++ fs') :=
  List.rel_append h hfs

theorem Refines.contains_eq (h : c.Refines c') (key : String) :
    c.contains key = c'.contains key := by
  unfold contains
  induction h with
  | nil => rfl
  | cons hab _ ih => rw [List.any_cons, List.any_cons, hab.1, ih]

theorem Refines.get? (h : c.Refines c') (key : String) :
    Option.Rel Json.Refines (c.get? key) (c'.get? key) := by
  unfold Fields.get?
  induction h with
  | nil => exact .none
  | @cons a b as bs hab _ ih =>
    obtain ⟨k, v⟩ := a
    obtain ⟨k', v'⟩ := b
    obtain ⟨rfl, hv⟩ := hab
    by_cases hkey : key = k
    · rw [lookup_cons_of_eq hkey, lookup_cons_of_eq hkey]
      exact .some hv
    · rw [lookup_cons_of_ne hkey, lookup_cons_of_ne hkey]
      exact ih

theorem Refines.set (h : c.Refines c') (hv : v.Refines v') (key : String) :
    (c.set key v).Refines (c'.set key v') := by
  induction h with
  | nil => exact .cons ⟨rfl, hv⟩ .nil
  | @cons a b as bs hab hrest ih =>
    obtain ⟨k, w⟩ := a
    obtain ⟨k', w'⟩ := b
    obtain ⟨rfl, hw⟩ := hab
    unfold Fields.set
    split
    · exact .cons ⟨rfl, hv⟩ hrest
    · exact .cons ⟨rfl, hw⟩ ih

theorem Refines.foldl_set (h : c.Refines c') (hfs : fs.Refines fs') :
    (fs.foldl (fun acc (k, v) => acc.set k v) c).Refines
      (fs'.foldl (fun acc (k, v) => acc.set k v) c') := by
  induction hfs generalizing c c' with
  | nil => exact h
  | @cons a b as bs hab _ ih =>
    obtain ⟨k, w⟩ := a
    obtain ⟨k', w'⟩ := b
    obtain ⟨rfl, hw⟩ := hab
    exact ih (h.set hw k)

end Json.Fields

theorem refines_parameterAttributes (settings : Settings) (attributes : Attributes) :
    (parameterAttributes settings attributes).Refines
      (parameterAttributes settings.uncoerced attributes) := by
  refine Fields.Refines.foldl_set (.refl []) ?_
  refine List.forall₂_map_left_iff.2 (List.forall₂_map_right_iff.2 (List.forall₂_same.2 ?_))
  exact fun a _ => ⟨rfl, refines_coerce settings a.2⟩

theorem refines_simpleConfiguration (settings : Settings) (e : Element) :
    (simpleConfiguration settings e).Refines (simpleConfiguration settings.uncoerced e) := by
  have hnamed := (refines_parameterAttributes settings e.attributes).foldl_set
    (.refl (leafFields e))
  unfold simpleConfiguration
  generalize (leafFields e).foldl _ (parameterAttributes settings e.attributes) = named,
    (leafFields e).foldl _ (parameterAttributes settings.uncoerced e.attributes) = named' at hnamed
  -- The text of the element goes under the same key, as the keys before it are the same.
  have hkey : textKeyFor e.name named = textKeyFor e.name named' := by
    unfold textKeyFor
    split
    · rw [hnamed.contains_eq]
    · rfl
  cases e.trimmedText? with
  | none => exact hnamed
  | some t =>
    dsimp only
    rw [hkey]
    exact hnamed.set (.refl _) _

/-! ## Requests -/

/-- Runs whose steps keep a relation keep it, and fail together. -/
theorem rel_foldlM {α σ τ : Type} {f : σ → α → Option σ} {g : τ → α → Option τ}
    {R : σ → τ → Prop} {as : List α} {s : σ} {t : τ}
    (hstep : ∀ a ∈ as, ∀ s t, R s t → Option.Rel R (f s a) (g t a)) (h : R s t) :
    Option.Rel R (as.foldlM f s) (as.foldlM g t) := by
  induction as generalizing s t with
  | nil => exact .some h
  | cons a as ih =>
    obtain ⟨ha, has⟩ := List.forall_mem_cons.1 hstep
    have hfirst := ha s t h
    rw [List.foldlM_cons, List.foldlM_cons]
    generalize f s a = s?, g t a = t? at hfirst
    cases hfirst with
    | none => exact .none
    | some hnext => exact ih has hnext

namespace SendRequest

/-- The records are the same but for the time to wait. -/
structure Refines (s s' : SendRequest) : Prop where
  /-- They start from the same request. -/
  mode : s.mode = s'.mode
  /-- They have the same address. -/
  url : s.url = s'.url
  /-- They use it alike. -/
  setUrl : s.setUrl = s'.setUrl
  /-- They have the same method. -/
  method : s.method = s'.method
  /-- They have the same headers. -/
  headers : s.headers = s'.headers
  /-- They have the same body. -/
  body : s.body = s'.body
  /-- The time to wait is read from an attribute. -/
  timeout : Option.Rel Json.Refines s.timeout s'.timeout
  /-- They treat failures alike. -/
  ignoreErrors : s.ignoreErrors = s'.ignoreErrors
  /-- They assign the same variable. -/
  responseVariableName : s.responseVariableName = s'.responseVariableName

/-- What has been read is the same but for the time to wait. -/
structure Parts.Refines (p p' : Parts) : Prop where
  /-- The records so far. -/
  request : p.request.Refines p'.request
  /-- They have the same address of the request. -/
  setUrl : p.setUrl = p'.setUrl
  /-- They have the same base address. -/
  baseUrl : p.baseUrl = p'.baseUrl

variable {s s' : SendRequest} {p p' : Parts}

theorem rel_readAttribute? (h : s.Refines s') (a : String × String) :
    Option.Rel SendRequest.Refines (readAttribute? settings s a)
      (readAttribute? settings.uncoerced s' a) := by
  unfold readAttribute?
  split
  · exact .some { h with mode := rfl }
  split
  · exact .some { h with responseVariableName := rfl }
  split
  · exact .some { h with timeout := .some (refines_coerce settings a.2) }
  split
  · cases truthValue? (.text a.2) with
    | none => exact .none
    | some b => exact .some { h with ignoreErrors := rfl }
  · exact .none

theorem Refines.withMethod (h : s.Refines s') (method : Option String) :
    SendRequest.Refines { s with method } { s' with method } :=
  { h with method := rfl }

theorem Refines.withBody (h : s.Refines s') (body : Option String) :
    SendRequest.Refines { s with body } { s' with body } :=
  { h with body := rfl }

theorem Refines.withHeaders (h : s.Refines s') (hs : List SendRequestHeader) :
    SendRequest.Refines { s with headers := s.headers ++ hs }
      { s' with headers := s'.headers ++ hs } :=
  { h with headers := congrArg (· ++ hs) h.headers }

theorem rel_readChild? (h : p.Refines p') (e : Element) :
    Option.Rel Parts.Refines (readChild? p e) (readChild? p' e) := by
  unfold readChild?
  split
  · exact .some { h with setUrl := rfl }
  split
  · exact .some ⟨h.request.withMethod e.trimmedText?, h.setUrl, h.baseUrl⟩
  split
  · exact .some ⟨h.request.withBody e.trimmedText?, h.setUrl, h.baseUrl⟩
  split
  · cases e.attribute? "base-url" with
    | none => exact .none
    | some base => exact .some { h with baseUrl := rfl }
  split
  · cases e.childElements.mapM readHeader? with
    | none => exact .none
    | some hs => exact .some ⟨h.request.withHeaders hs, h.setUrl, h.baseUrl⟩
  split
  · cases readSetHeader? e with
    | none => exact .none
    | some header => exact .some ⟨h.request.withHeaders [header], h.setUrl, h.baseUrl⟩
  · exact .none

theorem rel_readNode? (h : p.Refines p') (n : Node) :
    Option.Rel Parts.Refines (readNode? p n) (readNode? p' n) := by
  unfold readNode?
  split
  · exact .some h
  · cases n.element? with
    | none => exact .none
    | some e => exact rel_readChild? h e

theorem Parts.Refines.complete (h : p.Refines p') : p.complete.Refines p'.complete := by
  unfold Parts.complete
  rw [← h.setUrl, ← h.baseUrl]
  split
  · split
    · exact { h.request with setUrl := rfl, url := rfl }
    · exact { h.request with setUrl := rfl, url := rfl }
  · exact { h.request with url := rfl }

theorem rel_ofElement? (settings : Settings) (e : Element) :
    Option.Rel SendRequest.Refines (ofElement? settings e) (ofElement? settings.uncoerced e) := by
  have hrequest : Option.Rel SendRequest.Refines (e.attributes.foldlM (readAttribute? settings) {})
      (e.attributes.foldlM (readAttribute? settings.uncoerced) {}) :=
    rel_foldlM (fun a _ _ _ h => rel_readAttribute? h a)
      ⟨rfl, rfl, rfl, rfl, rfl, rfl, .none, rfl, rfl⟩
  rw [ofElement?_eq, ofElement?_eq]
  generalize e.attributes.foldlM (readAttribute? settings) {} = r,
    e.attributes.foldlM (readAttribute? settings.uncoerced) {} = r' at hrequest
  cases hrequest with
  | none => exact .none
  | @some request request' h =>
    have hparts : Option.Rel Parts.Refines (e.children.foldlM readNode? { request := request })
        (e.children.foldlM readNode? { request := request' }) :=
      rel_foldlM (fun n _ _ _ h => rel_readNode? h n) ⟨h, rfl, rfl⟩
    rw [Option.bind_some, Option.bind_some]
    generalize e.children.foldlM readNode? { request := request } = p,
      e.children.foldlM readNode? { request := request' } = p' at hparts
    cases hparts with
    | none => exact .none
    | some h => exact .some h.complete

theorem refines_field? {v v' : Option Json} (h : Option.Rel Json.Refines v v') (key : String) :
    (field? key v).Refines (field? key v') := by
  cases h with
  | none => exact .nil
  | some h => exact .cons ⟨rfl, h⟩ .nil

theorem Refines.toConfiguration (h : s.Refines s') :
    s.toConfiguration.Refines s'.toConfiguration := by
  unfold SendRequest.toConfiguration
  rw [← h.mode, ← h.url, ← h.setUrl, ← h.method, ← h.headers, ← h.body, ← h.ignoreErrors,
    ← h.responseVariableName]
  have htimeout := refines_field? h.timeout "timeout"
  exact (((Fields.Refines.refl _).append htimeout).append (.refl _)).append (.refl _)

end SendRequest

/-! ## Items and sections -/

theorem refines_simpleItem (settings : Settings) (id : String) (order : Int) (e : Element) :
    (simpleItem settings id order e).Refines (simpleItem settings.uncoerced id order e) := by
  have hconfiguration := refines_simpleConfiguration settings e
  unfold simpleItem
  generalize simpleConfiguration settings e = c, simpleConfiguration settings.uncoerced e = c'
    at hconfiguration
  exact .catalog _ hconfiguration

theorem rel_elementItem? (settings : Settings) (id : String) (order : Int) (e : Element) :
    Option.Rel Item.Refines (elementItem? settings id order e)
      (elementItem? settings.uncoerced id order e) := by
  unfold elementItem?
  cases shape e with
  | base => exact .none
  | fragment => exact .some (.refl _)
  | sendRequest =>
    have hrequest := SendRequest.rel_ofElement? settings e
    generalize SendRequest.ofElement? settings e = r,
      SendRequest.ofElement? settings.uncoerced e = r' at hrequest
    cases hrequest with
    | none => exact .some (.refl _)
    | some h => exact .some (.catalog _ h.toConfiguration)
  | simple => exact .some (refines_simpleItem settings id order e)
  | complex => exact .some (.refl _)

theorem rel_nodeItem? (settings : Settings) (id : String) (order : Int) (n : Node) :
    Option.Rel Item.Refines (nodeItem? settings id order n)
      (nodeItem? settings.uncoerced id order n) := by
  have hrefl (i? : Option Item) : Option.Rel Item.Refines i? i? := by
    cases i? with
    | none => exact .none
    | some i => exact .some (.refl i)
  cases n with
  | element name attributes children => exact rel_elementItem? settings id order _
  | comment => exact hrefl _
  | text => exact hrefl _
  | cdata => exact hrefl _

theorem forall₂_refines_sectionItems (settings : Settings) (kind : SectionKind) (start : Nat)
    (ns : List Node) :
    List.Forall₂ Item.Refines (sectionItems settings kind start ns)
      (sectionItems settings.uncoerced kind start ns) := by
  induction ns generalizing start with
  | nil => exact .nil
  | cons n ns ih =>
    have hn := rel_nodeItem? settings (itemId kind start) start n
    unfold sectionItems
    generalize nodeItem? settings (itemId kind start) start n = i?,
      nodeItem? settings.uncoerced (itemId kind start) start n = i?' at hn
    cases hn with
    | none => exact ih start
    | some hi => exact .cons hi (ih (start + 1))

/-- A document is read with coercion and without, or not at all. -/
theorem exists_refines_ofXml {document : String} (h : Model.ofXml settings document = .ok m) :
    ∃ m', Model.ofXml settings.uncoerced document = .ok m' ∧ m.Refines m' := by
  obtain ⟨root, hparse, hname, rfl⟩ := exists_root_of_ofXml h
  refine ⟨Model.ofRoot settings.uncoerced root, ?_, rfl, rfl, rfl, fun kind => ?_⟩
  · rw [Model.ofXml, hparse]
    exact if_pos hname
  · rw [get?_ofRoot, get?_ofRoot]
    cases root.childElements.find? (·.name == kind.elementName) with
    | none => exact .none
    | some e => exact .some ⟨rfl, forall₂_refines_sectionItems settings kind 0 e.children⟩

end GatewayPolicy
