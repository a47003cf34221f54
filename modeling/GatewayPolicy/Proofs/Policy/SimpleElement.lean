import GatewayPolicy.Proofs.Catalog.Templates
import GatewayPolicy.Proofs.Policy.Generic
import GatewayPolicy.Proofs.Scalar
import GatewayPolicy.Proofs.Xml.ElementText
/-!
# Simple elements as catalog items

What the configuration of a simple element binds: its literal attributes, its leaves, and its text,
which is either the parameter that the policy carries as text or kept under the text key. From that
follows when the item is written by a template.
-/

namespace GatewayPolicy

open Json Text Xml

variable {e child : Element} {settings : Settings} {key t : String}

/-! ## Simple elements -/

/-- An element that is simple, taken apart. -/
structure IsSimple (e : Element) : Prop where
  /-- It is not the mark for the enclosing scope. -/
  ne_base : e.name ≠ "base"
  /-- It is no reference to a fragment. -/
  ne_fragment : e.name ≠ "include-fragment" ∧ e.name ≠ "include"
  /-- It is no `send-request` policy. -/
  ne_sendRequest : e.name ≠ SendRequest.policyId
  /-- It has no structure. -/
  unstructured : isStructured (leafParameters e.name) [] e.children = false

theorem shape_eq_simple_iff : shape e = .simple ↔ IsSimple e := by
  unfold shape
  constructor
  · intro h
    split at h
    · simp at h
    · split at h
      · split at h <;> simp at h
      · split at h
        · simp at h
        · split at h
          · simp at h
          · rename_i hbase hfragment hsend hstructured
            refine ⟨hbase, ?_, hsend, by simpa using hstructured⟩
            simpa using hfragment
  · rintro ⟨hbase, hfragment, hsend, hstructured⟩
    rw [if_neg hbase, if_neg (by simp [hfragment]), if_neg hsend, if_neg (by simp [hstructured])]

theorem IsSimple.shape_eq (h : IsSimple e) : shape e = .simple := shape_eq_simple_iff.2 h

/-- The child elements of nodes without structure are leaves, one for each name. -/
theorem leaves_of_isStructured {leaves seen : List String} {ns : List Node}
    (h : isStructured leaves seen ns = false) :
    (∀ c ∈ ns.filterMap Node.element?, isLeaf leaves c = true ∧ c.name ∉ seen) ∧
      ((ns.filterMap Node.element?).map Element.name).Nodup := by
  induction ns generalizing seen with
  | nil => simp
  | cons n ns ih =>
    cases n with
    | element name attributes children =>
      rw [isStructured] at h
      split at h
      · rename_i hleaf
        rw [Bool.and_eq_true] at hleaf
        obtain ⟨hall, hdistinct⟩ := ih h
        simp only [List.filterMap_cons, Node.element?, List.forall_mem_cons, List.map_cons]
        refine ⟨⟨⟨hleaf.1, by simpa using hleaf.2⟩, ?_⟩, List.nodup_cons.2 ⟨?_, hdistinct⟩⟩
        · intro c hc
          exact ⟨(hall c hc).1, fun hm => (hall c hc).2 (List.mem_cons_of_mem _ hm)⟩
        · intro hm
          obtain ⟨c, hc, heq⟩ := List.mem_map.1 hm
          exact (hall c hc).2 (heq ▸ List.mem_cons_self)
      · simp at h
    | text s =>
      rw [isStructured] at h
      exact ih h
    | cdata s => simp [isStructured] at h
    | comment s => simp [isStructured] at h

/-- A leaf of a simple element: only `trace` has one, its message. -/
theorem IsSimple.leaf (h : IsSimple e) (hc : child ∈ e.childElements) :
    e.name = "trace" ∧ child.name = "message" ∧ child.attributes = [] ∧
      child.children.all Node.isText = true := by
  have hleaf := ((leaves_of_isStructured h.unstructured).1 child hc).1
  rw [isLeaf, Bool.and_eq_true, Bool.and_eq_true] at hleaf
  obtain ⟨⟨hname, hattributes⟩, htexts⟩ := hleaf
  unfold leafParameters at hname
  split at hname
  · rename_i htrace
    exact ⟨htrace, by simpa using hname, by simpa using hattributes, htexts⟩
  · simp at hname

/-- A simple element has one leaf at most. -/
theorem IsSimple.childElements (h : IsSimple e) :
    e.childElements = [] ∨ ∃ child, e.childElements = [child] := by
  have hdistinct := (leaves_of_isStructured h.unstructured).2
  match hc : e.childElements with
  | [] => exact .inl rfl
  | [c] => exact .inr ⟨c, rfl⟩
  | c :: d :: rest =>
    have hcname := (h.leaf (show c ∈ e.childElements by simp [hc])).2.1
    have hdname := (h.leaf (show d ∈ e.childElements by simp [hc])).2.1
    rw [← Element.childElements, hc, List.map_cons, List.map_cons, hcname, hdname] at hdistinct
    simp at hdistinct

/-! ## The configuration -/

theorem textParameter?_ne_textKey {policyId : String} : textParameter? policyId ≠ some textKey := by
  intro h
  have hm := mem_of_lookup h
  simp [textKey] at hm

/-- The catalog item of a simple element. -/
def simpleCatalogItem (settings : Settings) (id : String) (order : Int) (e : Element) :
    CatalogItem where
  id := id
  order := order
  policyId := e.name
  configuration := simpleConfiguration settings e
  attributes := referenceAttributes e.attributes

theorem simpleItem_eq (settings : Settings) (id : String) (order : Int) (e : Element) :
    simpleItem settings id order e = .catalog (simpleCatalogItem settings id order e) := rfl

@[simp] theorem policyId_simpleCatalogItem (settings : Settings) (id : String) (order : Int)
    (e : Element) : (simpleCatalogItem settings id order e).policyId = e.name := rfl

@[simp] theorem configuration_simpleCatalogItem (settings : Settings) (id : String) (order : Int)
    (e : Element) :
    (simpleCatalogItem settings id order e).configuration = simpleConfiguration settings e := by
  rw [simpleCatalogItem]

@[simp] theorem attributes_simpleCatalogItem (settings : Settings) (id : String) (order : Int)
    (e : Element) :
    (simpleCatalogItem settings id order e).attributes = referenceAttributes e.attributes := by
  rw [simpleCatalogItem]

/-- The text of a literal attribute. -/
def literal? (e : Element) (key : String) : Option String :=
  (e.attribute? key).filter fun v => !NamedValue.isToken v

/-- The text of the first leaf with the name. -/
def leafText? (e : Element) (key : String) : Option String :=
  (e.childElements.find? (·.name == key)).bind Element.trimmedText?

/-- The key under which the text of a simple element is kept: the parameter that the policy carries
as text, unless a literal attribute has taken it. -/
def textKeyOf (e : Element) : String :=
  match textParameter? e.name with
  | some key => if (literal? e key).isSome then textKey else key
  | none => textKey

theorem parameterAttributes_eq (settings : Settings) {attributes : Attributes}
    (h : (attributes.map Prod.fst).Nodup) :
    parameterAttributes settings attributes =
      (attributes.filter fun a => !NamedValue.isToken a.2).map fun a =>
        (a.1, coerce settings.coerceScalars a.2) := by
  rw [parameterAttributes, Fields.merge_of_nodup]
  rw [List.map_map]
  exact h.sublist (keys_filter_sublist _ attributes)

theorem get?_parameterAttributes (settings : Settings)
    (h : (e.attributes.map Prod.fst).Nodup) (key : String) :
    (parameterAttributes settings e.attributes).get? key =
      (literal? e key).map (coerce settings.coerceScalars) := by
  have hfilter : ∀ l : Attributes, (l.map Prod.fst).Nodup →
      (l.filter fun a => !NamedValue.isToken a.2).lookup key =
        (l.lookup key).filter fun v => !NamedValue.isToken v := by
    intro l hl
    have heq : (l.filter fun a => !NamedValue.isToken a.2) =
        l.filterMap fun a => (Option.guard (fun v => !NamedValue.isToken v) a.2).map (a.1, ·) := by
      rw [← List.filterMap_eq_filter]
      refine List.filterMap_congr fun a _ => ?_
      by_cases ha : NamedValue.isToken a.2 = true
      · simp [Option.guard, ha]
      · simp [Option.guard, ha]
    rw [heq, lookup_filterMap hl (fun _ v => Option.guard (fun v => !NamedValue.isToken v) v)]
    cases l.lookup key with
    | none => rfl
    | some v => simp [Option.guard, Option.filter]
  rw [parameterAttributes_eq settings h, Fields.get?,
    lookup_map (fun _ v => coerce settings.coerceScalars v), hfilter _ h]
  rfl

theorem get?_leafFields (h : IsSimple e) (key : String) :
    (leafFields e).get? key = (leafText? e key).map .text := by
  unfold leafFields leafText?
  rcases h.childElements with hc | ⟨child, hc⟩
  · rw [hc]
    rfl
  · rw [hc, List.find?_singleton]
    by_cases hkey : child.name = key
    · rw [if_pos (by simpa using hkey), Option.bind_some]
      cases ht : child.trimmedText? with
      | none => simp [ht, Fields.get?]
      | some t => simp [ht, Fields.get?, hkey]
    · rw [if_neg (by simpa using hkey), Option.bind_none]
      cases ht : child.trimmedText? with
      | none => simp [ht, Fields.get?]
      | some t => simp [ht, Fields.get?, lookup_cons_of_ne (Ne.symm hkey)]

theorem nodup_keys_leafFields (h : IsSimple e) : ((leafFields e).map Prod.fst).Nodup := by
  unfold leafFields
  rcases h.childElements with hc | ⟨child, hc⟩
  · simp [hc]
  · cases ht : child.trimmedText? with
    | none => simp [hc, ht]
    | some t => simp [hc, ht]

/-- The configuration without the text of the element. -/
def namedFields (settings : Settings) (e : Element) : Fields :=
  (leafFields e).foldl (fun acc (k, v) => Fields.set acc k v)
    (parameterAttributes settings e.attributes)

theorem get?_namedFields (settings : Settings) (h : IsSimple e)
    (hwf : AreWellFormed e.attributes) (key : String) :
    (namedFields settings e).get? key =
      ((leafText? e key).map Json.text).or
        ((literal? e key).map (coerce settings.coerceScalars)) := by
  rw [namedFields, Fields.get?_foldl_set (nodup_keys_leafFields h), get?_leafFields h,
    get?_parameterAttributes settings hwf.distinct]

/-- A policy that carries a parameter as text has no leaves. -/
theorem leafText?_of_textParameter? (h : IsSimple e) {p : String}
    (hp : textParameter? e.name = some p) (key : String) : leafText? e key = none := by
  unfold leafText?
  rcases h.childElements with hc | ⟨child, hc⟩
  · rw [hc]
    rfl
  · have htrace := (h.leaf (show child ∈ e.childElements by simp [hc])).1
    have hnone : textParameter? "trace" = none := by decide
    rw [htrace, hnone] at hp
    simp at hp

theorem textKeyFor_namedFields (settings : Settings) (h : IsSimple e)
    (hwf : AreWellFormed e.attributes) :
    textKeyFor e.name (namedFields settings e) = textKeyOf e := by
  unfold textKeyFor textKeyOf
  cases hp : textParameter? e.name with
  | none => rfl
  | some p =>
    have hget := get?_namedFields settings h hwf p
    rw [leafText?_of_textParameter? h hp, Option.map_none, Option.none_or] at hget
    dsimp only
    cases hl : literal? e p with
    | none =>
      rw [hl, Option.map_none, Fields.get?_eq_none_iff] at hget
      rw [if_neg (by simp [hget]), if_neg (by simp)]
    | some v =>
      have hcontains : (namedFields settings e).contains p = true := by
        cases hb : (namedFields settings e).contains p with
        | true => rfl
        | false =>
          rw [Fields.get?_eq_none_iff.2 hb, hl] at hget
          simp at hget
      rw [if_pos hcontains, if_pos Option.isSome_some]

theorem simpleConfiguration_of_no_text (settings : Settings) (ht : e.trimmedText? = none) :
    simpleConfiguration settings e = namedFields settings e := by
  rw [simpleConfiguration, ht, namedFields]

theorem simpleConfiguration_of_text (settings : Settings) (h : IsSimple e)
    (hwf : AreWellFormed e.attributes) (ht : e.trimmedText? = some t) :
    simpleConfiguration settings e = (namedFields settings e).set (textKeyOf e) (.text t) := by
  rw [← textKeyFor_namedFields settings h hwf, simpleConfiguration, ht, namedFields]

theorem get?_simpleConfiguration (settings : Settings) (h : IsSimple e)
    (hwf : AreWellFormed e.attributes) (key : String) :
    (simpleConfiguration settings e).get? key =
      (((e.trimmedText?.filter fun _ => key = textKeyOf e)).map Json.text).or
        (((leafText? e key).map Json.text).or
          ((literal? e key).map (coerce settings.coerceScalars))) := by
  cases ht : e.trimmedText? with
  | none =>
    rw [simpleConfiguration_of_no_text settings ht, get?_namedFields settings h hwf]
    rfl
  | some t =>
    rw [simpleConfiguration_of_text settings h hwf ht, Fields.get?_set,
      get?_namedFields settings h hwf]
    by_cases hk : key = textKeyOf e
    · rw [if_pos hk]
      simp [Option.filter, hk]
    · rw [if_neg hk]
      simp [Option.filter, hk]

/-- No attribute has the text key as its name, since a name does not start with a number sign. -/
theorem literal?_textKey (hwf : AreWellFormed e.attributes) : literal? e textKey = none := by
  have hnone : e.attribute? textKey = none := by
    rw [Element.attribute?, lookup_eq_none_iff]
    intro hm
    obtain ⟨a, ha, hkey⟩ := List.mem_map.1 hm
    have hname := hwf.names a ha
    rw [hkey] at hname
    exact absurd hname (by decide)
  rw [literal?, hnone]
  rfl

theorem leafText?_textKey (h : IsSimple e) : leafText? e textKey = none := by
  unfold leafText?
  rcases h.childElements with hc | ⟨child, hc⟩
  · rw [hc]
    rfl
  · have hname := (h.leaf (show child ∈ e.childElements by simp [hc])).2.1
    rw [hc, List.find?_singleton, if_neg (by rw [hname]; decide)]
    rfl

/-- The text under the text key. -/
theorem get?_textKey (settings : Settings) (h : IsSimple e) (hwf : AreWellFormed e.attributes) :
    (simpleConfiguration settings e).get? textKey =
      (e.trimmedText?.filter fun _ => textKeyOf e = textKey).map Json.text := by
  rw [get?_simpleConfiguration settings h hwf, leafText?_textKey h, literal?_textKey hwf]
  simp only [Option.map_none, Option.or_none, eq_comm (a := textKey)]

/-- A text is kept under the text key only if a literal attribute has taken the parameter. -/
theorem contains_of_textKeyOf (settings : Settings) (h : IsSimple e)
    (hwf : AreWellFormed e.attributes) {p : String} (hp : textParameter? e.name = some p)
    (hkey : textKeyOf e = textKey) : (simpleConfiguration settings e).contains p = true := by
  have htaken : (literal? e p).isSome = true := by
    by_contra hno
    rw [textKeyOf, hp] at hkey
    dsimp only at hkey
    rw [if_neg hno] at hkey
    rw [hkey] at hp
    exact absurd hp textParameter?_ne_textKey
  obtain ⟨v, hv⟩ := Option.isSome_iff_exists.1 htaken
  have hget := get?_simpleConfiguration settings h hwf p
  cases hb : (simpleConfiguration settings e).contains p with
  | true => rfl
  | false =>
    rw [Fields.get?_eq_none_iff.2 hb, hv] at hget
    simp at hget

/-! ## The attributes -/

/-- The name in an attribute that is a token. -/
def tokenName? (e : Element) (key : String) : Option String :=
  (e.attribute? key).bind NamedValue.name?

theorem referenceAttributes_eq (attributes : Attributes) :
    referenceAttributes attributes = .ofList (attributes.filterMap fun a =>
      (NamedValue.name? a.2).map fun name => (a.1, .namedValue { name })) := rfl

theorem get?_referenceAttributes (hwf : AreWellFormed e.attributes) (key : String) :
    (referenceAttributes e.attributes).get? key =
      (tokenName? e key).map fun name => .namedValue { name } := by
  have hkeys : ((e.attributes.filterMap fun a =>
      (NamedValue.name? a.2).map fun name =>
        (a.1, AttributeValue.namedValue { name })).map Prod.fst).Nodup := by
    have := keys_filterMap_sublist (fun _ v => (NamedValue.name? v).map fun name =>
      AttributeValue.namedValue { name }) e.attributes
    simp only [Option.map_map, Function.comp_def] at this
    exact hwf.distinct.sublist this
  have hlookup := lookup_filterMap hwf.distinct (fun _ v => (NamedValue.name? v).map fun name =>
    AttributeValue.namedValue { name }) key
  simp only [Option.map_map, Function.comp_def] at hlookup
  rw [referenceAttributes_eq, NameMap.get?_ofList hkeys, hlookup, tokenName?, Element.attribute?]
  cases e.attributes.lookup key <;> rfl

theorem exists_of_mem_referenceAttributes (hwf : AreWellFormed e.attributes)
    {a : String × AttributeValue} (ha : a ∈ (referenceAttributes e.attributes).entries) :
    ∃ name v, a.2 = .namedValue { name } ∧ e.attribute? a.1 = some v ∧
      NamedValue.name? v = some name := by
  have hlookup := lookup_of_mem (NameMap.nodup_keys _) (show (a.1, a.2) ∈ _ from ha)
  rw [← NameMap.get?, get?_referenceAttributes hwf] at hlookup
  obtain ⟨name, hn, heq⟩ := Option.map_eq_some_iff.1 hlookup
  obtain ⟨v, hv, hname⟩ := Option.bind_eq_some_iff.1 hn
  exact ⟨name, v, heq.symm, hv, hname⟩

/-- An attribute is literal or a token. -/
theorem literal?_eq_none_iff :
    literal? e key = none ↔ e.attribute? key = none ∨ (tokenName? e key).isSome = true := by
  unfold literal? tokenName?
  cases e.attribute? key with
  | none => simp
  | some v => simp [Option.filter, NamedValue.isToken, Option.isSome_iff_ne_none]

theorem attributes_isEmpty_iff (hwf : AreWellFormed e.attributes) :
    (referenceAttributes e.attributes).isEmpty = true ↔
      ∀ a ∈ e.attributes, NamedValue.isToken a.2 = false := by
  rw [NameMap.isEmpty_iff]
  simp only [get?_referenceAttributes hwf, Option.map_eq_none_iff, tokenName?]
  constructor
  · intro h a ha
    have := h a.1
    rw [Element.attribute?, lookup_of_mem hwf.distinct (show (a.1, a.2) ∈ e.attributes from ha),
      Option.bind_some] at this
    simp [NamedValue.isToken, this]
  · intro h key
    cases hv : e.attribute? key with
    | none => rfl
    | some v =>
      have := h (key, v) (mem_of_lookup hv)
      simpa [NamedValue.isToken] using this

/-! ## As texts -/

/-- The text of a parameter of a simple element. -/
def parameterText? (e : Element) (key : String) : Option String :=
  ((e.trimmedText?.filter fun _ => key = textKeyOf e).or (leafText? e key)).or (literal? e key)

/-- The texts of the configuration do not depend on how values are taken. -/
theorem scalarText?_simpleConfiguration (settings : Settings) (style : NamedValueStyle)
    (h : IsSimple e) (hwf : AreWellFormed e.attributes) (key : String) :
    ((simpleConfiguration settings e).get? key).bind (scalarText? style) =
      parameterText? e key := by
  have htext (t : String) : scalarText? style (.text t) = some t := by rw [scalarText?]
  rw [get?_simpleConfiguration settings h hwf, parameterText?]
  cases e.trimmedText?.filter fun _ => key = textKeyOf e with
  | some t => simp [htext]
  | none =>
    cases leafText? e key with
    | some t => simp [htext]
    | none =>
      cases literal? e key with
      | some v => simp
      | none => rfl

theorem get?_simpleConfiguration_eq_none_iff (settings : Settings) (h : IsSimple e)
    (hwf : AreWellFormed e.attributes) :
    (simpleConfiguration settings e).get? key = none ↔ parameterText? e key = none := by
  rw [get?_simpleConfiguration settings h hwf, parameterText?]
  cases e.trimmedText?.filter fun _ => key = textKeyOf e with
  | some t => simp
  | none =>
    cases leafText? e key with
    | some t => simp
    | none => simp

theorem parameterText?_textKey (h : IsSimple e) (hwf : AreWellFormed e.attributes) :
    parameterText? e textKey = e.trimmedText?.filter fun _ => textKeyOf e = textKey := by
  rw [parameterText?, leafText?_textKey h, literal?_textKey hwf]
  simp only [Option.or_none, eq_comm (a := textKey)]

theorem nodup_keys_simpleConfiguration (settings : Settings) (h : IsSimple e)
    (hwf : AreWellFormed e.attributes) :
    ((simpleConfiguration settings e).map Prod.fst).Nodup := by
  have hnamed : ((namedFields settings e).map Prod.fst).Nodup := by
    refine Fields.nodup_keys_foldl_set ?_ (leafFields e)
    rw [parameterAttributes_eq settings hwf.distinct, List.map_map]
    exact hwf.distinct.sublist (keys_filter_sublist _ e.attributes)
  cases ht : e.trimmedText? with
  | none => rwa [simpleConfiguration_of_no_text settings ht]
  | some t =>
    rw [simpleConfiguration_of_text settings h hwf ht]
    exact Fields.nodup_keys_set hnamed _ _

theorem isName_of_textParameter? {policyId p : String} (h : textParameter? policyId = some p) :
    IsName p := by
  have hall : ∀ a ∈ [("set-body", "value"), ("set-method", "method"),
      ("log-to-eventhub", "message")], IsName a.2 := by decide
  exact hall _ (mem_of_lookup h)

theorem isName_of_attribute? {v : String} (hwf : AreWellFormed e.attributes)
    (h : e.attribute? key = some v) : IsName key :=
  hwf.names (key, v) (mem_of_lookup h)

/-- The keys of the configuration are names, the text key aside. -/
theorem isName_of_parameterText? (h : IsSimple e) (hwf : AreWellFormed e.attributes)
    (hkey : key ≠ textKey) (hsome : parameterText? e key ≠ none) : IsName key := by
  by_cases hk : key = textKeyOf e
  · unfold textKeyOf at hk
    cases hp : textParameter? e.name with
    | none =>
      rw [hp] at hk
      exact absurd hk hkey
    | some p =>
      rw [hp] at hk
      dsimp only at hk
      split at hk
      · exact absurd hk hkey
      · rw [hk]
        exact isName_of_textParameter? hp
  · cases hl : leafText? e key with
    | some t =>
      unfold leafText? at hl
      obtain ⟨child, hchild, -⟩ := Option.bind_eq_some_iff.1 hl
      have hname := (h.leaf (List.mem_of_find?_eq_some hchild)).2.1
      have hkey : child.name = key := by simpa using List.find?_some hchild
      rw [← hkey, hname]
      decide
    | none =>
      cases hv : literal? e key with
      | some v => exact isName_of_attribute? hwf (Option.filter_eq_some_iff.1 hv).1
      | none =>
        rw [parameterText?, hl, hv] at hsome
        simp [hk] at hsome

/-! ## When the template is used -/

/-- The element is written by the template once it is an item: no attribute is a token, and the text
is not kept under the text key. -/
structure IsTemplated (e : Element) (t : Template) : Prop where
  /-- The policy has the template. -/
  template : Template.ofPolicy? e.name = some t
  /-- No attribute is a token. -/
  literal : ∀ a ∈ e.attributes, NamedValue.isToken a.2 = false
  /-- The text is a parameter, if there is one. -/
  text : e.trimmedText? = none ∨ textKeyOf e ≠ textKey

/-- The configuration of a simple element goes to the template as it is. -/
theorem templated?_of_isTemplated (settings : Settings) (id : String) (order : Int)
    {t : Template} (h : IsSimple e) (hwf : AreWellFormed e.attributes) (ht : IsTemplated e t) :
    (simpleCatalogItem settings id order e).templated? =
      some (t, simpleConfiguration settings e) := by
  have hget : (simpleConfiguration settings e).get? textKey = none := by
    rw [get?_textKey settings h hwf, Option.map_eq_none_iff]
    rcases ht.text with hnone | hkey
    · rw [hnone]
      rfl
    · simp [hkey]
  have htemplated := CatalogItem.templated?_of_no_text (t := t)
    (i := simpleCatalogItem settings id order e) ht.template
    (by rw [attributes_simpleCatalogItem, attributes_isEmpty_iff hwf]; exact ht.literal)
    (by rw [configuration_simpleCatalogItem, hget])
  rwa [configuration_simpleCatalogItem] at htemplated

theorem templated?_of_not_isTemplated (settings : Settings) (id : String) (order : Int)
    (h : IsSimple e) (hwf : AreWellFormed e.attributes) (ht : ∀ t, ¬ IsTemplated e t) :
    (simpleCatalogItem settings id order e).templated? = none := by
  by_cases htemplate : ∃ t, Template.ofPolicy? e.name = some t
  · obtain ⟨t, htemplate⟩ := htemplate
    by_cases htokens : ∀ a ∈ e.attributes, NamedValue.isToken a.2 = false
    · have htext : ∃ x, e.trimmedText? = some x := by
        by_contra hnone
        exact ht t ⟨htemplate, htokens, .inl (by simpa [Option.eq_none_iff_forall_ne_some] using hnone)⟩
      have hkey : textKeyOf e = textKey := by
        by_contra hkey
        exact ht t ⟨htemplate, htokens, .inr hkey⟩
      obtain ⟨x, hx⟩ := htext
      have hget : (simpleConfiguration settings e).get? textKey = some (.text x) := by
        rw [get?_textKey settings h hwf, hx]
        simp [Option.filter, hkey]
      refine CatalogItem.templated?_of_text (v := .text x) ?_ ?_
      · rw [configuration_simpleCatalogItem, hget]
      · intro p hp
        rw [configuration_simpleCatalogItem]
        exact contains_of_textKeyOf settings h hwf hp hkey
    · refine CatalogItem.templated?_of_attributes ?_
      rw [attributes_simpleCatalogItem, Bool.eq_false_iff]
      exact fun hempty => htokens ((attributes_isEmpty_iff hwf).1 hempty)
  · refine CatalogItem.templated?_of_ofPolicy? ?_
    simpa [Option.eq_none_iff_forall_ne_some] using htemplate

theorem renderItem_simpleItem_of_generic (id : String) (order : Int) (h : IsSimple e)
    (hwf : AreWellFormed e.attributes) (hgeneric : ∀ t, ¬ IsTemplated e t) :
    ({ settings } : Writer).renderItem (simpleItem settings id order e) =
      ({ settings } : Writer).renderGeneric (simpleCatalogItem settings id order e) := by
  rw [simpleItem_eq, Writer.renderItem, Writer.renderCatalog_eq settings _ h.ne_sendRequest,
    templated?_of_not_isTemplated settings id order h hwf hgeneric]

end GatewayPolicy
