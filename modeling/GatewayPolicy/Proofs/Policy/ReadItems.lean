import GatewayPolicy.Proofs.Policy.SendRequest
import GatewayPolicy.Proofs.Policy.SimpleElement
import GatewayPolicy.Proofs.Policy.StableItems
/-!
# Items that are read

Whatever a document holds, the items that are read from it are well-formed: references have names,
raw parts are visible, expressions stand on their own, and the items of a section are numbered in
order. Names of the items follow from their numbers, so no name is used twice in a model.
-/

namespace GatewayPolicy

open Json Text Xml

variable {settings : Settings} {kind : SectionKind} {id : String} {order : Int} {i : Item} {e : Element}
  {s : String} {n : Node}

/-! ## Each item -/

theorem isBlankText_of_isTokenName {name : String} (h : NamedValue.IsTokenName name.toList) :
    isBlankText name = false := by
  rw [Bool.eq_false_iff]
  intro hblank
  refine h.ne_nil ?_
  rw [← h.trimmed]
  exact trimChars_eq_nil_iff.2 (isBlankText_iff.1 hblank)

/-- What every item is that is read from a document. -/
inductive IsReadItem : Item → Prop where
  /-- The references of a policy have names. -/
  | catalog {i : CatalogItem}
    (attributes : ∀ key r, (key, AttributeValue.namedValue r) ∈ i.attributes.entries →
      isBlankText r.name = false)
    (headers : i.policyId = SendRequest.policyId →
      ∀ h ∈ (SendRequest.ofConfiguration i.configuration).headers, ∀ fields : Fields,
        h.value = .object fields →
          ∃ name, fields.get? "name" = some (.text name) ∧ isBlankText name = false) :
    IsReadItem (.catalog i)
  /-- The name of a fragment is trimmed and visible. -/
  | fragment {i : FragmentItem} (trimmed : trim i.fragmentId = i.fragmentId)
    (visible : isBlankText i.fragmentId = false) : IsReadItem (.fragment i)
  /-- A raw part is visible. -/
  | customXml {i : CustomXmlItem} (visible : isBlankText i.xml = false) : IsReadItem (.customXml i)
  /-- An expression stands on its own. -/
  | expression {i : ExpressionItem} (context : i.context = some .condition) :
    IsReadItem (.expression i)

/-- A text that starts with a bracket is visible. -/
theorem isBlankText_of_head? (h : s.toList.head? = some '<') : isBlankText s = false := by
  obtain ⟨cs, hcs⟩ := List.head?_eq_some_iff.1 h
  rw [isBlankText, hcs]
  rfl

theorem isReadItem_rawItem (settings : Settings) (id : String) (order : Int) (e : Element) :
    IsReadItem (rawItem settings id order e) := by
  obtain ⟨l, ls, hlines, hl⟩ := head?_nodeLines e settings.indentWidth
  refine .customXml (isBlankText_of_head? ?_)
  rw [Element.serialize, hlines, toList_unlines_cons, List.head?_append, hl]
  rfl

theorem exists_name_of_headerValue? {o : Option String} {fields : Fields}
    (h : SendRequest.headerValue? o = .object fields) :
    ∃ name, fields.get? "name" = some (.text name) ∧ isBlankText name = false := by
  cases o with
  | none => simp [SendRequest.headerValue?] at h
  | some t =>
    rw [SendRequest.headerValue?, SendRequest.headerValue] at h
    split at h
    · rename_i name hname
      obtain rfl := Json.object.inj h
      exact ⟨name, rfl, isBlankText_of_isTokenName (NamedValue.isTokenName_of_name? hname)⟩
    · simp at h

theorem isReadItem_sendRequest {r : SendRequest} (h : SendRequest.ofElement? settings e = some r) :
    IsReadItem (.catalog
      { id, order, policyId := SendRequest.policyId, configuration := r.toConfiguration }) := by
  refine .catalog (by simp [NameMap.empty]) fun _ x hx fields hfields => ?_
  have hread := (SendRequest.isReadRecord_of_ofElement? h).ofConfiguration_toConfiguration
  obtain ⟨o, ho⟩ := hread.headers x hx
  exact exists_name_of_headerValue? (ho.symm.trans hfields)

theorem exists_name?_of_mem_referenceAttributes {attributes : Attributes} {a : String × AttributeValue}
    (h : a ∈ (referenceAttributes attributes).entries) :
    ∃ name v, a.2 = .namedValue { name } ∧ NamedValue.name? v = some name ∧
      (a.1, v) ∈ attributes := by
  have ha := NameMap.mem_of_mem_ofList h
  obtain ⟨⟨key, v⟩, hmem, ha⟩ := List.mem_filterMap.1 ha
  obtain ⟨name, hname, rfl⟩ := Option.map_eq_some_iff.1 ha
  exact ⟨name, v, rfl, hname, hmem⟩

theorem isReadItem_simpleItem (hshape : shape e = .simple) :
    IsReadItem (simpleItem settings id order e) := by
  refine .catalog (fun key r hr => ?_) fun hpolicy => ?_
  · obtain ⟨name, v, heq, hname, -⟩ := exists_name?_of_mem_referenceAttributes hr
    obtain rfl := AttributeValue.namedValue.inj heq
    exact isBlankText_of_isTokenName (NamedValue.isTokenName_of_name? hname)
  · exact absurd hpolicy (shape_eq_simple_iff.1 hshape).ne_sendRequest

theorem isReadItem_of_elementItem? (h : elementItem? settings id order e = some i) :
    IsReadItem i ∧ i.id = id ∧ i.order = order := by
  unfold elementItem? at h
  split at h
  · simp at h
  · rename_i hshape
    obtain rfl := Option.some.inj h
    obtain ⟨fragmentId, hreference, htrim, hne⟩ := exists_fragmentReference? hshape
    refine ⟨?_, rfl, rfl⟩
    rw [hreference, Option.getD_some]
    refine .fragment htrim (Bool.eq_false_iff.2 fun hblank => hne ?_)
    rw [← htrim]
    exact trim_eq_empty_iff.2 hblank
  · split at h
    · rename_i r hr
      obtain rfl := Option.some.inj h
      exact ⟨isReadItem_sendRequest hr, rfl, rfl⟩
    · obtain rfl := Option.some.inj h
      exact ⟨isReadItem_rawItem settings id order e, rfl, rfl⟩
  · rename_i hshape
    obtain rfl := Option.some.inj h
    exact ⟨isReadItem_simpleItem hshape, rfl, rfl⟩
  · obtain rfl := Option.some.inj h
    exact ⟨isReadItem_rawItem settings id order e, rfl, rfl⟩

theorem isReadItem_of_charactersItem? (h : charactersItem? id order s = some i) :
    IsReadItem i ∧ i.id = id ∧ i.order = order := by
  unfold charactersItem? at h
  dsimp only at h
  split at h
  · obtain rfl := Option.some.inj h
    exact ⟨.expression rfl, rfl, rfl⟩
  · simp at h

/-- Every child of a section that is read becomes an item with the given name and number. -/
theorem isReadItem_of_nodeItem? (h : nodeItem? settings id order n = some i) :
    IsReadItem i ∧ i.id = id ∧ i.order = order := by
  cases n with
  | element name attributes children =>
    rw [nodeItem?] at h
    exact isReadItem_of_elementItem? h
  | text s =>
    rw [nodeItem?] at h
    exact isReadItem_of_charactersItem? h
  | cdata s =>
    rw [nodeItem?] at h
    exact isReadItem_of_charactersItem? h
  | comment s =>
    obtain rfl := Option.some.inj h
    refine ⟨.customXml (isBlankText_of_head? ?_), rfl, rfl⟩
    rw [commentText, String.toList_append, String.toList_append]
    rfl

/-! ## Sections -/

/-- The items of a section are well-formed and numbered from `start` on. -/
theorem getElem?_sectionItems (settings : Settings) (kind : SectionKind) (ns : List Node)
    (start k : Nat) (h : (sectionItems settings kind start ns)[k]? = some i) :
    IsReadItem i ∧ i.id = itemId kind (start + k) ∧ i.order = (start + k : Nat) := by
  induction ns generalizing start k with
  | nil => simp [sectionItems] at h
  | cons n ns ih =>
    rw [sectionItems] at h
    split at h
    · rename_i i' hi'
      cases k with
      | zero =>
        obtain rfl := Option.some.inj h
        exact isReadItem_of_nodeItem? hi'
      | succ k =>
        have hrest := ih (start + 1) k h
        rwa [Nat.add_right_comm] at hrest
    · exact ih start k h

/-- What every section is that is read from a document. -/
structure IsReadSection (kind : SectionKind) (s : Section) : Prop where
  /-- It says whether the policies of the enclosing scope are included. -/
  includeBase : s.includeBase.isSome = true
  /-- Its items are numbered in order and named after their numbers. -/
  numbered : ∀ (k : Nat) i, s.items[k]? = some i → i.id = itemId kind k ∧ i.order = k
  /-- Its items are well-formed. -/
  items : ∀ i ∈ s.items, IsReadItem i

theorem isReadSection_readSection (settings : Settings) (kind : SectionKind) (e : Element) :
    IsReadSection kind (readSection settings kind e) := by
  refine ⟨rfl, fun k i hi => ?_, fun i hi => ?_⟩
  · have hitem := getElem?_sectionItems settings kind e.children 0 k hi
    rw [Nat.zero_add] at hitem
    exact hitem.2
  · obtain ⟨k, hk⟩ := List.mem_iff_getElem?.1 hi
    exact (getElem?_sectionItems settings kind e.children 0 k hk).1

namespace IsReadSection

variable {s : Section}

/-- The items are stored in the order in which they are emitted. -/
theorem sortedItems_eq (h : IsReadSection kind s) : s.sortedItems = s.items := by
  refine List.mergeSort_of_pairwise (List.pairwise_iff_getElem.2 fun k l hk hl hlt => ?_)
  rw [(h.numbered k _ (List.getElem?_eq_getElem hk)).2,
    (h.numbered l _ (List.getElem?_eq_getElem hl)).2]
  simpa using hlt.le

theorem ids_eq (h : IsReadSection kind s) :
    s.items.map Item.id = (List.range s.items.length).map (itemId kind) := by
  refine List.ext_getElem (by simp) fun k hk hk' => ?_
  rw [List.length_map] at hk
  rw [List.getElem_map, List.getElem_map, List.getElem_range,
    (h.numbered k _ (List.getElem?_eq_getElem hk)).1]

end IsReadSection

end GatewayPolicy
