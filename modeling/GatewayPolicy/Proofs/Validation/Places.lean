import GatewayPolicy.Proofs.Policy.Interchange
import GatewayPolicy.Proofs.Validation.Errors
/-!
# The places of findings

A finding about a value names a place in the JSON form of the model, and the value is at that place:
a configuration value that does not fit its parameter, or a reference to a named value without a
name.

Headers of a request are the exception. A finding gives the number of the header among those that
are read, which is its place only if they are in a list and all items in front of it are read. Of an
object that names the headers there is no such place at all.
-/

namespace GatewayPolicy

open Json Text Validation SendRequest

variable {catalog : Catalog} {m : Model} {p : PlacedItem} {i : CatalogItem} {j : Issue}
  {n : Nat}

/-! ## Following a path -/

@[simp]
theorem PathStep.follow?_field (fields : Fields) (key : String) :
    (PathStep.field key).follow? (.object fields) = fields.get? key := rfl

@[simp]
theorem PathStep.follow?_index (items : List Json) (n : Nat) :
    (PathStep.index n).follow? (.array items) = items[n]? := rfl

namespace Path

@[simp]
theorem follow?_nil (v : Json) : follow? v [] = some v := rfl

@[simp]
theorem follow?_cons (v : Json) (s : PathStep) (p : Path) :
    follow? v (s :: p) = (s.follow? v).bind (follow? · p) :=
  List.foldlM_cons

theorem follow?_append (v : Json) (p q : Path) :
    follow? v (p ++ q) = (follow? v p).bind (follow? · q) :=
  List.foldlM_append

end Path

theorem Sections.follow?_toJson (s : Sections) (kind : SectionKind) :
    (PathStep.field kind.key).follow? s.toJson = (s.get? kind).map Section.toJson := by
  rw [Sections.toJson_eq, PathStep.follow?_field, Fields.get?]
  cases kind <;> simp [SectionKind.key, Sections.get?]

/-- An item is at its place. -/
theorem follow?_path (hp : p ∈ m.placedItems) :
    Path.follow? m.toJson p.path = some p.item.toJson := by
  obtain ⟨⟨kind, s⟩, hs, hp⟩ := List.mem_flatMap.1 hp
  obtain ⟨n, hn, rfl⟩ := List.mem_mapIdx.1 hp
  have hpresent : m.sections.get? kind = some s := mem_present_iff.1 hs
  have hsections : (PathStep.field "sections").follow? m.toJson = some m.sections.toJson := by
    rw [Model.toJson_eq, PathStep.follow?_field, Fields.get?]
    simp
  have hitems : (PathStep.field "items").follow? s.toJson =
      some (.array (s.items.map Item.toJson)) := by
    rw [Section.toJson_eq, PathStep.follow?_field, Fields.get?]
    simp
  simp [PlacedItem.path, itemPath, hsections, Sections.follow?_toJson, hpresent, hitems, hn]

/-- What is in the configuration of an item. -/
theorem follow?_configuration (hp : p ∈ m.placedItems) (hi : p.item = .catalog i) (rest : Path) :
    Path.follow? m.toJson (p.path ++ .field "configuration" :: rest) =
      Path.follow? (.object i.configuration) rest := by
  have hconfiguration : (PathStep.field "configuration").follow? (Item.catalog i).toJson =
      some (.object i.configuration) := by
    rw [Item.toJson, Item.fields, CatalogItem.fields_eq, PathStep.follow?_field, Fields.get?,
      lookup_cons_of_ne (by decide)]
    simp
  rw [Path.follow?_append, follow?_path hp, hi, Option.bind_some, Path.follow?_cons,
    hconfiguration, Option.bind_some]

/-- What is in the attributes of an item. -/
theorem follow?_attribute (hp : p ∈ m.placedItems) (hi : p.item = .catalog i) (key : String) :
    Path.follow? m.toJson (p.path ++ [.field "attributes", .field key]) =
      (i.attributes.get? key).map AttributeValue.toJson := by
  have hattributes : (PathStep.field "attributes").follow? (Item.catalog i).toJson =
      if i.attributes.isEmpty then none else some (attributesToJson i.attributes) := by
    rw [Item.toJson, Item.fields, CatalogItem.fields_eq, PathStep.follow?_field, Fields.get?,
      lookup_cons_of_ne (by decide)]
    simp
  rw [Path.follow?_append, follow?_path hp, hi, Option.bind_some, Path.follow?_cons, hattributes]
  split
  · rename_i hempty
    rw [NameMap.isEmpty_iff.1 hempty, Option.bind_none, Option.map_none]
  · rw [Option.bind_some, Path.follow?_cons, attributesToJson, PathStep.follow?_field, Fields.get?,
      lookup_map fun _ v => AttributeValue.toJson v, NameMap.get?]
    exact Option.bind_fun_some _

/-! ## Headers -/

/-- The place of the value of an item among the headers in the configuration of an item. -/
def headerPath (path : Path) (n : Nat) : Path :=
  path ++ [.field "configuration", .field "headers", .index n, .field "value"]

/-- The item of a list of headers is read as one. -/
def isHeader (v : Json) : Bool := (v.object?.bind header?).isSome

/-- An item that gives a result, behind those that give the results before. -/
theorem exists_getElem?_of_filterMap {α β : Type} {f : α → Option β} {l : List α} {b : β}
    (h : (l.filterMap f)[n]? = some b) :
    ∃ k a, l[k]? = some a ∧ f a = some b ∧ (l.take k).countP (fun a => (f a).isSome) = n := by
  induction l generalizing n with
  | nil => simp at h
  | cons a l ih =>
    cases hf : f a with
    | none =>
      rw [List.filterMap_cons_none hf] at h
      obtain ⟨k, a', hk, ha', hn⟩ := ih h
      exact ⟨k + 1, a', hk, ha', by simpa [hf] using hn⟩
    | some b' =>
      rw [List.filterMap_cons_some hf] at h
      cases n with
      | zero => exact ⟨0, a, rfl, hf.trans h, rfl⟩
      | succ n =>
        obtain ⟨k, a', hk, ha', hn⟩ := ih h
        exact ⟨k + 1, a', hk, ha', by simpa [hf] using hn⟩

/-- The header with a number is in a list, behind the items that are the headers before it, or it is
the field with the number. -/
theorem exists_of_headersOf {v : Json} {h : SendRequestHeader} (hh : (headersOf v)[n]? = some h)
    (hblank : isBlankHeader h = true) :
    (∃ items k w, v = .array items ∧ items[k]? = some w ∧ isHeader w = true ∧
      (items.take k).countP isHeader = n ∧ Path.follow? w [.field "value"] = some h.value) ∨
    ∃ fields, v = .object fields ∧ fields[n]? = some (h.name, h.value) := by
  cases v with
  | array items =>
    obtain ⟨k, w, hk, hw, hn⟩ := exists_getElem?_of_filterMap hh
    refine .inl ⟨items, k, w, rfl, hk, Option.isSome_iff_exists.2 ⟨h, hw⟩, hn, ?_⟩
    obtain ⟨fields, hfields, hheader⟩ := Option.bind_eq_some_iff.1 hw
    obtain ⟨name, -, rfl⟩ := Option.map_eq_some_iff.1 hheader
    rw [eq_object_of_object? hfields, Path.follow?_cons, PathStep.follow?_field]
    cases hvalue : fields.get? "value" with
    | none => simp [isBlankHeader, hvalue, Json.object?] at hblank
    | some w => rfl
  | object fields =>
    rw [headersOf, List.getElem?_map, Option.map_eq_some_iff] at hh
    obtain ⟨f, hf, rfl⟩ := hh
    exact .inr ⟨fields, rfl, hf⟩
  | _ => simp [headersOf] at hh

/-! ## Findings about values -/

/-- The value is a reference to a named value, with a name that is no text or a blank one. -/
def IsBlankReference (v : Json) : Prop :=
  ∃ fields : Fields, v = .object fields ∧
    ¬ ∃ name, fields.get? "name" = some (.text name) ∧ isBlankText name = false

/-- The code of the finding about a value that does not fit. -/
def Mismatch.code : Mismatch → IssueCode
  | .wrongType _ => .parameterTypeMismatch
  | .notAllowed _ => .parameterInvalidEnum

/-- The value that a finding with the code is about is at the place. -/
inductive ReachesValue (catalog : Catalog) (m : Model) : IssueCode → Path → Prop where
  /-- It is the value of a parameter that it does not fit. -/
  | inConfiguration {p : PlacedItem} {i : CatalogItem} {e : Entry} {q : Parameter} {key : String}
    {v : Json} {mismatch : Mismatch} (hp : p ∈ m.placedItems) (hi : p.item = .catalog i)
    (he : catalog.get? i.policyId = some e) (hq : e.parameter? key = some q)
    (hv : Path.follow? m.toJson (parameterPath p.path key) = some v)
    (hmismatch : q.kind.mismatch? v = some mismatch) :
    ReachesValue catalog m mismatch.code (parameterPath p.path key)
  /-- It is the value of an attribute, without a name. -/
  | inAttributes {p : PlacedItem} {i : CatalogItem} {key : String} {v : Json}
    (hp : p ∈ m.placedItems) (hi : p.item = .catalog i)
    (hv : Path.follow? m.toJson (p.path ++ [.field "attributes", .field key]) = some v)
    (hblank : IsBlankReference v) :
    ReachesValue catalog m .emptyNamedValue (p.path ++ [.field "attributes", .field key])
  /-- It is the value of a header without a name, in a list whose items are headers up to there. -/
  | inHeaders {p : PlacedItem} {i : CatalogItem} {items : List Json} {n : Nat} {v : Json}
    (hp : p ∈ m.placedItems) (hi : p.item = .catalog i)
    (hheaders : i.configuration.get? "headers" = some (.array items))
    (hall : ∀ w ∈ items.take (n + 1), isHeader w = true)
    (hv : Path.follow? m.toJson (headerPath p.path n) = some v) (hblank : IsBlankReference v) :
    ReachesValue catalog m .emptyNamedValue (headerPath p.path n)

/-- The place has the number of a header without a name, and its value is at another place. -/
inductive MissesHeader (m : Model) : Path → Prop where
  /-- It is in a list further on, since not all items in front of it are headers. -/
  | behind {p : PlacedItem} {i : CatalogItem} {items : List Json} {k : Nat} {v : Json}
    (hp : p ∈ m.placedItems) (hi : p.item = .catalog i)
    (hheaders : i.configuration.get? "headers" = some (.array items))
    (hskipped : ∃ w ∈ items.take k, isHeader w = false)
    (hv : Path.follow? m.toJson (headerPath p.path k) = some v) (hblank : IsBlankReference v) :
    MissesHeader m (headerPath p.path ((items.take k).countP isHeader))
  /-- It is in an object, at its name, and nothing in an object is at a number. -/
  | named {p : PlacedItem} {i : CatalogItem} {fields : Fields} {n : Nat} {name : String} {v : Json}
    (hp : p ∈ m.placedItems) (hi : p.item = .catalog i)
    (hheaders : i.configuration.get? "headers" = some (.object fields))
    (hn : fields[n]? = some (name, v))
    (hv : Path.follow? m.toJson
      (p.path ++ [.field "configuration", .field "headers", .field name]) = some v)
    (hblank : IsBlankReference v) (hnone : Path.follow? m.toJson (headerPath p.path n) = none) :
    MissesHeader m (headerPath p.path n)

theorem isBlankReference_of_isBlankHeader {h : SendRequestHeader}
    (hblank : isBlankHeader h = true) : IsBlankReference h.value := by
  obtain ⟨fields, hfields, hblank⟩ := (Option.any_eq_true _ _).1 hblank
  refine ⟨fields, eq_object_of_object? hfields, ?_⟩
  rintro ⟨name, hname, hvisible⟩
  simp [isBlankReference, hname, Json.text?, hvisible] at hblank

theorem isBlankReference_toJson {r : NamedValueReference} (h : isBlankText r.name = true) :
    IsBlankReference r.toJson := by
  refine ⟨_, r.toJson_eq, ?_⟩
  rintro ⟨name, hname, hvisible⟩
  obtain rfl : r.name = name := by simpa [Fields.get?] using hname
  simp [h] at hvisible

theorem reaches_of_mem_entryWarnings {e : Entry} (hp : p ∈ m.placedItems)
    (hi : p.item = .catalog i) (he : catalog.get? i.policyId = some e)
    (hkeys : (i.configuration.map Prod.fst).Nodup) (hj : j ∈ entryWarnings e m.scope p.path i)
    (hcode : j.code ≠ .unsupportedScope) :
    ∃ path, j.path = path.text ∧ ReachesValue catalog m j.code path := by
  rcases List.mem_append.1 hj with hj | hj
  · exact absurd (code_of_mem_when hj).2 hcode
  · obtain ⟨⟨key, v⟩, hv, hj⟩ := List.mem_filterMap.1 hj
    obtain ⟨mismatch, hmismatch, rfl⟩ := Option.map_eq_some_iff.1 hj
    have hget : i.configuration.get? key = some v := lookup_of_mem hkeys hv
    have hfollow : Path.follow? m.toJson (parameterPath p.path key) = some v := by
      rw [parameterPath, follow?_configuration hp hi]
      simp [hget]
    rw [valueMismatch?] at hmismatch
    split at hmismatch
    · simp at hmismatch
    · obtain ⟨q, hq, hmismatch⟩ := Option.bind_eq_some_iff.1 hmismatch
      have hreaches := ReachesValue.inConfiguration hp hi he hq hfollow hmismatch
      refine ⟨parameterPath p.path key, ?_, ?_⟩
      · cases mismatch <;> rfl
      · cases mismatch <;> exact hreaches

theorem reaches_of_mem_attributeErrors (catalog : Catalog) (hp : p ∈ m.placedItems)
    (hi : p.item = .catalog i) (hj : j ∈ attributeErrors p.path i) :
    ∃ path, j.path = path.text ∧ ReachesValue catalog m .emptyNamedValue path := by
  obtain ⟨⟨key, v⟩, hv, hj⟩ := List.mem_flatMap.1 hj
  obtain ⟨hblank, rfl⟩ := eq_of_mem_when hj
  have hget : i.attributes.get? key = some v := lookup_of_mem i.attributes.nodup_keys hv
  cases v with
  | literal s => simp [isBlankAttribute] at hblank
  | namedValue r =>
    have hfollow : Path.follow? m.toJson (p.path ++ [.field "attributes", .field key]) =
        some r.toJson := by
      rw [follow?_attribute hp hi, hget]
      rfl
    exact ⟨_, rfl, .inAttributes hp hi hfollow (isBlankReference_toJson hblank)⟩

/-- A header in a list is at its number unless another item in front of it is no header. -/
theorem reaches_or_misses_of_item {items : List Json} {k : Nat} {w v : Json}
    (hp : p ∈ m.placedItems) (hi : p.item = .catalog i)
    (hheaders : i.configuration.get? "headers" = some (.array items)) (hk : items[k]? = some w)
    (hw : isHeader w = true) (hvalue : Path.follow? w [.field "value"] = some v)
    (hblank : IsBlankReference v) :
    ReachesValue catalog m .emptyNamedValue (headerPath p.path ((items.take k).countP isHeader)) ∨
      MissesHeader m (headerPath p.path ((items.take k).countP isHeader)) := by
  have hfollow : Path.follow? m.toJson (headerPath p.path k) = some v := by
    rw [headerPath, follow?_configuration hp hi]
    simpa [hheaders, hk] using hvalue
  by_cases hall : ∀ w ∈ items.take k, isHeader w = true
  · have hlt : k < items.length := (List.getElem?_eq_some_iff.1 hk).1
    have hcount : (items.take k).countP isHeader = k := by
      rw [List.countP_eq_length.2 hall, List.length_take, Nat.min_eq_left (Nat.le_of_lt hlt)]
    rw [hcount]
    refine .inl (.inHeaders hp hi hheaders ?_ hfollow hblank)
    rw [List.take_add_one, hk]
    exact List.forall_mem_append.2 ⟨hall, by simpa using hw⟩
  · obtain ⟨w, hw, hskipped⟩ : ∃ w ∈ items.take k, isHeader w = false := by simpa using hall
    exact .inr (.behind hp hi hheaders ⟨w, hw, hskipped⟩ hfollow hblank)

/-- A header in an object is not at its number. -/
theorem misses_of_field {fields : Fields} {name : String} {v : Json} (hp : p ∈ m.placedItems)
    (hi : p.item = .catalog i) (hkeys : (Json.object i.configuration).hasDistinctKeys = true)
    (hheaders : i.configuration.get? "headers" = some (.object fields))
    (hn : fields[n]? = some (name, v)) (hblank : IsBlankReference v) :
    MissesHeader m (headerPath p.path n) := by
  have hfields : (fields.map Prod.fst).Nodup :=
    (hasDistinctKeys_object_iff.1
      ((hasDistinctKeys_object_iff.1 hkeys).2 _ (mem_of_lookup hheaders))).1
  have hget : fields.get? name = some v := lookup_of_mem hfields (List.mem_of_getElem? hn)
  have hindex : (PathStep.index n).follow? (.object fields) = none := rfl
  refine .named hp hi hheaders hn ?_ hblank ?_
  · rw [follow?_configuration hp hi]
    simp [hheaders, hget]
  · rw [headerPath, follow?_configuration hp hi]
    simp [hheaders, hindex]

theorem reaches_or_misses_of_mem_headerErrors (hp : p ∈ m.placedItems) (hi : p.item = .catalog i)
    (hkeys : (Json.object i.configuration).hasDistinctKeys = true)
    (hj : j ∈ headerErrors p.path i) :
    ∃ path, j.path = path.text ∧
      (ReachesValue catalog m .emptyNamedValue path ∨ MissesHeader m path) := by
  unfold headerErrors at hj
  split at hj
  case isFalse => simp at hj
  obtain ⟨is, his, hj⟩ := List.mem_flatten.1 hj
  obtain ⟨n, hn, rfl⟩ := List.mem_mapIdx.1 his
  obtain ⟨hblank, rfl⟩ := eq_of_mem_when hj
  refine ⟨headerPath p.path n, rfl, ?_⟩
  obtain ⟨v, hv, hh⟩ : ∃ v, i.configuration.get? "headers" = some v ∧
      (headersOf v)[n]? = some (ofConfiguration i.configuration).headers[n] := by
    cases hv : i.configuration.get? "headers" with
    | none => simp [ofConfiguration, hv] at hn
    | some v => exact ⟨v, rfl, by simp [ofConfiguration, hv] at hn ⊢⟩
  have hreference := isBlankReference_of_isBlankHeader hblank
  rcases exists_of_headersOf hh hblank with ⟨items, k, w, rfl, hk, hw, rfl, hvalue⟩ |
    ⟨fields, rfl, hfield⟩
  · exact reaches_or_misses_of_item hp hi hv hk hw hvalue hreference
  · exact .inr (misses_of_field hp hi hkeys hv hfield hreference)

/-! ## Where the exception applies -/

theorem headerPath_injective {path path' : Path} {n n' : Nat}
    (h : headerPath path n = headerPath path' n') : path = path' ∧ n = n' := by
  obtain ⟨hpath, hrest⟩ := List.append_inj' h rfl
  exact ⟨hpath, by simpa using hrest⟩

theorem eq_of_path_eq {p' : PlacedItem} {i' : CatalogItem} (hp : p ∈ m.placedItems)
    (hi : p.item = .catalog i) (hp' : p' ∈ m.placedItems) (hi' : p'.item = .catalog i')
    (h : p.path = p'.path) : i.configuration = i'.configuration := by
  have hsame := (follow?_configuration hp hi []).symm.trans
    (h ▸ follow?_configuration hp' hi' [])
  simpa using hsame

/-- A place with the number of a header is reached in a list of headers only. -/
theorem exists_of_reaches_headerPath {path : Path}
    (h : ReachesValue catalog m .emptyNamedValue (headerPath path n)) :
    ∃ p i items, p ∈ m.placedItems ∧ p.item = .catalog i ∧ p.path = path ∧
      i.configuration.get? "headers" = some (.array items) ∧
      ∀ w ∈ items.take (n + 1), isHeader w = true := by
  generalize hcode : IssueCode.emptyNamedValue = code at h
  generalize hpath : headerPath path n = place at h
  cases h with
  | @inConfiguration _ _ _ _ _ _ mismatch =>
    cases mismatch <;> simp [Mismatch.code] at hcode
  | inAttributes =>
    have hrev := congrArg List.reverse hpath
    simp [headerPath] at hrev
  | inHeaders hp hi hheaders hall =>
    obtain ⟨rfl, rfl⟩ := headerPath_injective hpath
    exact ⟨_, _, _, hp, hi, rfl, hheaders, hall⟩

/-- A list with an item that does not count has one among the first, as many as count and one. -/
theorem exists_mem_take_countP {α : Type} {f : α → Bool} {l : List α}
    (h : ∃ a ∈ l, f a = false) : ∃ a ∈ l.take (l.countP f + 1), f a = false := by
  induction l with
  | nil => simp at h
  | cons a l ih =>
    cases ha : f a with
    | false => exact ⟨a, by simp, ha⟩
    | true =>
      obtain ⟨b, hb, hfalse⟩ := ih (by simpa [ha] using h)
      exact ⟨b, by simp [ha, hb], hfalse⟩

/-- Where a header has its number for a place and its value elsewhere, the place does not reach what
the finding is about. -/
theorem MissesHeader.not_reaches {path : Path} (h : MissesHeader m path) :
    ¬ ReachesValue catalog m .emptyNamedValue path := by
  intro hreaches
  cases h with
  | @behind p i items k v hp hi hheaders hskipped =>
    obtain ⟨p', i', items', hp', hi', hpath, hheaders', hall⟩ :=
      exists_of_reaches_headerPath hreaches
    rw [eq_of_path_eq hp' hi' hp hi hpath, hheaders] at hheaders'
    obtain rfl : items = items' := by simpa using hheaders'
    obtain ⟨w, hw, hfalse⟩ := exists_mem_take_countP hskipped
    rw [List.take_take] at hw
    have htrue := hall w (List.take_subset_take_left items (Nat.min_le_left _ _) hw)
    simp [hfalse] at htrue
  | named hp hi hheaders =>
    obtain ⟨p', i', items', hp', hi', hpath, hheaders', -⟩ :=
      exists_of_reaches_headerPath hreaches
    rw [eq_of_path_eq hp' hi' hp hi hpath, hheaders] at hheaders'
    simp at hheaders'

/-! ## Models -/

/-- The codes of findings about a value. -/
def IssueCode.aboutValues : List IssueCode :=
  [emptyNamedValue, parameterTypeMismatch, parameterInvalidEnum]

theorem mem_catalogItems (hp : p ∈ m.placedItems) (hi : p.item = .catalog i) :
    i ∈ m.catalogItems := by
  rw [Model.catalogItems, items_eq_map_placedItems]
  refine List.mem_filterMap.2 ⟨_, List.mem_map_of_mem hp, ?_⟩
  simp [hi, Item.catalog?]

theorem reaches_or_misses_of_mem_itemErrors (hp : p ∈ m.placedItems)
    (hkeys : ∀ i ∈ m.catalogItems, (Json.object i.configuration).hasDistinctKeys = true)
    (hj : j ∈ itemErrors catalog p) (hcode : j.code ∈ IssueCode.aboutValues) :
    j.code = .emptyNamedValue ∧
      ∃ path, j.path = path.text ∧
        (ReachesValue catalog m .emptyNamedValue path ∨ MissesHeader m path) := by
  unfold itemErrors at hj
  split at hj
  · rename_i i hi
    rcases List.mem_append.1 hj with hj | hj
    · rcases List.mem_append.1 hj with hj | hj
      · obtain ⟨path, hpath, hreaches⟩ := reaches_of_mem_attributeErrors catalog hp hi hj
        exact ⟨code_of_mem_attributeErrors j hj, path, hpath, .inl hreaches⟩
      · exact ⟨code_of_mem_headerErrors j hj,
          reaches_or_misses_of_mem_headerErrors hp hi (hkeys i (mem_catalogItems hp hi)) hj⟩
    · -- The other errors of a policy are not about values.
      split at hj
      · rcases List.mem_append.1 hj with hj | hj
        · simp [(code_of_mem_when hj).2, issue, IssueCode.aboutValues] at hcode
        · obtain ⟨q, -, rfl⟩ := List.mem_map.1 hj
          simp [issue, IssueCode.aboutValues] at hcode
      · rw [List.mem_singleton.1 hj] at hcode
        simp [issue, IssueCode.aboutValues] at hcode
  · simp [(code_of_mem_when hj).2, issue, IssueCode.aboutValues] at hcode
  · simp at hj

theorem reaches_of_mem_itemWarnings (hp : p ∈ m.placedItems)
    (hkeys : ∀ i ∈ m.catalogItems, (Json.object i.configuration).hasDistinctKeys = true)
    (hj : j ∈ itemWarnings catalog m.scope p) (hcode : j.code ∈ IssueCode.aboutValues) :
    ∃ path, j.path = path.text ∧ ReachesValue catalog m j.code path := by
  unfold itemWarnings at hj
  split at hj
  · rename_i i hi
    split at hj
    · rename_i e he
      have hdistinct := hasDistinctKeys_object_iff.1 (hkeys i (mem_catalogItems hp hi))
      refine reaches_of_mem_entryWarnings hp hi he hdistinct.1 hj fun hscope => ?_
      simp [hscope, IssueCode.aboutValues] at hcode
    · simp at hj
  · simp at hj
  · simp [(code_of_mem_when hj).2, issue, IssueCode.aboutValues] at hcode
  · simp [(code_of_mem_when hj).2, issue, IssueCode.aboutValues] at hcode

theorem code_notMem_of_mem_scopeWarnings (hj : j ∈ scopeWarnings m) :
    j.code ∉ IssueCode.aboutValues := by
  rcases List.mem_append.1 hj with hj | hj
  · simp [(code_of_mem_when hj).2, issue, IssueCode.aboutValues]
  · split at hj <;> simp [(code_of_mem_when hj).2, issue, IssueCode.aboutValues]

/-- If the keys of configurations are distinct, every finding about a configuration value or a
reference without a name has the place of that value, except for headers that are in an object or
behind something that is no header. There the place is never that of the value. -/
theorem validate_locates (catalog : Catalog) (m : Model)
    (hkeys : ∀ i ∈ m.catalogItems, (Json.object i.configuration).hasDistinctKeys = true) :
    (∀ j ∈ (m.validate catalog).issues,
      j.code ∈ [IssueCode.emptyNamedValue, .parameterTypeMismatch, .parameterInvalidEnum] →
        ∃ path, j.path = path.text ∧
          (ReachesValue catalog m j.code path ∨ j.code = .emptyNamedValue ∧ MissesHeader m path)) ∧
    ∀ path, MissesHeader m path → ¬ ReachesValue catalog m .emptyNamedValue path := by
  refine ⟨fun j hj hcode => ?_, fun path h => h.not_reaches⟩
  rcases List.mem_append.1 hj with hj | hj
  · obtain ⟨p, hp, hj⟩ := List.mem_flatMap.1 hj
    obtain ⟨hblank, path, hpath, hplace⟩ := reaches_or_misses_of_mem_itemErrors hp hkeys hj hcode
    exact ⟨path, hpath, by rw [hblank]; exact hplace.imp_right fun h => ⟨rfl, h⟩⟩
  · simp only [ValidationResult.ofIssues, Model.validate, warnings, List.mem_append] at hj
    rcases hj with ((hj | hj) | hj) | hj
    · exact absurd hcode (code_notMem_of_mem_scopeWarnings hj)
    · obtain ⟨p, hp, hj⟩ := List.mem_flatMap.1 hj
      obtain ⟨path, hpath, hreaches⟩ := reaches_of_mem_itemWarnings hp hkeys hj hcode
      exact ⟨path, hpath, .inl hreaches⟩
    · simp [code_of_mem_duplicateIdWarnings hj] at hcode
    · simp [code_of_mem_variableWarnings hj] at hcode

/-- A request with one header, behind a text that is none. -/
def requestBehindText : CatalogItem where
  id := "a"
  order := 0
  policyId := SendRequest.policyId
  configuration := [("headers", .array [.text "x",
    .object [("name", .text "A"), ("value", .object [("name", .text "")])]])]

/-- A model of that request. -/
def modelBehindText : Model where
  scope := .global
  sections := { inbound := some { items := [.catalog requestBehindText] } }

theorem validate_locates_modelBehindText :
    (∀ i ∈ modelBehindText.catalogItems,
      (Json.object i.configuration).hasDistinctKeys = true) ∧
    (∃ j ∈ (modelBehindText.validate .empty).issues,
      j.path = "sections.inbound.items[0].configuration.headers[0].value" ∧
        ∃ path, j.path = path.text ∧
          (ReachesValue .empty modelBehindText j.code path ∨
            j.code = .emptyNamedValue ∧ MissesHeader modelBehindText path)) ∧
    MissesHeader modelBehindText (headerPath (itemPath .inbound 0) 0) ∧
    ¬ ReachesValue .empty modelBehindText .emptyNamedValue
      (headerPath (itemPath .inbound 0) 0) := by
  have hitem : ⟨.inbound, 0, .catalog requestBehindText⟩ ∈ modelBehindText.placedItems :=
    List.mem_singleton_self _
  have hkeys : ∀ i ∈ modelBehindText.catalogItems,
      (Json.object i.configuration).hasDistinctKeys = true :=
    List.forall_mem_singleton.2 (by decide)
  have hblank : IsBlankReference (.object [("name", .text "")]) :=
    isBlankReference_toJson (r := ⟨"", none⟩) (by decide)
  have hmisses : MissesHeader modelBehindText (headerPath (itemPath .inbound 0) 0) :=
    .behind (k := 1) hitem rfl rfl ⟨.text "x", List.mem_cons_self, rfl⟩ rfl hblank
  have herror : issue (headerPath (itemPath .inbound 0) 0) .emptyNamedValue
      "header 'A' references a named value with an empty name" ∈
        (modelBehindText.validate .empty).issues :=
    List.mem_append_left _ (List.mem_flatMap.2 ⟨_, hitem, List.mem_append_left _
      (List.mem_append_right _ (by decide))⟩)
  obtain ⟨hplaces, hmissed⟩ := validate_locates .empty modelBehindText hkeys
  exact ⟨hkeys, ⟨_, herror, by decide, hplaces _ herror (by decide)⟩, hmisses, hmissed _ hmisses⟩

end GatewayPolicy
