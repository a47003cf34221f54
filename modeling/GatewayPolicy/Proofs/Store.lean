import GatewayPolicy.Proofs.Bindings
import GatewayPolicy.Store
/-!
# Policies of different targets

A store files documents under the keys of their targets. A key puts the scope and the identifiers
that are there one behind the other, with slashes between. Two targets can have one key in two ways:
an identifier holds a slash, or an operation stands where an API is missing. Without those every key
has one target, and the store keeps the documents of different targets apart; each target with one of
those shares its key with a target that has neither.
-/

namespace GatewayPolicy

/-! ## Keys -/

/-- No other target of this kind has the key of the target. -/
structure Target.IsUnambiguous (t : Target) : Prop where
  apiId : ∀ id, t.apiId = some id → '/' ∉ id.toList
  operationId : t.apiId = none → t.operationId = none

/-- An identifier in a key, behind its slash. -/
def idChars : Option String → List Char
  | none => []
  | some id => '/' :: id.toList

variable {t u : Target} {a b r s : List Char} {id : String}

theorem toList_key (t : Target) :
    t.key.toList = t.scope.name.toList ++ (idChars t.apiId ++ idChars t.operationId) := by
  obtain ⟨scope, apiId, operationId⟩ := t
  rw [Target.key, String.toList_intercalate]
  cases apiId <;> cases operationId <;> simp [idChars, List.intercalate]

theorem slash_notMem_scopeName (scope : Scope) : '/' ∉ scope.name.toList := by
  cases scope <;> decide

theorem scopeName_injective {scope scope' : Scope} (h : scope.name.toList = scope'.name.toList) :
    scope = scope' := by
  revert h
  cases scope <;> cases scope' <;> decide

theorem idChars_injective {x y : Option String} (h : idChars x = idChars y) : x = y := by
  cases x with
  | none =>
    cases y with
    | none => rfl
    | some id => simp [idChars] at h
  | some id =>
    cases y with
    | none => simp [idChars] at h
    | some id' => rw [String.toList_inj.1 (List.cons.inj h).2]

/-- The part of a key in front of its first slash can be told. -/
theorem eq_of_append_eq_append (ha : '/' ∉ a) (hb : '/' ∉ b)
    (hr : r.head?.all (· == '/') = true) (hs : s.head?.all (· == '/') = true)
    (h : a ++ r = b ++ s) : a = b ∧ r = s := by
  have front {c t : List Char} (hc : '/' ∉ c) (ht : t.head?.all (· == '/') = true) :
      (c ++ t).takeWhile (· != '/') = c := by
    have hne : ∀ x ∈ c, (x != '/') = true := by
      intro x hx
      have : x ≠ '/' := fun hxs => hc (hxs ▸ hx)
      simpa using this
    rw [List.takeWhile_append_of_pos hne]
    cases t with
    | nil => simp
    | cons x t =>
      have : x = '/' := by simpa using ht
      simp [this]
  have hab : a = b := by rw [← front ha hr, h, front hb hs]
  subst hab
  exact ⟨rfl, List.append_cancel_left h⟩

theorem head?_idChars (x : Option String) : (idChars x).head?.all (· == '/') = true := by
  cases x <;> rfl

theorem head?_idChars_append (x y : Option String) :
    (idChars x ++ idChars y).head?.all (· == '/') = true := by
  cases x with
  | none => exact head?_idChars y
  | some id => rfl

/-- An unambiguous target can be read off its key. -/
theorem eq_of_key_eq (ht : t.IsUnambiguous) (hu : u.IsUnambiguous) (h : t.key = u.key) : t = u := by
  obtain ⟨scope, apiId, operationId⟩ := t
  obtain ⟨scope', apiId', operationId'⟩ := u
  have hkey := congrArg String.toList h
  rw [toList_key, toList_key] at hkey
  obtain ⟨hscope, hids⟩ := eq_of_append_eq_append (slash_notMem_scopeName _)
    (slash_notMem_scopeName _) (head?_idChars_append _ _) (head?_idChars_append _ _) hkey
  obtain rfl : scope = scope' := scopeName_injective hscope
  cases apiId with
  | none =>
    obtain rfl : operationId = none := ht.operationId rfl
    cases apiId' with
    | none =>
      obtain rfl : operationId' = none := hu.operationId rfl
      rfl
    | some id => simp [idChars] at hids
  | some id =>
    cases apiId' with
    | none =>
      obtain rfl : operationId' = none := hu.operationId rfl
      simp [idChars] at hids
    | some id' =>
      obtain ⟨hid, hoperation⟩ := eq_of_append_eq_append (ht.apiId id rfl) (hu.apiId id' rfl)
        (head?_idChars _) (head?_idChars _) (List.cons.inj hids).2
      obtain rfl : id = id' := String.toList_inj.1 hid
      obtain rfl : operationId = operationId' := idChars_injective hoperation
      rfl

/-- What stands between the scope and the end of a key is an unambiguous pair of identifiers. -/
theorem exists_isUnambiguous_of_slash (scope : Scope) (cs : List Char) :
    ∃ u : Target, u.IsUnambiguous ∧ u.scope = scope ∧
      idChars u.apiId ++ idChars u.operationId = '/' :: cs := by
  by_cases h : '/' ∈ cs
  · obtain ⟨before, after, rfl, hbefore⟩ := List.eq_append_cons_of_mem h
    refine ⟨⟨scope, some (.ofList before), some (.ofList after)⟩, ⟨?_, by simp⟩, rfl, ?_⟩
    · rintro id ⟨⟩
      rwa [String.toList_ofList]
    · simp [idChars]
  · refine ⟨⟨scope, some (.ofList cs), none⟩, ⟨?_, by simp⟩, rfl, ?_⟩
    · rintro id ⟨⟩
      rwa [String.toList_ofList]
    · simp [idChars]

/-- Every target shares its key with an unambiguous one. -/
theorem exists_isUnambiguous (t : Target) : ∃ u : Target, u.IsUnambiguous ∧ u.key = t.key := by
  have hkey {u : Target} (hscope : u.scope = t.scope)
      (hids : idChars u.apiId ++ idChars u.operationId = idChars t.apiId ++ idChars t.operationId) :
      u.key = t.key := by
    rw [← String.toList_inj, toList_key, toList_key, hscope, hids]
  cases hids : idChars t.apiId ++ idChars t.operationId with
  | nil =>
    refine ⟨⟨t.scope, none, none⟩, ⟨by simp, by simp⟩, hkey rfl ?_⟩
    rw [hids]
    rfl
  | cons c cs =>
    have hslash := head?_idChars_append t.apiId t.operationId
    rw [hids] at hslash
    obtain rfl : c = '/' := by simpa using hslash
    obtain ⟨u, hu, hscope, hids'⟩ := exists_isUnambiguous_of_slash t.scope cs
    exact ⟨u, hu, hkey hscope (hids'.trans hids.symm)⟩

/-! ## Runs -/

/-- A call that files a document for a target. -/
inductive StoreCall where
  | insert (t : Target) (xml : String)
  | save (t : Target) (xml : String)

namespace StoreCall

/-- The target that a call is about. -/
def target : StoreCall → Target
  | insert t _ => t
  | save t _ => t

/-- The document that a call stores. -/
def xml : StoreCall → String
  | insert _ xml => xml
  | save _ xml => xml

/-- What a call makes of a store. -/
def run (s : Store) : StoreCall → Except Error Store
  | insert t xml => .ok (s.insertPolicy t xml)
  | save t xml => s.save t xml

/-- What calls, one after the other, make of a store. -/
def runAll (s : Store) (calls : List StoreCall) : Except Error Store := calls.foldlM run s

/-- The document of the last call for the target. -/
def last? (calls : List StoreCall) (t : Target) : Option String :=
  (calls.filter (·.target = t)).getLast?.map xml

end StoreCall

variable {calls : List StoreCall}

/-- A call files its document under the key of its target and does nothing else. -/
theorem run_eq (s : Store) (c : StoreCall) : c.run s = .ok (s.insertPolicy c.target c.xml) := by
  cases c <;> rfl

theorem policy?_insertPolicy (s : Store) (t u : Target) (xml : String) :
    (s.insertPolicy t xml).policy? u = if u.key = t.key then some xml else s.policy? u :=
  NameMap.get?_insert s.policies t.key xml u.key

/-- A run never fails, and afterwards a target has the last document that was filed under its key,
or what it had before. -/
theorem exists_runAll (calls : List StoreCall) (s : Store) :
    ∃ s', StoreCall.runAll s calls = .ok s' ∧
      ∀ t, s'.policy? t =
        ((calls.filter (·.target.key = t.key)).getLast?.map StoreCall.xml).or (s.policy? t) := by
  induction calls generalizing s with
  | nil => exact ⟨s, rfl, fun t => rfl⟩
  | cons c calls ih =>
    obtain ⟨s', hrun, hpolicy⟩ := ih (s.insertPolicy c.target c.xml)
    refine ⟨s', ?_, ?_⟩
    · rw [StoreCall.runAll, List.foldlM_cons, run_eq]
      exact hrun
    · intro t
      rw [hpolicy t, policy?_insertPolicy]
      by_cases hkey : c.target.key = t.key
      · rw [if_pos hkey.symm, List.filter_cons_of_pos (by simpa using hkey), List.getLast?_cons]
        cases (calls.filter (·.target.key = t.key)).getLast? <;> rfl
      · rw [if_neg (Ne.symm hkey), List.filter_cons_of_neg (by simpa using hkey)]

/-- Targets whose identifiers leave their keys unambiguous are kept apart: each has the document of
the last call for it. Every other target shares its document with a target of this kind. -/
theorem exists_lookup_runAll (hcalls : ∀ c ∈ calls, c.target.IsUnambiguous) :
    (∃ s, StoreCall.runAll {} calls = .ok s ∧
      ∀ t : Target, t.IsUnambiguous → s.lookup t = .ok (StoreCall.last? calls t)) ∧
    ∀ t : Target, ¬ t.IsUnambiguous → ∃ u, u ≠ t ∧ u.IsUnambiguous ∧ ∀ xml, ∃ s,
      StoreCall.runAll {} (calls ++ [.save t xml]) = .ok s ∧ s.lookup u = .ok (some xml) := by
  constructor
  · obtain ⟨s, hrun, hpolicy⟩ := exists_runAll calls {}
    refine ⟨s, hrun, ?_⟩
    intro t ht
    have hfilter : calls.filter (·.target.key = t.key) = calls.filter (·.target = t) := by
      refine List.filter_congr fun c hc => ?_
      have hiff : c.target.key = t.key ↔ c.target = t :=
        ⟨eq_of_key_eq (hcalls c hc) ht, fun h => h ▸ rfl⟩
      simp only [hiff]
    rw [Store.lookup, hpolicy t, hfilter, StoreCall.last?]
    exact congrArg Except.ok Option.or_none
  · intro t ht
    obtain ⟨u, hu, hkey⟩ := exists_isUnambiguous t
    refine ⟨u, fun h => ht (h ▸ hu), hu, ?_⟩
    intro xml
    obtain ⟨s, hrun, hpolicy⟩ := exists_runAll (calls ++ [.save t xml]) {}
    refine ⟨s, hrun, ?_⟩
    rw [Store.lookup, hpolicy u, List.filter_append,
      List.filter_cons_of_pos (by simp [StoreCall.target, hkey]), List.filter_nil,
      List.getLast?_concat]
    rfl

/-- Two documents for one operation and one for its API. -/
def filedCalls : List StoreCall :=
  [.insert ⟨.operation, some "orders", some "get/all"⟩ "<policies />",
    .save ⟨.api, some "orders", none⟩ "<policies><inbound /></policies>",
    .save ⟨.operation, some "orders", some "get/all"⟩ "<policies><outbound /></policies>"]

theorem exists_lookup_runAll_filedCalls :
    (∀ c ∈ filedCalls, c.target.IsUnambiguous) ∧
    (∃ s, StoreCall.runAll {} filedCalls = .ok s ∧
      ∀ t : Target, t.IsUnambiguous → s.lookup t = .ok (StoreCall.last? filedCalls t)) ∧
    ∀ t : Target, ¬ t.IsUnambiguous → ∃ u, u ≠ t ∧ u.IsUnambiguous ∧ ∀ xml, ∃ s,
      StoreCall.runAll {} (filedCalls ++ [.save t xml]) = .ok s ∧ s.lookup u = .ok (some xml) := by
  have hcalls : ∀ c ∈ filedCalls, c.target.IsUnambiguous := by
    intro c hc
    simp only [filedCalls, List.mem_cons, List.not_mem_nil, or_false] at hc
    have horders : '/' ∉ "orders".toList := by decide
    rcases hc with rfl | rfl | rfl
    · exact ⟨fun id h => Option.some.inj h ▸ horders, fun h => nomatch h⟩
    · exact ⟨fun id h => Option.some.inj h ▸ horders, fun h => nomatch h⟩
    · exact ⟨fun id h => Option.some.inj h ▸ horders, fun h => nomatch h⟩
  exact ⟨hcalls, exists_lookup_runAll hcalls⟩

end GatewayPolicy
