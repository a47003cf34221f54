/-!
# Maps and sets with names as keys

A map from names to values whose entries are in ascending order of the names, by code points. The
order is part of the type, so two maps with the same bindings are equal. A set of names is a map to
the unit type.
-/

namespace GatewayPolicy

/-- Entries are in strictly ascending order of their names. -/
def NamesAscend {α : Type} (entries : List (String × α)) : Prop :=
  entries.Pairwise fun a b => a.1 < b.1

/-- A map with names as keys. -/
structure NameMap (α : Type) where
  /-- The entries in ascending order of their names. -/
  entries : List (String × α)
  /-- The order, which also rules out repeated names. -/
  ascending : NamesAscend entries

namespace NameMap

variable {α : Type}

/-- Binds a name in a list of ascending entries. -/
def insertEntry (key : String) (value : α) : List (String × α) → List (String × α)
  | [] => [(key, value)]
  | e :: rest =>
    if key < e.1 then (key, value) :: e :: rest
    else if key = e.1 then (key, value) :: rest
    else e :: insertEntry key value rest

theorem mem_insertEntry {key : String} {value : α} {e : String × α} {entries : List (String × α)}
    (h : e ∈ insertEntry key value entries) : e.1 = key ∨ e ∈ entries := by
  induction entries with
  | nil =>
    simp only [insertEntry, List.mem_singleton] at h
    exact .inl (by rw [h])
  | cons first rest ih =>
    unfold insertEntry at h
    split at h
    · rcases List.mem_cons.1 h with h | h
      · exact .inl (by rw [h])
      · exact .inr h
    · split at h
      · rcases List.mem_cons.1 h with h | h
        · exact .inl (by rw [h])
        · exact .inr (List.mem_cons_of_mem _ h)
      · rcases List.mem_cons.1 h with h | h
        · exact .inr (by rw [h]; exact List.mem_cons_self)
        · rcases ih h with h | h
          · exact .inl h
          · exact .inr (List.mem_cons_of_mem _ h)

/-- Binding a name keeps the order. -/
theorem ascending_insertEntry (key : String) (value : α) {entries : List (String × α)}
    (h : NamesAscend entries) : NamesAscend (insertEntry key value entries) := by
  induction entries with
  | nil => simp [NamesAscend, insertEntry]
  | cons first rest ih =>
    have ⟨hfirst, hrest⟩ := List.pairwise_cons.1 h
    unfold insertEntry
    split
    · rename_i hlt
      refine List.pairwise_cons.2 ⟨fun e he => ?_, h⟩
      rcases List.mem_cons.1 he with rfl | he
      · exact hlt
      · exact String.lt_trans hlt (hfirst e he)
    · rename_i hlt
      split
      · rename_i heq
        exact List.pairwise_cons.2 ⟨fun e he => heq ▸ hfirst e he, hrest⟩
      · rename_i hne
        refine List.pairwise_cons.2 ⟨fun e he => ?_, ih hrest⟩
        rcases mem_insertEntry he with he | he
        · rw [he]
          exact Std.lt_of_le_of_ne (Std.not_lt.1 hlt) (Ne.symm hne)
        · exact hfirst e he

/-- The map without entries. -/
def empty : NameMap α := ⟨[], List.Pairwise.nil⟩

instance : Inhabited (NameMap α) := ⟨empty⟩

/-- Binds a name to a value, whether it was bound or not. -/
def insert (m : NameMap α) (key : String) (value : α) : NameMap α :=
  ⟨insertEntry key value m.entries, ascending_insertEntry key value m.ascending⟩

/-- The value that a name is bound to. -/
def get? (m : NameMap α) (key : String) : Option α := m.entries.lookup key

/-- The name is bound. -/
def contains (m : NameMap α) (key : String) : Bool := m.entries.any (·.1 == key)

/-- The names in ascending order. -/
def keys (m : NameMap α) : List String := m.entries.map Prod.fst

/-- How many names are bound. -/
def size (m : NameMap α) : Nat := m.entries.length

/-- No name is bound. -/
def isEmpty (m : NameMap α) : Bool := m.entries.isEmpty

/-- The map with the bindings of a list, of which the last one for a name counts. -/
def ofList (bindings : List (String × α)) : NameMap α :=
  bindings.foldl (fun m b => m.insert b.1 b.2) empty

end NameMap

/-- A set of names. -/
abbrev NameSet := NameMap Unit

namespace NameSet

/-- Adds a name. -/
def add (s : NameSet) (name : String) : NameSet := NameMap.insert s name ()

/-- The set of the names in a list. -/
def ofNames (names : List String) : NameSet := names.foldl add NameMap.empty

end NameSet

end GatewayPolicy
