import GatewayPolicy.Proofs.Bindings
import GatewayPolicy.Proofs.Text.Trimming
import GatewayPolicy.Proofs.Validation.Errors
import Mathlib.Data.List.Forall2
import Mathlib.Data.List.Nodup
import Mathlib.Data.List.Perm.Basic
/-!
# Repeated identifiers and variables

Identifiers of items and variables that policies assign are names that several items may use. For
each name that at least two items use there is one warning, however often it is used: it stands at
the second user, and the one about a variable lists all of them. So the number of findings with a
code depends on what items a section has, and not on the order in which it stores them.
-/

namespace GatewayPolicy

open Json Text Validation

variable {catalog : Catalog} {m : Model} {name : String} {name? : Item → Option String}
  {ps : List PlacedItem} {code : IssueCode}

/-! ## Users of a name -/

/-- The items that use the name, in document order. -/
def usersOf (name? : Item → Option String) (ps : List PlacedItem) (name : String) :
    List PlacedItem :=
  ps.filter fun p => name? p.item = some name

/-- The names that at least two items use, each of them once. -/
structure AreRepeated (name? : Item → Option String) (ps : List PlacedItem) (names : List String) :
    Prop where
  /-- No name is listed twice. -/
  nodup : names.Nodup
  /-- The names have two users or more. -/
  mem_iff : ∀ name, name ∈ names ↔ 2 ≤ (usersOf name? ps name).length

/-- The identifier of an item. -/
def identifier? (i : Item) : Option String := some i.id

/-- The variable that an item assigns. -/
def assignedName? (i : Item) : Option String := i.catalog?.bind assignedVariable?

/-- The warning about an identifier: it stands at the second user. -/
def IsRepeatedId (ps : List PlacedItem) (id : String) (j : Issue) : Prop :=
  ∃ first second rest, usersOf identifier? ps id = first :: second :: rest ∧
    j = { path := Path.text (second.path ++ [.field "id"])
          message := "item id '" ++ id ++ "' is used more than once"
          code := .duplicateItemId }

/-- The warning about a variable: it stands at the second assignment and lists all of them. -/
def IsRepeatedVariable (ps : List PlacedItem) (name : String) (j : Issue) : Prop :=
  ∃ first second rest, usersOf assignedName? ps name = first :: second :: rest ∧
    j = { path := second.path.text
          message := "variable '" ++ name ++ "' is assigned " ++
            toString (rest.length + 2) ++ " times (" ++
            String.intercalate ", " ((first :: second :: rest).map fun p => p.path.text) ++ ")"
          code := .duplicateVariableName }

theorem usersOf_append (name? : Item → Option String) (ps qs : List PlacedItem) (name : String) :
    usersOf name? (ps ++ qs) name = usersOf name? ps name ++ usersOf name? qs name :=
  List.filter_append ..

theorem usersOf_cons_of_eq {p : PlacedItem} (h : name? p.item = some name) :
    usersOf name? (p :: ps) name = p :: usersOf name? ps name :=
  List.filter_cons_of_pos (by simpa using h)

theorem usersOf_cons_of_ne {p : PlacedItem} (h : name? p.item ≠ some name) :
    usersOf name? (p :: ps) name = usersOf name? ps name :=
  List.filter_cons_of_neg (by simpa using h)

theorem usersOf_append_cons_of_eq {p : PlacedItem} (h : name? p.item = some name)
    (done : List PlacedItem) :
    usersOf name? (done ++ p :: ps) name = usersOf name? done name ++ p :: usersOf name? ps name := by
  rw [usersOf_append, usersOf_cons_of_eq h]

/-- An item adds nothing to the users of other names. -/
theorem usersOf_concat_of_ne {p : PlacedItem} (h : name? p.item ≠ some name)
    (done : List PlacedItem) : usersOf name? (done ++ [p]) name = usersOf name? done name := by
  rw [usersOf_append, usersOf_cons_of_ne h]
  exact List.append_nil _

/-- How many items use a name does not depend on where they are. -/
theorem length_usersOf (m : Model) (name : String) :
    (usersOf name? m.placedItems name).length =
      m.items.countP fun x => name? x.2 = some name := by
  rw [items_eq_map_placedItems, List.countP_map, usersOf, List.countP_eq_length_filter]
  rfl

/-- Lists of the names that are repeated differ in their order only. -/
theorem AreRepeated.perm {qs : List PlacedItem} {names names' : List String}
    (h : AreRepeated name? ps names) (h' : AreRepeated name? qs names')
    (hlength : ∀ name, (usersOf name? ps name).length = (usersOf name? qs name).length) :
    names.Perm names' :=
  (List.perm_ext_iff_of_nodup h.nodup h'.nodup).2 fun name => by
    rw [h.mem_iff, h'.mem_iff, hlength]

/-! ## Identifiers -/

theorem count_ids (ps : List PlacedItem) (id : String) :
    (ps.map fun p => p.item.id).reverse.count id = (usersOf identifier? ps id).length := by
  rw [List.count_reverse, List.count, List.countP_map, List.countP_eq_length_filter, usersOf]
  congr 1
  refine List.filter_congr fun p _ => ?_
  simp [identifier?, Bool.beq_eq_decide_eq]

/-- Each identifier with two users or more is found at its second user, and only there. -/
theorem exists_forall₂_duplicateIdWarnings (done ps : List PlacedItem) :
    ∃ ids : List String, ids.Nodup ∧
      (∀ id, id ∈ ids ↔ (usersOf identifier? done id).length < 2 ∧
        2 ≤ (usersOf identifier? (done ++ ps) id).length) ∧
      List.Forall₂ (IsRepeatedId (done ++ ps)) ids
        (duplicateIdWarnings (done.map fun p => p.item.id).reverse ps) := by
  -- The items that were met before decide which of the others are second users.
  induction ps generalizing done with
  | nil => exact ⟨[], List.nodup_nil, by simp, .nil⟩
  | cons p ps ih =>
    obtain ⟨ids, hnodup, hmem, hissues⟩ := ih (done ++ [p])
    have hsplit : done ++ [p] ++ ps = done ++ p :: ps := by simp
    have hbefore : ((done ++ [p]).map fun p => p.item.id).reverse =
        p.item.id :: (done.map fun p => p.item.id).reverse := by simp
    rw [hsplit] at hmem hissues
    rw [hbefore] at hissues
    have hself : (usersOf identifier? (done ++ [p]) p.item.id).length =
        (usersOf identifier? done p.item.id).length + 1 := by
      rw [usersOf_append_cons_of_eq rfl, List.length_append]
      rfl
    have hother {id : String} (hid : id ≠ p.item.id) :
        usersOf identifier? (done ++ [p]) id = usersOf identifier? done id :=
      usersOf_concat_of_ne (by simpa [identifier?] using hid.symm) done
    have hall : usersOf identifier? (done ++ p :: ps) p.item.id =
        usersOf identifier? done p.item.id ++ p :: usersOf identifier? ps p.item.id :=
      usersOf_append_cons_of_eq rfl done
    rw [duplicateIdWarnings, count_ids]
    by_cases hsecond : (usersOf identifier? done p.item.id).length = 1
    · obtain ⟨first, hfirst⟩ := List.length_eq_one_iff.1 hsecond
      have hnew : p.item.id ∉ ids := fun hid => by
        have hless := ((hmem _).1 hid).1
        omega
      refine ⟨p.item.id :: ids, List.nodup_cons.2 ⟨hnew, hnodup⟩, fun id => ?_, ?_⟩
      · by_cases hid : id = p.item.id
        · subst hid
          simp only [hall, List.mem_cons_self, List.length_append, List.length_cons, hsecond,
            true_iff]
          omega
        · rw [List.mem_cons, or_iff_right hid, hmem, hother hid]
      · rw [hsecond]
        exact .cons ⟨first, p, _, by rw [hall, hfirst]; rfl, rfl⟩ hissues
    · refine ⟨ids, hnodup, fun id => ?_, ?_⟩
      · rw [hmem]
        by_cases hid : id = p.item.id
        · subst hid
          rw [hself]
          refine and_congr_left fun _ => ?_
          omega
        · rw [hother hid]
      · rw [when, if_neg (by simpa using hsecond)]
        exact hissues

theorem exists_areRepeated_ids (m : Model) :
    ∃ ids, AreRepeated identifier? m.placedItems ids ∧
      List.Forall₂ (IsRepeatedId m.placedItems) ids (duplicateIdWarnings [] m.placedItems) := by
  obtain ⟨ids, hnodup, hmem, hissues⟩ := exists_forall₂_duplicateIdWarnings [] m.placedItems
  exact ⟨ids, ⟨hnodup, fun id => by rw [hmem]; simp [usersOf]⟩, hissues⟩

/-! ## Variables -/

/-- An item adds its place to those of the variable that it assigns. -/
theorem places_addAssignment (places : NameMap (List Path)) (p : PlacedItem) (name : String) :
    ((addAssignment places p).get? name).getD [] =
      (places.get? name).getD [] ++ (usersOf assignedName? [p] name).map PlacedItem.path := by
  unfold addAssignment
  cases hp : p.item.catalog?.bind assignedVariable? with
  | none => simp [usersOf, assignedName?, hp]
  | some name' =>
    dsimp only
    rw [NameMap.get?_insert]
    by_cases hname : name = name'
    · simp [usersOf, assignedName?, hp, hname]
    · simp [usersOf, assignedName?, hp, hname, Ne.symm hname]

/-- The places of a variable are those of the items that assign it, in document order. -/
theorem places_foldl_addAssignment (places : NameMap (List Path)) (ps : List PlacedItem)
    (name : String) :
    ((ps.foldl addAssignment places).get? name).getD [] =
      (places.get? name).getD [] ++ (usersOf assignedName? ps name).map PlacedItem.path := by
  induction ps generalizing places with
  | nil => simp [usersOf]
  | cons p ps ih =>
    have hcons := usersOf_append assignedName? [p] ps name
    rw [List.foldl_cons, ih, places_addAssignment, List.append_assoc, ← List.map_append, ← hcons]
    rfl

theorem places_eq (m : Model) (name : String) :
    ((assignments m).get? name).getD [] =
      (usersOf assignedName? m.placedItems name).map PlacedItem.path := by
  rw [assignments, places_foldl_addAssignment, NameMap.get?_empty]
  rfl

/-- The variables of which several places are known have a warning each. -/
theorem forall₂_variableWarning? {bs : List (String × List Path)}
    (h : ∀ b ∈ bs, b.2 = (usersOf assignedName? ps b.1).map PlacedItem.path) :
    List.Forall₂ (IsRepeatedVariable ps) ((bs.filter fun b => 2 ≤ b.2.length).map Prod.fst)
      (bs.filterMap fun b => variableWarning? b.1 b.2) := by
  induction bs with
  | nil => exact .nil
  | cons b bs ih =>
    obtain ⟨name, paths⟩ := b
    obtain ⟨hpaths, hbs⟩ := List.forall_mem_cons.1 h
    match hps : usersOf assignedName? ps name with
    | [] =>
      simp only [hps, List.map_nil] at hpaths
      subst hpaths
      exact ih hbs
    | [_] =>
      simp only [hps, List.map_cons, List.map_nil] at hpaths
      subst hpaths
      exact ih hbs
    | first :: second :: rest =>
      simp only [hps, List.map_cons] at hpaths
      subst hpaths
      rw [List.filter_cons_of_pos (by simp), List.map_cons, List.filterMap_cons]
      refine .cons ⟨first, second, rest, hps, ?_⟩ (ih hbs)
      simp [issue, Function.comp_def]

theorem exists_areRepeated_variables (m : Model) :
    ∃ names, AreRepeated assignedName? m.placedItems names ∧ names.Pairwise (· < ·) ∧
      List.Forall₂ (IsRepeatedVariable m.placedItems) names (variableWarnings m) := by
  have hpaths : ∀ b ∈ (assignments m).entries,
      b.2 = (usersOf assignedName? m.placedItems b.1).map PlacedItem.path := by
    intro b hb
    have hget : (assignments m).get? b.1 = some b.2 := lookup_of_mem (assignments m).nodup_keys hb
    rw [← places_eq, hget, Option.getD_some]
  have hsublist := keys_filter_sublist (fun b : String × List Path => decide (2 ≤ b.2.length))
    (assignments m).entries
  refine ⟨_, ⟨(assignments m).nodup_keys.sublist hsublist, fun name => ?_⟩,
    (List.pairwise_map.2 (assignments m).ascending).sublist hsublist,
    forall₂_variableWarning? hpaths⟩
  rw [← List.length_map (f := PlacedItem.path), ← places_eq]
  constructor
  · intro h
    obtain ⟨b, hb, rfl⟩ := List.mem_map.1 h
    obtain ⟨hmem, hlength⟩ := List.mem_filter.1 hb
    have hget : (assignments m).get? b.1 = some b.2 :=
      lookup_of_mem (assignments m).nodup_keys hmem
    rw [hget, Option.getD_some]
    exact of_decide_eq_true hlength
  · intro hlength
    cases hget : (assignments m).get? name with
    | none => simp [hget] at hlength
    | some paths =>
      rw [hget, Option.getD_some] at hlength
      exact List.mem_map.2 ⟨(name, paths),
        List.mem_filter.2 ⟨mem_of_lookup hget, by simpa using hlength⟩, rfl⟩

/-! ## Findings about several items -/

/-- The codes of findings about several items. -/
def IssueCode.repetitions : List IssueCode := [duplicateItemId, duplicateVariableName]

theorem notMem_repetitions_of_mem_when {b : Bool} {path : Path} {message : String} {j : Issue}
    (h : j ∈ when b (issue path code message)) (hcode : code ∉ IssueCode.repetitions) :
    j.code ∉ IssueCode.repetitions :=
  (code_of_mem_when h).2 ▸ hcode

theorem notMem_repetitions_of_mem_scopeWarnings {j : Issue} (h : j ∈ scopeWarnings m) :
    j.code ∉ IssueCode.repetitions := by
  rcases List.mem_append.1 h with h | h
  · exact notMem_repetitions_of_mem_when h (by decide)
  · split at h
    · exact notMem_repetitions_of_mem_when h (by decide)
    · exact notMem_repetitions_of_mem_when h (by decide)

theorem notMem_repetitions_of_mem_itemWarnings {scope : Scope} {p : PlacedItem} {j : Issue}
    (h : j ∈ itemWarnings catalog scope p) : j.code ∉ IssueCode.repetitions := by
  unfold itemWarnings at h
  split at h
  · split at h
    · rcases code_of_mem_entryWarnings h with h | h | h <;> rw [h] <;> decide
    · simp at h
  · simp at h
  · exact notMem_repetitions_of_mem_when h (by decide)
  · exact notMem_repetitions_of_mem_when h (by decide)

/-- No other warning has one of these codes. -/
theorem filter_warnings (catalog : Catalog) (m : Model) (hcode : code ∈ IssueCode.repetitions) :
    (warnings catalog m).filter (·.code = code) =
      (duplicateIdWarnings [] m.placedItems ++ variableWarnings m).filter (·.code = code) := by
  have hnone {is : List Issue} (h : ∀ j ∈ is, j.code ∉ IssueCode.repetitions) :
      is.filter (·.code = code) = [] :=
    List.filter_eq_nil_iff.2 fun j hj => by
      rw [decide_eq_true_eq]
      exact fun heq => h j hj (heq ▸ hcode)
  have hitems : ∀ j ∈ m.placedItems.flatMap (itemWarnings catalog m.scope),
      j.code ∉ IssueCode.repetitions := by
    intro j hj
    obtain ⟨p, -, hj⟩ := List.mem_flatMap.1 hj
    exact notMem_repetitions_of_mem_itemWarnings hj
  rw [warnings, List.append_assoc, List.append_assoc, List.filter_append, List.filter_append,
    hnone fun j => notMem_repetitions_of_mem_scopeWarnings, hnone hitems]
  rfl

theorem filter_code_of_forall {is : List Issue} {code' : IssueCode} (h : ∀ j ∈ is, j.code = code')
    (code : IssueCode) : is.filter (·.code = code) = if code' = code then is else [] := by
  split
  · next heq => exact List.filter_eq_self.2 fun j hj => by simpa [h j hj] using heq
  · next hne => exact List.filter_eq_nil_iff.2 fun j hj => by simpa [h j hj] using hne

theorem filter_warnings_duplicateItemId (catalog : Catalog) (m : Model) :
    (warnings catalog m).filter (·.code = .duplicateItemId) =
      duplicateIdWarnings [] m.placedItems := by
  rw [filter_warnings catalog m (by decide), List.filter_append,
    filter_code_of_forall (fun _ => code_of_mem_duplicateIdWarnings),
    filter_code_of_forall (fun _ => code_of_mem_variableWarnings)]
  exact List.append_nil _

theorem filter_warnings_duplicateVariableName (catalog : Catalog) (m : Model) :
    (warnings catalog m).filter (·.code = .duplicateVariableName) = variableWarnings m := by
  rw [filter_warnings catalog m (by decide), List.filter_append,
    filter_code_of_forall (fun _ => code_of_mem_duplicateIdWarnings),
    filter_code_of_forall (fun _ => code_of_mem_variableWarnings)]
  rfl

/-! ## Counts -/

theorem count_validate (catalog : Catalog) (m : Model) (code : IssueCode) :
    (m.validate catalog).count code =
      offences catalog m.items code + (warnings catalog m).countP (·.code = code) := by
  rw [← countP_errors, ← List.countP_append, List.countP_eq_length_filter]
  rfl


theorem count_duplicateItemId (catalog : Catalog) (m : Model) :
    (m.validate catalog).count .duplicateItemId =
      (duplicateIdWarnings [] m.placedItems).length := by
  rw [count_validate, List.countP_eq_length_filter, filter_warnings_duplicateItemId]
  exact Nat.zero_add _

theorem count_duplicateVariableName (catalog : Catalog) (m : Model) :
    (m.validate catalog).count .duplicateVariableName = (variableWarnings m).length := by
  rw [count_validate, List.countP_eq_length_filter, filter_warnings_duplicateVariableName]
  exact Nat.zero_add _

/-- The sections hold the same items, in any order. -/
def Sections.IsPermutation (s s' : Sections) : Prop :=
  ∀ kind, Option.Rel (fun a b : Section => b.items.Perm a.items) (s.get? kind) (s'.get? kind)

theorem perm_items {m' : Model} (h : m.sections.IsPermutation m'.sections) :
    m'.items.Perm m.items := by
  rw [Model.items, Model.items, flatMap_present, flatMap_present]
  refine List.Perm.flatMap_left _ fun kind _ => ?_
  have hkind := h kind
  generalize m.sections.get? kind = section?, m'.sections.get? kind = section?' at hkind
  cases hkind with
  | some hs => exact hs.map _
  | none => exact .refl _

section Permutation

variable {items items' : List (SectionKind × Item)}

theorem offences_perm (catalog : Catalog) (h : items.Perm items') (code : IssueCode) :
    offences catalog items code = offences catalog items' code := by
  have hpolicies : (policiesOf items).Perm (policiesOf items') := h.filterMap _
  cases code with
  | unknownPolicy => exact hpolicies.countP_eq _
  | invalidSection => exact hpolicies.countP_eq _
  | missingRequiredParameter => exact (hpolicies.flatMap_right _).length_eq
  | emptyNamedValue => exact (hpolicies.flatMap_right _).countP_eq _
  | emptyFragmentId => exact (h.filterMap _).countP_eq _
  | _ => rfl

/-- Where an item is stored does not matter for the codes of the warnings about it. -/
theorem map_code_itemWarnings (catalog : Catalog) (scope : Scope) {p q : PlacedItem}
    (h : p.item = q.item) :
    (itemWarnings catalog scope p).map Issue.code =
      (itemWarnings catalog scope q).map Issue.code := by
  have hwhen (b : Bool) {i j : Issue} (hij : i.code = j.code) :
      (when b i).map Issue.code = (when b j).map Issue.code := by
    cases b with
    | true => exact congrArg ([·]) hij
    | false => rfl
  have hmismatch (path path' : Path) (key : String) (x : Mismatch) :
      (mismatchIssue path key x).code = (mismatchIssue path' key x).code := by
    cases x <;> rfl
  unfold itemWarnings
  rw [h]
  split
  · split
    · rw [entryWarnings, entryWarnings, List.map_append, List.map_append, List.map_filterMap,
        List.map_filterMap]
      congr 1
      · exact hwhen _ rfl
      · refine List.filterMap_congr fun ⟨key, v⟩ _ => ?_
        rw [Option.map_map, Option.map_map]
        exact Option.map_congr fun x _ => hmismatch p.path q.path key x
    · rfl
  · rfl
  · exact hwhen _ rfl
  · exact hwhen _ rfl

/-- The codes of the warnings about the items of a model. -/
theorem map_code_flatMap_itemWarnings (catalog : Catalog) (m : Model) (scope : Scope) :
    (m.placedItems.flatMap (itemWarnings catalog scope)).map Issue.code =
      m.items.flatMap fun x => (itemWarnings catalog scope ⟨x.1, 0, x.2⟩).map Issue.code := by
  rw [List.map_flatMap, items_eq_map_placedItems, List.flatMap_map]
  exact List.flatMap_congr fun p _ => map_code_itemWarnings catalog scope rfl

end Permutation

/-- The warnings about repetitions, code by code. -/
theorem countP_repetitions {m m' : Model} (h : m'.items.Perm m.items) (code : IssueCode) :
    (duplicateIdWarnings [] m'.placedItems ++ variableWarnings m').countP (·.code = code) =
      (duplicateIdWarnings [] m.placedItems ++ variableWarnings m).countP (·.code = code) := by
  have hlength (name? : Item → Option String) (name : String) :
      (usersOf name? m'.placedItems name).length = (usersOf name? m.placedItems name).length := by
    rw [length_usersOf, length_usersOf, h.countP_eq]
  obtain ⟨ids, hids, hidIssues⟩ := exists_areRepeated_ids m
  obtain ⟨ids', hids', hidIssues'⟩ := exists_areRepeated_ids m'
  obtain ⟨names, hnames, -, hnameIssues⟩ := exists_areRepeated_variables m
  obtain ⟨names', hnames', -, hnameIssues'⟩ := exists_areRepeated_variables m'
  simp only [List.countP_append, countP_code_of_forall _ fun _ => code_of_mem_duplicateIdWarnings,
    countP_code_of_forall _ fun _ => code_of_mem_variableWarnings, ← hidIssues.length_eq,
    ← hidIssues'.length_eq, ← hnameIssues.length_eq, ← hnameIssues'.length_eq,
    (hids'.perm hids (hlength _)).length_eq, (hnames'.perm hnames (hlength _)).length_eq]

/-- The order in which sections store their items does not matter for the number of findings. -/
theorem count_eq_of_perm_items {m m' : Model} (catalog : Catalog) (h : m'.items.Perm m.items)
    (hscope : scopeWarnings m' = scopeWarnings m) (hlevel : m'.scope = m.scope) (code : IssueCode) :
    (m'.validate catalog).count code = (m.validate catalog).count code := by
  have hcodes : ((m'.placedItems.flatMap (itemWarnings catalog m'.scope)).map Issue.code).Perm
      ((m.placedItems.flatMap (itemWarnings catalog m.scope)).map Issue.code) := by
    rw [map_code_flatMap_itemWarnings, map_code_flatMap_itemWarnings, hlevel]
    exact h.flatMap_right _
  have hitems : (m'.placedItems.flatMap (itemWarnings catalog m'.scope)).countP (·.code = code) =
      (m.placedItems.flatMap (itemWarnings catalog m.scope)).countP (·.code = code) := by
    have hcount := hcodes.countP_eq fun c => decide (c = code)
    rwa [List.countP_map, List.countP_map] at hcount
  have hsplit (m : Model) : (warnings catalog m).countP (·.code = code) =
      (scopeWarnings m).countP (·.code = code) +
        (m.placedItems.flatMap (itemWarnings catalog m.scope)).countP (·.code = code) +
        (duplicateIdWarnings [] m.placedItems ++ variableWarnings m).countP (·.code = code) := by
    rw [warnings, List.append_assoc, List.countP_append, List.countP_append]
  rw [count_validate, count_validate, offences_perm catalog h, hsplit, hsplit, hscope, hitems,
    countP_repetitions h]

theorem trim_of_assignedName? {i : Item} (h : assignedName? i = some name) : trim name = name := by
  have hvisible {s : String} (hs : visible? s = some name) : trim name = name := by
    unfold visible? at hs
    split at hs
    · simp at hs
    · rw [← Option.some.inj hs, trim_trim]
  obtain ⟨i, -, h⟩ := Option.bind_eq_some_iff.1 h
  obtain ⟨key, -, h⟩ := Option.bind_eq_some_iff.1 h
  rcases Option.or_eq_some_iff.1 h with h | ⟨-, h⟩
  · obtain ⟨s, -, hs⟩ := Option.bind_eq_some_iff.1 h
    exact hvisible hs
  · obtain ⟨s, -, hs⟩ := Option.bind_eq_some_iff.1 h
    exact hvisible hs

/-- Each name that is used twice or more has one warning, at its second user, and the number of
findings with a code does not depend on how sections order their items. -/
theorem repetitions_of_validate (catalog : Catalog) (m : Model) :
    (∃ ids, AreRepeated identifier? m.placedItems ids ∧
      (m.validate catalog).count .duplicateItemId = ids.length ∧
      List.Forall₂ (IsRepeatedId m.placedItems) ids
        ((m.validate catalog).warnings.filter (·.code = .duplicateItemId))) ∧
    (∃ names, AreRepeated assignedName? m.placedItems names ∧
      names.Pairwise (· < ·) ∧ (∀ name ∈ names, trim name = name) ∧
      (m.validate catalog).warnings.filter (·.code = .duplicateVariableName) =
        variableWarnings m ∧
      List.Forall₂ (IsRepeatedVariable m.placedItems) names (variableWarnings m)) ∧
    ∀ sections', m.sections.IsPermutation sections' → ∀ code,
      ({ m with sections := sections' }.validate catalog).count code =
        (m.validate catalog).count code := by
  obtain ⟨ids, hids, hidIssues⟩ := exists_areRepeated_ids m
  obtain ⟨names, hnames, hascending, hnameIssues⟩ := exists_areRepeated_variables m
  refine ⟨⟨ids, hids, ?_, ?_⟩, ⟨names, hnames, hascending, fun name hname => ?_, ?_, hnameIssues⟩,
    fun sections' hsections code => ?_⟩
  · rw [count_duplicateItemId, hidIssues.length_eq]
  · exact (filter_warnings_duplicateItemId catalog m).symm ▸ hidIssues
  · obtain ⟨p, hp⟩ := List.exists_mem_of_length_pos
      (Nat.lt_of_lt_of_le Nat.two_pos ((hnames.mem_iff name).1 hname))
    exact trim_of_assignedName? (of_decide_eq_true (List.mem_filter.1 hp).2)
  · exact filter_warnings_duplicateVariableName catalog m
  · have hitems : ({ m with sections := sections' } : Model).items.Perm m.items :=
      perm_items hsections
    exact count_eq_of_perm_items catalog hitems rfl rfl code

/-- A policy that sets a variable. -/
def assigningItem (id name : String) : Item :=
  .catalog { id, order := 0, policyId := "set-variable", configuration := [("name", .text name)] }

/-- Two identifiers and a variable are used more than once. -/
def repeatingModel : Model where
  scope := .global
  sections :=
    { inbound := some { items := [assigningItem "a" "user", assigningItem "a" "token",
        assigningItem "a" " user"] }
      outbound := some { items := [assigningItem "b" "user", assigningItem "b" "claims"] } }

/-- Its items, in another order. -/
def reorderedSections : Sections where
  inbound := some { items := [assigningItem "a" "token", assigningItem "a" "user",
    assigningItem "a" " user"] }
  outbound := some { items := [assigningItem "b" "claims", assigningItem "b" "user"] }

theorem isPermutation_reorderedSections :
    repeatingModel.sections.IsPermutation reorderedSections := by
  intro kind
  cases kind with
  | inbound => exact .some (List.Perm.swap ..)
  | outbound => exact .some (List.Perm.swap ..)
  | backend => exact .none
  | onError => exact .none

theorem repetitions_of_validate_repeatingModel :
    repeatingModel.sections.IsPermutation reorderedSections ∧
      (∀ code, ({ repeatingModel with sections := reorderedSections }.validate).count code =
        repeatingModel.validate.count code) ∧
      repeatingModel.validate.count .duplicateItemId = 2 ∧
      repeatingModel.validate.count .duplicateVariableName = 1 :=
  ⟨isPermutation_reorderedSections,
    (repetitions_of_validate Catalog.builtin repeatingModel).2.2 reorderedSections
      isPermutation_reorderedSections,
    (count_duplicateItemId _ _).trans (by decide +kernel),
    (count_duplicateVariableName _ _).trans (by decide +kernel)⟩

end GatewayPolicy
