import GatewayPolicy.Policy.Writing
import Mathlib.Data.List.Forall2
/-!
# Arrangement of items

A section stores its items in any order and emits them by ascending order, items of equal order as
they are stored. This determines the list that is emitted. Nothing of an item is written but what it
stands for: its identifier and its place only say which items go before which. So a document depends
on the items that are emitted and on their relative order alone; where they are stored, how they are
numbered and named, and what the document applies to does not show.
-/

namespace GatewayPolicy

/-! ## Sorting by a key -/

section Sorting

variable {α β : Type} {key : α → Int} {l l' : List α}

theorem le_key_trans (a b c : α) (hab : decide (key a ≤ key b) = true)
    (hbc : decide (key b ≤ key c) = true) : decide (key a ≤ key c) = true := by
  simp only [decide_eq_true_eq] at *
  exact Int.le_trans hab hbc

theorem le_key_total (a b : α) : (decide (key a ≤ key b) || decide (key b ≤ key a)) = true := by
  simp only [Bool.or_eq_true, decide_eq_true_eq]
  exact Int.le_total (key a) (key b)

theorem pairwise_mergeSort_key (key : α → Int) (l : List α) :
    (l.mergeSort fun a b => key a ≤ key b).Pairwise fun a b => key a ≤ key b :=
  (List.pairwise_mergeSort le_key_trans le_key_total l).imp of_decide_eq_true

/-- Members with one key stay in their relative order. -/
theorem filter_mergeSort (key : α → Int) (l : List α) (n : Int) :
    (l.mergeSort fun a b => key a ≤ key b).filter (fun a => key a = n) =
      l.filter fun a => key a = n := by
  have hties : (l.filter fun a => key a = n).Pairwise fun a b => decide (key a ≤ key b) = true := by
    refine List.pairwise_of_forall_mem_list fun a ha b hb => ?_
    have hka : key a = n := by simpa using (List.mem_filter.1 ha).2
    have hkb : key b = n := by simpa using (List.mem_filter.1 hb).2
    rw [hka, hkb]
    exact decide_eq_true (Int.le_refl n)
  have hsublist : (l.filter fun a => key a = n).Sublist (l.mergeSort fun a b => key a ≤ key b) :=
    List.sublist_mergeSort le_key_trans le_key_total hties List.filter_sublist
  have hfiltered := hsublist.filter fun a => decide (key a = n)
  rw [List.filter_filter] at hfiltered
  simp only [Bool.and_self] at hfiltered
  exact (hfiltered.eq_of_length ((List.mergeSort_perm l _).filter _).length_eq.symm).symm

/-- A sorted list is determined by its members of each key, in their order. -/
theorem eq_of_filter_eq (h : l.Pairwise fun a b => key a ≤ key b)
    (h' : l'.Pairwise fun a b => key a ≤ key b)
    (heq : ∀ n, l.filter (fun a => key a = n) = l'.filter fun a => key a = n) : l = l' := by
  have hmem {a : α} : a ∈ l ↔ a ∈ l' := by
    have ha := congrArg (a ∈ ·) (heq (key a))
    simpa using ha
  induction l generalizing l' with
  | nil => exact (List.eq_nil_iff_forall_not_mem.2 fun a ha => by simpa using hmem.2 ha).symm
  | cons a l ih =>
    cases l' with
    | nil => simpa using hmem.1 List.mem_cons_self
    | cons b l' =>
      obtain ⟨ha, hl⟩ := List.pairwise_cons.1 h
      obtain ⟨hb, hl'⟩ := List.pairwise_cons.1 h'
      -- Both heads have the least key, so they are the first members with it.
      have hkey : key a = key b := by
        have hab : b = a ∨ key a ≤ key b :=
          (List.mem_cons.1 (hmem.2 List.mem_cons_self)).imp_right (ha b)
        have hba : a = b ∨ key b ≤ key a :=
          (List.mem_cons.1 (hmem.1 List.mem_cons_self)).imp_right (hb a)
        rcases hab with rfl | hab
        · rfl
        · rcases hba with rfl | hba
          · rfl
          · exact Int.le_antisymm hab hba
      have hheads := heq (key a)
      rw [List.filter_cons_of_pos (by simp), List.filter_cons_of_pos (by simp [hkey])] at hheads
      obtain ⟨rfl, -⟩ := List.cons.inj hheads
      have htails (n : Int) :
          l.filter (fun a => key a = n) = l'.filter fun a => key a = n := by
        have hn := heq n
        by_cases hkn : key a = n
        · rw [List.filter_cons_of_pos (by simpa using hkn),
            List.filter_cons_of_pos (by simpa using hkn)] at hn
          exact (List.cons.inj hn).2
        · rwa [List.filter_cons_of_neg (by simpa using hkn),
            List.filter_cons_of_neg (by simpa using hkn)] at hn
      rw [ih hl hl' htails]
      intro c
      have hc := congrArg (c ∈ ·) (htails (key c))
      simpa using hc

/-- Sorting related lists gives related lists if related members compare in the same way. -/
theorem forall₂_mergeSort {R : α → β → Prop} {le : α → α → Bool} {le' : β → β → Bool}
    {bs : List β} (h : List.Forall₂ R l bs)
    (hle : ∀ a b a' b', a ∈ l → b ∈ l → R a a' → R b b' → le a b = le' a' b') :
    List.Forall₂ R (l.mergeSort le) (bs.mergeSort le') := by
  -- The pairs of related members are sorted as their components are.
  have hpairs : ∀ p ∈ l.zip bs, R p.1 p.2 := fun p hp => (List.forall₂_iff_zip.1 h).2 hp
  have hfst : (l.zip bs).map Prod.fst = l := List.map_fst_zip (Nat.le_of_eq h.length_eq)
  have hsnd : (l.zip bs).map Prod.snd = bs := List.map_snd_zip (Nat.le_of_eq h.length_eq.symm)
  have hsorted : ((l.zip bs).mergeSort fun p q => le p.1 q.1).map Prod.fst = l.mergeSort le := by
    rw [List.map_mergeSort (s := le) fun p _ q _ => rfl, hfst]
  have hsorted' : ((l.zip bs).mergeSort fun p q => le p.1 q.1).map Prod.snd = bs.mergeSort le' := by
    rw [List.map_mergeSort (fun p hp q hq => hle _ _ _ _ (List.of_mem_zip hp).1
      (List.of_mem_zip hq).1 (hpairs p hp) (hpairs q hq)), hsnd]
  rw [← hsorted, ← hsorted', List.forall₂_map_left_iff, List.forall₂_map_right_iff,
    List.forall₂_same]
  exact fun p hp => hpairs p (List.mem_mergeSort.1 hp)

end Sorting

/-! ## Items and sections -/

/-- The item with another identifier and another place. -/
def Item.relabel (id : String) (order : Int) : Item → Item
  | .catalog i => .catalog { i with id, order }
  | .fragment i => .fragment { i with id, order }
  | .customXml i => .customXml { i with id, order }
  | .expression i => .expression { i with id, order }

@[simp] theorem Item.order_relabel (id : String) (order : Int) (i : Item) :
    (i.relabel id order).order = order := by
  cases i <;> rfl

/-- The identifier and the place of an item are not written. -/
theorem renderItem_relabel (w : Writer) (id : String) (order : Int) (i : Item) :
    w.renderItem (i.relabel id order) = w.renderItem i := by
  cases i <;> rfl

/-- The items are stored in another order, in which those of equal order follow each other as they
did. -/
structure AreRearranged (is is' : List Item) : Prop where
  /-- No item is lost or repeated. -/
  perm : is'.Perm is
  /-- Items of equal order keep their relative position. -/
  ties : ∀ n, is'.filter (fun i => i.order = n) = is.filter fun i => i.order = n

/-- The items have other identifiers, and other orders that ascend where the orders did. -/
def AreRelabelled (is is' : List Item) : Prop :=
  ∃ f : Int → Int, (∀ i ∈ is, ∀ j ∈ is, i.order < j.order → f i.order < f j.order) ∧
    List.Forall₂ (fun i i' => ∃ id, i' = i.relabel id (f i.order)) is is'

/-- The sections differ in the arrangement of their items only. -/
structure Section.IsArrangedAs (s s' : Section) : Prop where
  /-- Both include the policies of the enclosing scope, or neither does. -/
  includesBase : s'.includesBase = s.includesBase
  /-- The items are stored in another order and labelled anew. -/
  items : ∃ is, AreRearranged s.items is ∧ AreRelabelled is s'.items

/-- The models differ in the arrangement of the items of their sections only, and in what is no part
of the sections. -/
def Model.IsArrangedAs (m m' : Model) : Prop :=
  ∀ kind, Option.Rel Section.IsArrangedAs (m.sections.get? kind) (m'.sections.get? kind)

namespace Section

variable {s s' : Section} {is : List Item}

/-- The items that are emitted are the stored ones, in ascending order, and those of equal order as
they are stored. No other list of items is. -/
theorem sortedItems_eq_iff : s.sortedItems = is ↔
    is.Perm s.items ∧ is.Pairwise (fun i j => i.order ≤ j.order) ∧
      ∀ n, is.filter (fun i => i.order = n) = s.items.filter fun i => i.order = n := by
  have hperm := List.mergeSort_perm s.items fun i j => i.order ≤ j.order
  have hsorted := pairwise_mergeSort_key Item.order s.items
  have hties := filter_mergeSort Item.order s.items
  constructor
  · rintro rfl
    exact ⟨hperm, hsorted, hties⟩
  · rintro ⟨-, hsorted', hties'⟩
    exact eq_of_filter_eq hsorted hsorted' fun n => (hties n).trans (hties' n).symm

theorem sortedItems_eq_of_areRearranged (h : AreRearranged s.items is) :
    is.mergeSort (fun i j => i.order ≤ j.order) = s.sortedItems := by
  have hperm := List.mergeSort_perm is fun i j => i.order ≤ j.order
  exact (sortedItems_eq_iff.2 ⟨hperm.trans h.perm, pairwise_mergeSort_key Item.order is, fun n =>
    (filter_mergeSort Item.order is n).trans (h.ties n)⟩).symm

/-- What is emitted differs in the labels only. -/
theorem IsArrangedAs.forall₂_sortedItems (h : s.IsArrangedAs s') :
    List.Forall₂ (fun i i' => ∃ id order, i' = i.relabel id order) s.sortedItems
      s'.sortedItems := by
  obtain ⟨is, hrearranged, f, hf, hlabels⟩ := h.items
  rw [← sortedItems_eq_of_areRearranged hrearranged]
  have hsorted : List.Forall₂ (fun i i' => ∃ id, i' = i.relabel id (f i.order))
      (is.mergeSort fun i j => i.order ≤ j.order) s'.sortedItems := by
    refine forall₂_mergeSort hlabels fun i j i' j' hi hj hi' hj' => ?_
    obtain ⟨id, rfl⟩ := hi'
    obtain ⟨id', rfl⟩ := hj'
    rw [Item.order_relabel, Item.order_relabel, decide_eq_decide]
    constructor
    · intro hle
      rcases Int.lt_or_eq_of_le hle with hlt | heq
      · exact Int.le_of_lt (hf i hi j hj hlt)
      · exact Int.le_of_eq (congrArg f heq)
    · intro hle
      by_contra hlt
      exact absurd hle (Int.not_le.2 (hf j hj i hi (Int.not_le.1 hlt)))
  exact hsorted.imp fun i i' ⟨id, hid⟩ => ⟨id, f i.order, hid⟩

/-- A section is written as any other one that emits the same items under other labels. -/
theorem bodyLines_eq_of_relabelled (w : Writer) (hbase : s'.includesBase = s.includesBase)
    (hitems : List.Forall₂ (fun i i' => ∃ id order, i' = i.relabel id order) s.sortedItems
      s'.sortedItems) : w.bodyLines s' = w.bodyLines s := by
  have hrendered : s'.sortedItems.map w.renderItem = s.sortedItems.map w.renderItem := by
    rw [← List.forall₂_eq_eq_eq, List.forall₂_map_left_iff, List.forall₂_map_right_iff]
    refine hitems.flip.imp ?_
    rintro i' i ⟨id, order, rfl⟩
    exact renderItem_relabel w id order i
  have hlines (is : List Item) : is.flatMap (fun i => Text.lines (w.renderItem i)) =
      (is.map w.renderItem).flatMap Text.lines := by
    rw [List.flatMap_map]
  rw [Writer.bodyLines, Writer.bodyLines, hbase, hlines, hlines, hrendered]

end Section

/-! ## Documents -/

/-- A document does not show how the items of its model are arranged, and a section emits its items
in the one order that ascends and keeps ties. -/
theorem write_eq_of_isArrangedAs :
    (∀ (w : Writer) (m m' : Model), m.IsArrangedAs m' → w.write m' = w.write m) ∧
      ∀ (s : Section) (is : List Item), s.sortedItems = is ↔
        is.Perm s.items ∧ is.Pairwise (fun i j => i.order ≤ j.order) ∧
          ∀ n, is.filter (fun i => i.order = n) = s.items.filter fun i => i.order = n := by
  refine ⟨fun w m m' h => ?_, fun s is => Section.sortedItems_eq_iff⟩
  have hsection (kind : SectionKind) : w.sectionLines kind (m'.sections.get? kind) =
      w.sectionLines kind (m.sections.get? kind) := by
    have hkind := h kind
    generalize m.sections.get? kind = section?, m'.sections.get? kind = section?' at hkind
    cases hkind with
    | some hs =>
      rw [Writer.sectionLines, Writer.sectionLines,
        Section.bodyLines_eq_of_relabelled w hs.includesBase hs.forall₂_sortedItems]
    | none => rfl
  have hsections : (fun kind => w.sectionLines kind (m'.sections.get? kind)) =
      fun kind => w.sectionLines kind (m.sections.get? kind) := funext hsection
  rw [Writer.write, Writer.write, Writer.documentLines, Writer.documentLines, hsections]

/-- Items that are stored against their order, two of them with the same one. -/
def storedModel : Model where
  scope := .api
  sections :=
    { inbound := some { items :=
        [.fragment { id := "last", order := 5, fragmentId := "audit" },
          .customXml { id := "first", order := 1, xml := "<cors />" },
          .expression { id := "second", order := 1, expression := "@(a)" }] } }

/-- The items stored as they are emitted and labelled anew, for another scope. -/
def movedModel : Model where
  scope := .operation
  operationId := some "orders"
  sections :=
    { inbound := some
        { includeBase := some true
          items :=
            [.customXml { id := "a", order := -3, xml := "<cors />" },
              .expression { id := "b", order := -3, expression := "@(a)" },
              .fragment { id := "a", order := 5, fragmentId := "audit" }] } }

theorem write_eq_of_isArrangedAs_movedModel :
    storedModel.IsArrangedAs movedModel ∧ movedModel.toXml = storedModel.toXml := by
  have harranged : storedModel.IsArrangedAs movedModel := by
    intro kind
    cases kind with
    | inbound =>
      refine .some ⟨rfl, [.customXml { id := "first", order := 1, xml := "<cors />" },
        .expression { id := "second", order := 1, expression := "@(a)" },
        .fragment { id := "last", order := 5, fragmentId := "audit" }], ⟨?_, fun n => ?_⟩,
        fun n => 2 * n - 5, by decide, ?_⟩
      · exact List.perm_append_singleton _ [_, _]
      · grind [Item.order]
      · exact .cons ⟨"a", rfl⟩ (.cons ⟨"b", rfl⟩ (.cons ⟨"a", rfl⟩ .nil))
    | _ => exact .none
  exact ⟨harranged, write_eq_of_isArrangedAs.1 {} _ _ harranged⟩

end GatewayPolicy
