import GatewayPolicy.Proofs.Policy.Arrangement
import GatewayPolicy.Proofs.Policy.Drift
import GatewayPolicy.Proofs.Policy.RoundTrip
/-!
# Raw elements are kept

A model may hold elements that no configuration can express. They are kept as text: when the document
is written, the lines of the text are moved under the section, and when the document is read, an
element with the same content is laid out anew. If the text is in the layout of this library to begin
with, and nothing in it holds a line feed, it comes back character by character, so the document is
the same after any number of saves.
-/

namespace GatewayPolicy

open Text Xml

variable {settings : Settings} {i : Item} {items : List Item} {m : Model} {document : String}

/-! ## Raw items -/

/-- An element that is kept as text. -/
structure IsRawElement (e : Element) : Prop where
  /-- No configuration expresses it. -/
  shape : shape e = .complex
  /-- It is clean. -/
  clean : e.IsClean
  /-- It holds no line feed. -/
  unbroken : e.IsUnbroken

/-- The item is the text of a raw element. -/
inductive Item.IsRaw (settings : Settings) : Item → Prop
  /-- The element is laid out as the writer does it. -/
  | customXml {i : CustomXmlItem} {e : Element} (hraw : IsRawElement e)
      (hxml : i.xml = e.serialize settings.indentWidth) : Item.IsRaw settings (.customXml i)

/-- A raw item is written as its element, which is read as the item. -/
theorem Item.IsRaw.exists_node (h : i.IsRaw settings) :
    ∃ n, IsWrittenAs { settings } i n ∧ n.isText = false ∧
      IsReadAs settings n fun id order i' => i' = i.relabel id order := by
  cases h with
  | @customXml i e hraw hxml =>
    have hitem (id : String) (order : Int) :
        rawItem settings id order e = (Item.customXml i).relabel id order := by
      rw [rawItem, Item.relabel, hxml]
    have hself : rawItem settings i.id i.order e = .customXml i := hitem i.id i.order
    refine ⟨e.node, ?_, rfl, isReadAs_node fun e' htidy id order =>
      ⟨rawItem settings id order e', ?_, ?_⟩⟩
    · rw [← hself]
      exact (isStableAs_complex hraw.shape hraw.clean hraw.unbroken).written
    · rw [elementItem?, shape_eq_of_tidy_eq htidy, hraw.shape]
    · rw [rawItem_eq_of_tidy_eq htidy, hitem]

/-- Raw items are written as nodes without texts between them. -/
theorem exists_nodes_of_isRaw (h : ∀ i ∈ items, i.IsRaw settings) :
    ∃ ns, List.Forall₂ (IsWrittenAs { settings }) items ns ∧ (∀ n ∈ ns, n.isText = false) ∧
      List.Forall₂ (fun i n => IsReadAs settings n fun id order i' => i' = i.relabel id order)
        items ns := by
  induction items with
  | nil => exact ⟨[], .nil, by simp, .nil⟩
  | cons i items ih =>
    obtain ⟨hi, hitems⟩ := List.forall_mem_cons.1 h
    obtain ⟨n, hwritten, htext, hread⟩ := hi.exists_node
    obtain ⟨ns, hwrittens, htexts, hreads⟩ := ih hitems
    exact ⟨n :: ns, .cons hwritten hwrittens, List.forall_mem_cons.2 ⟨htext, htexts⟩,
      .cons hread hreads⟩

/-! ## Sections -/

/-- The items of the section in the order in which they are emitted, numbered anew. -/
def Section.renumbered (kind : SectionKind) (s : Section) : Section where
  includeBase := some s.includesBase
  items := s.sortedItems.zipIdx.map fun (i, k) => i.relabel (itemId kind k) k

/-- The numbers are the places of the items. -/
theorem sortedItems_renumbered (kind : SectionKind) (s : Section) :
    (s.renumbered kind).sortedItems = (s.renumbered kind).items := by
  refine List.mergeSort_of_pairwise (List.pairwise_iff_getElem.2 fun k l hk hl hlt => ?_)
  simp only [Section.renumbered, List.getElem_map, List.getElem_zipIdx, Item.order_relabel]
  simpa using hlt.le

theorem bodyLines_renumbered (w : Writer) (kind : SectionKind) (s : Section) :
    w.bodyLines (s.renumbered kind) = w.bodyLines s := by
  refine Section.bodyLines_eq_of_relabelled w (includesBase_of_includeBase rfl) ?_
  have hnumbers : s.sortedItems = s.sortedItems.zipIdx.map Prod.fst := by rw [List.zipIdx_map_fst]
  rw [sortedItems_renumbered, Section.renumbered, hnumbers, List.forall₂_map_left_iff,
    List.forall₂_map_right_iff, ← hnumbers, List.forall₂_same]
  exact fun a _ => ⟨_, _, rfl⟩

/-- What the section is read back as; an absent section is read back as a present one. -/
inductive IsReloaded (kind : SectionKind) : Option Section → Section → Prop
  /-- A section that is present keeps its items. -/
  | present (s : Section) : IsReloaded kind (some s) (s.renumbered kind)
  /-- The absent backend section forwards the request, other absent sections are empty. -/
  | absent {s' : Section} (h : IsRestoredSection kind none s') : IsReloaded kind none s'

section Present

variable {section? : Option Section} (h : ∀ s, section? = some s → ∀ i ∈ s.items, i.IsRaw settings)

include h

/-- A section of raw items is written as nodes from which it is read back with its lines. -/
theorem exists_sectionNodes_of_isRaw (kind : SectionKind) :
    ∃ ns, SectionIsWrittenAs { settings } kind section? ns ∧
      ∀ e : Element, tidyNodes e.children = tidyNodes ns →
        IsReloaded kind section? (readSection settings kind e) ∧
          ({ settings } : Writer).sectionLines kind (some (readSection settings kind e)) =
            ({ settings } : Writer).sectionLines kind section? := by
  cases section? with
  | some s =>
    obtain ⟨ns, hwritten, htexts, hread⟩ := exists_nodes_of_isRaw
      fun i hi => h s rfl i (mem_items_of_mem_sortedItems hi)
    have hseparate : HaveSeparateTexts ns := by
      refine haveSeparateTexts_of_pairwise (List.pairwise_of_forall_mem_list fun n hn m _ => ?_)
      rw [htexts n hn, Bool.false_and]
    refine ⟨_, .present hwritten hseparate, fun e htidy => ?_⟩
    obtain ⟨hbase, hitems⟩ := readSection_of_isReadAs htidy (isBlank_of_areWrittenAs hwritten)
      hread kind
    have hsection : readSection settings kind e = s.renumbered kind := by
      refine eq_of_includeBase hbase ?_
      rw [← List.forall₂_eq_eq_eq, List.forall₂_map_right_iff]
      exact hitems.flip
    rw [hsection, Writer.sectionLines, Writer.sectionLines, bodyLines_renumbered]
    exact ⟨.present s, rfl⟩
  | none =>
    have hnone {P : Element → Prop} : ∀ e, (none : Option Element) = some e → P e := by simp
    refine ⟨_, sectionIsWrittenAs_sectionNodes hnone hnone kind, fun e htidy => ?_⟩
    refine ⟨.absent ?_, sectionLines_readSection hnone hnone kind htidy⟩
    by_cases hkind : kind = .backend
    · subst hkind
      exact isRestoredSection_forwarding htidy
    · rw [sectionNodes, absentNodes, if_neg hkind] at htidy
      exact isRestoredSection_empty hkind htidy

end Present

/-! ## Saving again and again -/

/-- A document that is written for the model that it is read as stays as it is. -/
theorem saved_eq_of_toXml_eq (hread : Model.ofXml settings document = .ok m)
    (hwrite : m.toXml settings = document) (n : Nat) : saved settings n document = .ok document := by
  induction n with
  | zero => rfl
  | succ n ih =>
    rw [saved, hread, ← ih, ← hwrite]
    rfl

/-- **Raw elements are kept.** A model of raw items is read back, after any number of saves, as one
and the same model, whose sections hold the items in the order in which they are emitted, with the
same texts. -/
theorem exists_ofXml_saved (settings : Settings) (m : Model)
    (h : ∀ kind s, m.sections.get? kind = some s → ∀ i ∈ s.items, i.IsRaw settings) :
    ∃ m', (∀ n, (saved settings n (m.toXml settings)).bind (Model.ofXml settings) = .ok m') ∧
      m'.toXml settings = m.toXml settings ∧
      ∀ kind, ∃ s', m'.sections.get? kind = some s' ∧ s'.sortedItems = s'.items ∧
        IsReloaded kind (m.sections.get? kind) s' := by
  choose nodes hwritten hread using fun kind => exists_sectionNodes_of_isRaw (h kind) kind
  obtain ⟨sections, hparse, hget⟩ :=
    exists_ofXml_write fun kind => (hwritten kind).readsAs
  have hwrite : ({ scope := settings.defaultScope, sections } : Model).toXml settings =
      m.toXml settings := by
    refine toXml_eq_of_sectionLines_eq fun kind => ?_
    obtain ⟨e, htidy, hsection⟩ := hget kind
    rw [hsection]
    exact (hread kind e htidy).2
  refine ⟨_, fun n => ?_, hwrite, fun kind => ?_⟩
  · rw [saved_eq_of_toXml_eq hparse hwrite]
    exact hparse
  · obtain ⟨e, htidy, hsection⟩ := hget kind
    exact ⟨_, hsection, (isReadSection_readSection settings kind e).sortedItems_eq,
      (hread kind e htidy).1⟩

/-- A policy with a branch. -/
def branchedElement : Element where
  name := "choose"
  children := [.element "when" [("condition", "a")] [.comment " first ", .text " b & c "]]

/-- A model that lists its raw items in another order than it emits them. -/
def rawModel : Model where
  scope := .product
  sections :=
    { inbound := some { items :=
        [ .customXml ⟨"x", 5, branchedElement.serialize 2⟩,
          .customXml ⟨"y", -1, "<cors>\n  <allow />\n</cors>"⟩ ] } }

theorem isRawElement_branchedElement : IsRawElement branchedElement := by
  refine ⟨by decide, ?_, ?_⟩
  · refine .element (by decide) ⟨by simp [branchedElement], by decide, by simp [branchedElement]⟩ ?_
      (by decide +kernel)
    refine List.forall_mem_singleton.2 (.element (by decide)
      ⟨by decide, by decide, by decide +kernel⟩ ?_ (by decide +kernel))
    exact List.forall_mem_cons.2 ⟨.comment (by decide),
      List.forall_mem_singleton.2 (.text (.inr (by decide +kernel)))⟩
  · refine .element (by simp [branchedElement]) (List.forall_mem_singleton.2 (.element (by simp) ?_))
    exact List.forall_mem_cons.2 ⟨.comment (by decide),
      List.forall_mem_singleton.2 (.text (by decide +kernel))⟩

theorem isRawElement_openCors : IsRawElement openCors :=
  ⟨by decide, isClean_openCors, isUnbroken_openCors⟩

theorem exists_ofXml_saved_rawModel :
    (∀ kind s, rawModel.sections.get? kind = some s → ∀ i ∈ s.items, i.IsRaw {}) ∧
    ∃ m', (∀ n, (saved {} n (rawModel.toXml {})).bind (Model.ofXml {}) = .ok m') ∧
      m'.toXml {} = rawModel.toXml {} ∧
      ∀ kind, ∃ s', m'.sections.get? kind = some s' ∧ s'.sortedItems = s'.items ∧
        IsReloaded kind (rawModel.sections.get? kind) s' := by
  have h : ∀ kind s, rawModel.sections.get? kind = some s → ∀ i ∈ s.items, i.IsRaw {} := by
    intro kind s hs
    cases kind with
    | inbound =>
      obtain rfl := Option.some.inj hs
      refine List.forall_mem_cons.2 ⟨.customXml isRawElement_branchedElement rfl,
        List.forall_mem_singleton.2 (.customXml isRawElement_openCors ?_)⟩
      decide +kernel
    | backend => simp [rawModel, Sections.get?] at hs
    | outbound => simp [rawModel, Sections.get?] at hs
    | onError => simp [rawModel, Sections.get?] at hs
  exact ⟨h, exists_ofXml_saved {} rawModel h⟩

end GatewayPolicy
