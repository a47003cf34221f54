import GatewayPolicy.Proofs.Policy.Document
import Mathlib.Data.List.Forall2
/-!
# Sections, read child by child

The first element of each kind under the root is the section, and nothing that follows it under the
root has a say. Every child of the section that counts becomes one item, in order and numbered
without gaps, and what the item is depends on the shape of the child alone.
-/

namespace GatewayPolicy

open Text Xml

variable {settings : Settings} {kind : SectionKind} {id : String} {order : Int} {n : Node}
  {e : Element} {i : Item} {m : Model} {document : String}

/-! ## Children and items -/

/-- The child of a section stands for an item: it is an element other than the mark for the
enclosing scope, a comment, or character data with an expression. -/
def Xml.Node.countsAsItem : Node → Bool
  | .element name _ _ => name != "base"
  | .comment _ => true
  | .text s => (trim s).toList.head? == some '@'
  | .cdata s => (trim s).toList.head? == some '@'

/-- The item that a child of a section stands for, under the given name and number. -/
inductive IsItemOf (settings : Settings) (id : String) (order : Int) : Node → Item → Prop
  /-- A reference to a fragment. -/
  | fragment {e : Element} {reference : String} (hshape : shape e = .fragment)
    (hreference : e.attribute? "fragment-id" = some reference) :
    IsItemOf settings id order e.node (.fragment { id, order, fragmentId := trim reference })
  /-- A request that the configuration can express. -/
  | request {e : Element} {r : SendRequest} (hshape : shape e = .sendRequest)
    (hread : SendRequest.ofElement? settings e = some r) :
    IsItemOf settings id order e.node
      (.catalog { id, order, policyId := "send-request", configuration := r.toConfiguration })
  /-- A request that it cannot express. -/
  | rawRequest {e : Element} (hshape : shape e = .sendRequest)
    (hread : SendRequest.ofElement? settings e = none) :
    IsItemOf settings id order e.node
      (.customXml { id, order, xml := e.serialize settings.indentWidth })
  /-- An element without structure. -/
  | simple {e : Element} (hshape : shape e = .simple) :
    IsItemOf settings id order e.node
      (.catalog { id, order, policyId := e.name, configuration := simpleConfiguration settings e
                  attributes := referenceAttributes e.attributes })
  /-- An element with structure. -/
  | complex {e : Element} (hshape : shape e = .complex) :
    IsItemOf settings id order e.node
      (.customXml { id, order, xml := e.serialize settings.indentWidth })
  /-- A comment. -/
  | comment (s : String) :
    IsItemOf settings id order (.comment s) (.customXml { id, order, xml := "<!--" ++ s ++ "-->" })
  /-- An expression, marked up as CDATA or not. -/
  | expression {n : Node} (hcharacters : n.isCharacters = true) :
    IsItemOf settings id order n
      (.expression { id, order, expression := trim n.characters, context := some .condition })

theorem shape_eq_base_iff : shape e = .base ↔ e.name = "base" := by
  unfold shape
  repeat' split
  all_goals simp_all

theorem exists_elementItem? (settings : Settings) (id : String) (order : Int)
    (hname : e.name ≠ "base") :
    ∃ i, elementItem? settings id order e = some i ∧ IsItemOf settings id order e.node i := by
  cases hshape : shape e with
  | base => exact absurd (shape_eq_base_iff.1 hshape) hname
  | fragment =>
    obtain ⟨reference, hreference, hid, -⟩ := fragmentReference?_eq_some hshape
    refine ⟨_, ?_, .fragment hshape hreference⟩
    rw [elementItem?, hshape]
    simp [hid]
  | sendRequest =>
    cases hread : SendRequest.ofElement? settings e with
    | some r => exact ⟨_, by rw [elementItem?, hshape, hread]; rfl, .request hshape hread⟩
    | none => exact ⟨_, by rw [elementItem?, hshape, hread]; rfl, .rawRequest hshape hread⟩
  | simple => exact ⟨_, by rw [elementItem?, hshape]; rfl, .simple hshape⟩
  | complex => exact ⟨_, by rw [elementItem?, hshape]; rfl, .complex hshape⟩

theorem exists_charactersItem? {s : String} (hcharacters : n.isCharacters = true)
    (hs : n.characters = s) (hexpression : (trim s).toList.head? = some '@') :
    ∃ i, charactersItem? id order s = some i ∧ IsItemOf settings id order n i := by
  subst hs
  refine ⟨_, ?_, .expression hcharacters⟩
  rw [charactersItem?, isExpression, if_pos (by simpa using hexpression)]

/-- A child that counts becomes the item that it stands for. -/
theorem exists_nodeItem? (settings : Settings) (id : String) (order : Int)
    (h : n.countsAsItem = true) :
    ∃ i, nodeItem? settings id order n = some i ∧ IsItemOf settings id order n i := by
  cases n with
  | element name attributes children =>
    exact exists_elementItem? (e := ⟨name, attributes, children⟩) settings id order (bne_iff_ne.1 h)
  | comment s => exact ⟨_, rfl, .comment s⟩
  | text s =>
    rw [nodeItem?]
    exact exists_charactersItem? rfl rfl (beq_iff_eq.1 h)
  | cdata s =>
    rw [nodeItem?]
    exact exists_charactersItem? rfl rfl (beq_iff_eq.1 h)

/-- A child that does not count becomes none, and no number is used up for it. -/
theorem nodeItem?_eq_none (settings : Settings) (id : String) (order : Int)
    (h : n.countsAsItem = false) : nodeItem? settings id order n = none := by
  have hcharacters {s : String} (hs : ((trim s).toList.head? == some '@') = false) :
      charactersItem? id order s = none := by
    rw [charactersItem?, isExpression, hs]
    rfl
  cases n with
  | element name attributes children =>
    have hbase : shape ⟨name, attributes, children⟩ = .base :=
      shape_eq_base_iff.2 (by simpa [Node.countsAsItem] using h)
    rw [nodeItem?, elementItem?, hbase]
  | comment s => simp [Node.countsAsItem] at h
  | text s =>
    rw [nodeItem?]
    exact hcharacters h
  | cdata s =>
    rw [nodeItem?]
    exact hcharacters h

/-! ## Sections -/

/-- The items of a section are its children that count, one by one and in order. -/
theorem forall₂_isItemOf (settings : Settings) (kind : SectionKind) (ns : List Node)
    (start : Nat) :
    List.Forall₂ (fun (n, k) i => IsItemOf settings (itemId kind k) k n i)
      ((ns.filter Node.countsAsItem).zipIdx start) (sectionItems settings kind start ns) := by
  -- The number that is next is the only thing that one child hands on to the others.
  induction ns generalizing start with
  | nil => exact .nil
  | cons n ns ih =>
    cases hcounts : n.countsAsItem with
    | true =>
      obtain ⟨i, hi, hitem⟩ := exists_nodeItem? settings (itemId kind start) start hcounts
      rw [List.filter_cons_of_pos hcounts, List.zipIdx_cons, sectionItems, hi]
      exact .cons hitem (ih (start + 1))
    | false =>
      rw [List.filter_cons_of_neg (by simp [hcounts]), sectionItems,
        nodeItem?_eq_none settings _ _ hcounts]
      exact ih start

/-- The section holds what its element does. -/
structure IsReadFrom (settings : Settings) (kind : SectionKind) (e : Element) (s : Section) :
    Prop where
  /-- It includes the policies of the enclosing scope if some child element says so. -/
  includeBase : ∃ b, s.includeBase = some b ∧ (b = true ↔ ∃ child ∈ e.childElements,
    child.name = "base")
  /-- Its items are the children that count, in order; the n-th one has the number `n`. -/
  items : List.Forall₂ (fun (n, k) i => IsItemOf settings (kind.key ++ "-" ++ toString k) k n i)
    (e.children.filter Node.countsAsItem).zipIdx s.items

theorem isReadFrom_readSection (settings : Settings) (kind : SectionKind) (e : Element) :
    IsReadFrom settings kind e (readSection settings kind e) := by
  refine ⟨⟨_, rfl, ?_⟩, forall₂_isItemOf settings kind e.children 0⟩
  simp [List.any_eq_true, shape_eq_base_iff]

/-! ## Documents -/

/-- The section of a kind is looked up among the children of the root; nothing counts that follows
an element of the kind. -/
theorem get?_sections_of_append {root : Element} {before after : List Node}
    (hchildren : root.children = before ++ after)
    (hfound : ∃ e ∈ before.filterMap Node.element?, e.name = kind.elementName) :
    (Model.ofRoot settings root).sections.get? kind =
      ((before.filterMap Node.element?).find? (·.name == kind.elementName)).map
        (readSection settings kind) := by
  have hsome : ((before.filterMap Node.element?).find?
      (·.name == kind.elementName)).isSome = true := by
    obtain ⟨e, he, hname⟩ := hfound
    exact List.find?_isSome.2 ⟨e, he, beq_iff_eq.2 hname⟩
  rw [get?_ofRoot, Element.childElements, hchildren, List.filterMap_append, List.find?_append,
    Option.or_of_isSome hsome]

/-- A section of a model is the first element of its kind, child by child, and it is absent only if
there is none. -/
theorem sections_of_ofXml (h : Model.ofXml settings document = .ok m) :
    ∃ root, parse document = .ok root ∧ root.name = "policies" ∧ ∀ kind : SectionKind,
      ((m.sections.get? kind).isSome = true ↔
        ∃ e ∈ root.childElements, e.name = kind.elementName) ∧
      (∀ before e after, root.children = before ++ Element.node e :: after →
        (∀ e' ∈ before.filterMap Node.element?, e'.name ≠ kind.elementName) →
        e.name = kind.elementName →
        ∃ s, m.sections.get? kind = some s ∧ IsReadFrom settings kind e s) ∧
      ∀ before after after' document' root' m', root.children = before ++ after →
        (∃ e ∈ before.filterMap Node.element?, e.name = kind.elementName) →
        parse document' = .ok root' → root'.children = before ++ after' →
        Model.ofXml settings document' = .ok m' →
        m'.sections.get? kind = m.sections.get? kind := by
  obtain ⟨root, hparse, hname, rfl⟩ := exists_root_of_ofXml h
  refine ⟨root, hparse, hname, fun kind => ⟨?_, ?_, ?_⟩⟩
  · rw [get?_ofRoot, Option.isSome_map, List.find?_isSome]
    simp
  · intro before e after hchildren hbefore he
    refine ⟨_, ?_, isReadFrom_readSection settings kind e⟩
    have hnone : (before.filterMap Node.element?).find? (·.name == kind.elementName) = none :=
      List.find?_eq_none.2 fun e' he' => by simpa using hbefore e' he'
    have hfirst : [e].find? (·.name == kind.elementName) = some e :=
      List.find?_cons_of_pos (by simpa using he)
    have hsplit : root.children = (before ++ [e.node]) ++ after := by
      rw [hchildren, List.append_assoc, List.singleton_append]
    rw [get?_sections_of_append hsplit ⟨e, by simp [Element.node, Node.element?], he⟩,
      List.filterMap_append, List.find?_append, hnone, Option.none_or]
    exact congrArg _ hfirst
  · intro before after after' document' root' m' hchildren hfound hparse' hchildren' h'
    obtain ⟨root'', hparse'', -, rfl⟩ := exists_root_of_ofXml h'
    obtain rfl := Except.ok.inj (hparse'.symm.trans hparse'')
    rw [get?_sections_of_append hchildren hfound, get?_sections_of_append hchildren' hfound]

/-- A section with children of several kinds, not all of which count. -/
def mixedSection : Element :=
  ⟨"inbound", [], [.element "base" [] [], .element "a" [] [], .text "b", .cdata " @"]⟩

/-- A document with the section. -/
def mixedDocument : String :=
  "<policies><inbound><base/><a/>b<![CDATA[ @]]></inbound></policies>"

/-- A document with the section, and with more under the root behind it. -/
def repeatedDocument : String :=
  "<policies><inbound><base/><a/>b<![CDATA[ @]]></inbound><b/><inbound/>c</policies>"

theorem sections_of_ofXml_repeatedDocument :
    ∃ m m', Model.ofXml {} mixedDocument = .ok m ∧ Model.ofXml {} repeatedDocument = .ok m' ∧
      (∃ s, m.sections.get? .inbound = some s ∧ IsReadFrom {} .inbound mixedSection s) ∧
      m'.sections.get? .inbound = m.sections.get? .inbound ∧ m.sections.get? .outbound = none := by
  have hparse : parse mixedDocument = .ok ⟨"policies", [], [mixedSection.node]⟩ := by
    with_unfolding_all rfl
  have hparse' : parse repeatedDocument = .ok ⟨"policies", [], [mixedSection.node] ++
      [.element "b" [] [], .element "inbound" [] [], .text "c"]⟩ := by
    with_unfolding_all rfl
  have hread : Model.ofXml {} mixedDocument =
      .ok (Model.ofRoot {} ⟨"policies", [], [mixedSection.node]⟩) := by
    rw [Model.ofXml, hparse]
    rfl
  have hread' : ∃ m', Model.ofXml {} repeatedDocument = .ok m' := by
    rw [Model.ofXml, hparse']
    exact ⟨_, rfl⟩
  obtain ⟨m', hm'⟩ := hread'
  obtain ⟨root, hroot, -, hsections⟩ := sections_of_ofXml hread
  obtain rfl := Except.ok.inj (hparse.symm.trans hroot)
  obtain ⟨-, hfirst, hrepeated⟩ := hsections .inbound
  refine ⟨_, m', hread, hm', hfirst [] mixedSection [] rfl (by simp) rfl, ?_, rfl⟩
  exact hrepeated [mixedSection.node] [] _ repeatedDocument _ m' rfl
    ⟨mixedSection, List.mem_singleton_self _, rfl⟩ hparse' rfl hm'

end GatewayPolicy
