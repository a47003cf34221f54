import GatewayPolicy.Proofs.Policy.ReadItems
import GatewayPolicy.Proofs.Policy.StableTemplates
/-!
# Documents that are written alike again

A document that was read is written in the layout of this library. Reading what was written and
writing it again changes nothing if the nodes that were written can be told apart: they are clean,
hold no line feeds, and what they say stays in its place. Line feeds are what the layout cannot
keep, because each line of an item is indented when it is written, also inside of values and texts.
-/

namespace GatewayPolicy

open Json Text Xml

variable {settings : Settings} {kind : SectionKind} {e : Element} {n n' : Node} {ns : List Node}
  {s s' : Section} {id : String} {order : Int} {i : Item} {m : Model}

/-! ## What is written for a section -/

/-- The element that is written for an element of a section; the mark for the enclosing scope is
written with the section. -/
def writtenElement? (settings : Settings) (e : Element) : Option Element :=
  match shape e with
  | .base => none
  | .fragment => some (fragmentElement ((fragmentReference? e).getD ""))
  | .sendRequest => some (((SendRequest.ofElement? settings e).map fun s =>
      s.writtenElement settings).getD e)
  | .simple =>
    some ((simpleCatalogItem settings "" 0 e).writtenElement settings.namedValueStyle)
  | .complex => some e

/-- The node that is written for character data of a section: expressions only. -/
def writtenCharacters? (s : String) : Option Node :=
  if isExpression (trim s) then some (.text (trim s)) else none

/-- The node that is written for a child of a section. -/
def writtenNode? (settings : Settings) : Node → Option Node
  | .element name attributes children =>
    (writtenElement? settings ⟨name, attributes, children⟩).map Element.node
  | .comment s => some (.comment s)
  | .text s => writtenCharacters? s
  | .cdata s => writtenCharacters? s

/-- The conditions under which a child of a section is written alike again. -/
structure IsSettledNode (settings : Settings) (n : Node) : Prop where
  /-- What is written is clean. -/
  clean : ∀ n', writtenNode? settings n = some n' → n'.IsClean
  /-- What is written holds no line feed. -/
  unbroken : ∀ n', writtenNode? settings n = some n' → n'.IsUnbroken
  /-- What a policy says stays in its place. -/
  place : ∀ e, n.element? = some e → shape e = .simple → KeepsItsPlace settings e
  /-- The name of a fragment is written as it is meant. -/
  reference : ∀ e, n.element? = some e → shape e = .fragment → ∀ fragmentId,
    fragmentReference? e = some fragmentId → attributeText fragmentId = escape fragmentId

/-- The conditions under which a section is written alike again. -/
structure IsSettled (settings : Settings) (e : Element) : Prop where
  /-- Each of its children is. -/
  children : ∀ n ∈ e.children, IsSettledNode settings n
  /-- No two expressions follow each other, since they would become one text. -/
  texts : HaveSeparateTexts (e.children.filterMap (writtenNode? settings))

/-! ## Children of a section -/

/-- The identifier and the order of an item are not written. -/
theorem writtenElement_simpleCatalogItem (settings : Settings) (id : String) (order : Int)
    (e : Element) (style : NamedValueStyle) :
    (simpleCatalogItem settings id order e).writtenElement style =
      (simpleCatalogItem settings "" 0 e).writtenElement style := by
  have heq : ∀ i j : CatalogItem, i.policyId = j.policyId → i.configuration = j.configuration →
      i.attributes = j.attributes → i.writtenElement style = j.writtenElement style := by
    rintro ⟨_, _, p, c, a⟩ ⟨_, _, _, _, _⟩ rfl rfl rfl
    rfl
  refine heq _ _ rfl ?_ ?_
  · rw [configuration_simpleCatalogItem, configuration_simpleCatalogItem]
  · rw [attributes_simpleCatalogItem, attributes_simpleCatalogItem]

/-- The child becomes an item that is stable as the node, or no item at all. -/
inductive IsStableNode (settings : Settings) (n : Node) : Prop where
  /-- It is no item, and nothing is written for it. -/
  | skipped (hitem : ∀ id order, nodeItem? settings id order n = none)
    (hwritten : writtenNode? settings n = none)
  /-- It is an item. -/
  | kept {n' : Node} (hwritten : writtenNode? settings n = some n')
    (hitem : ∀ id order, ∃ i, nodeItem? settings id order n = some i ∧ IsStableAs settings i n')

theorem isStableNode_characters {s : String}
    (hitem : ∀ id order, nodeItem? settings id order n = charactersItem? id order s)
    (hwritten : writtenNode? settings n = writtenCharacters? s) (h : IsSettledNode settings n) :
    IsStableNode settings n := by
  by_cases hexpression : isExpression (trim s) = true
  · have hnode : writtenNode? settings n = some (.text (trim s)) :=
      hwritten.trans (if_pos hexpression)
    refine .kept hnode fun id order =>
      ⟨.expression { id, order, expression := trim s, context := some .condition }, ?_, ?_⟩
    · rw [hitem, charactersItem?_of_isExpression hexpression]
    · exact isStableAs_expression hexpression (h.clean _ hnode) (h.unbroken _ hnode)
  · refine .skipped (fun id order => ?_) (hwritten.trans (if_neg hexpression))
    rw [hitem, charactersItem?]
    exact if_neg hexpression

theorem writtenNode?_node {E : Element} (hE : writtenElement? settings e = some E) :
    writtenNode? settings e.node = some E.node :=
  congrArg (Option.map Element.node) hE

theorem IsStableNode.of_element {E : Element} (hE : writtenElement? settings e = some E)
    (hitem : ∀ id order, ∃ i, elementItem? settings id order e = some i ∧
      IsStableAs settings i E.node) : IsStableNode settings e.node :=
  .kept (writtenNode?_node hE) hitem

/-- A reference to a fragment. -/
theorem isStableNode_fragment (hshape : shape e = .fragment) (h : IsSettledNode settings e.node) :
    IsStableNode settings e.node := by
  obtain ⟨fragmentId, hreference, htrim, hne⟩ := exists_fragmentReference? hshape
  have hE : writtenElement? settings e = some (fragmentElement fragmentId) := by
    rw [writtenElement?, hshape, hreference]
    rfl
  have hclean : IsCleanValue fragmentId := by
    have hclean := h.clean _ (writtenNode?_node hE)
    cases hclean with
    | element _ hattributes _ _ =>
      exact hattributes.values ("fragment-id", fragmentId) List.mem_cons_self
  have hunbroken : '\n' ∉ fragmentId.toList := by
    have hunbroken := h.unbroken _ (writtenNode?_node hE)
    cases hunbroken with
    | element hvalues _ => exact hvalues ("fragment-id", fragmentId) List.mem_cons_self
  refine .of_element hE fun id order => ⟨.fragment { id, order, fragmentId }, ?_, ?_⟩
  · rw [elementItem?, hshape, hreference]
    rfl
  · exact isStableAs_fragment htrim hne
      ⟨hclean, h.reference e rfl hshape fragmentId hreference, hunbroken⟩

/-- A request to another service, as a record or as it is. -/
theorem isStableNode_sendRequest (hshape : shape e = .sendRequest)
    (h : IsSettledNode settings e.node) : IsStableNode settings e.node := by
  cases hs : SendRequest.ofElement? settings e with
  | none =>
    have hE : writtenElement? settings e = some e := by
      rw [writtenElement?, hshape, hs]
      rfl
    refine .of_element hE fun id order => ⟨rawItem settings id order e, ?_, ?_⟩
    · rw [elementItem?, hshape, hs]
    · exact isStableAs_sendRequest_raw hshape hs (h.clean _ (writtenNode?_node hE))
        (h.unbroken _ (writtenNode?_node hE))
  | some s =>
    have hE : writtenElement? settings e = some (s.writtenElement settings) := by
      rw [writtenElement?, hshape, hs]
      rfl
    refine .of_element hE fun id order =>
      ⟨.catalog { id, order, policyId := SendRequest.policyId
                  configuration := s.toConfiguration }, ?_, ?_⟩
    · rw [elementItem?, hshape, hs]
    · exact isStableAs_sendRequest hs (h.clean _ (writtenNode?_node hE))
        (h.unbroken _ (writtenNode?_node hE))

/-- A policy with nothing but parameters. -/
theorem isStableNode_simple (hshape : shape e = .simple) (hname : IsName e.name)
    (hwf : AreWellFormed e.attributes) (h : IsSettledNode settings e.node) :
    IsStableNode settings e.node := by
  have hE : writtenElement? settings e =
      some ((simpleCatalogItem settings "" 0 e).writtenElement settings.namedValueStyle) := by
    rw [writtenElement?, hshape]
  refine .of_element hE fun id order => ⟨simpleItem settings id order e, ?_, ?_⟩
  · rw [elementItem?, hshape]
  · rw [← writtenElement_simpleCatalogItem settings id order] at hE ⊢
    exact (h.place e rfl hshape).isStableAs hname (shape_eq_simple_iff.1 hshape) hwf
      (h.clean _ (writtenNode?_node hE)) (h.unbroken _ (writtenNode?_node hE))

/-- A policy with structure, which is kept as it is. -/
theorem isStableNode_complex (hshape : shape e = .complex) (h : IsSettledNode settings e.node) :
    IsStableNode settings e.node := by
  have hE : writtenElement? settings e = some e := by
    rw [writtenElement?, hshape]
  refine .of_element hE fun id order => ⟨rawItem settings id order e, ?_, ?_⟩
  · rw [elementItem?, hshape]
  · exact isStableAs_complex hshape (h.clean _ (writtenNode?_node hE))
      (h.unbroken _ (writtenNode?_node hE))

theorem isStableNode_element (hwf : e.IsWellFormed) (h : IsSettledNode settings e.node) :
    IsStableNode settings e.node := by
  cases hshape : shape e with
  | base =>
    have hitem (id : String) (order : Int) :
        nodeItem? settings id order e.node = elementItem? settings id order e := rfl
    have hnode : writtenNode? settings e.node =
        (writtenElement? settings e).map Element.node := rfl
    refine .skipped (fun id order => ?_) ?_
    · rw [hitem, elementItem?, hshape]
    · rw [hnode, writtenElement?, hshape]
      rfl
  | fragment => exact isStableNode_fragment hshape h
  | sendRequest => exact isStableNode_sendRequest hshape h
  | simple =>
    cases hwf with
    | element hname hattributes _ => exact isStableNode_simple hshape hname hattributes h
  | complex => exact isStableNode_complex hshape h

theorem IsSettledNode.isStableNode (hwf : n.IsWellFormed) (h : IsSettledNode settings n) :
    IsStableNode settings n := by
  cases n with
  | element name attributes children =>
    exact isStableNode_element (e := ⟨name, attributes, children⟩) hwf h
  | text s => exact isStableNode_characters (s := s) (fun _ _ => rfl) rfl h
  | cdata s => exact isStableNode_characters (s := s) (fun _ _ => rfl) rfl h
  | comment s =>
    refine .kept rfl fun id order => ⟨_, rfl, ?_⟩
    exact isStableAs_comment (h.clean _ rfl) (h.unbroken _ rfl)

/-! ## Sections -/

theorem forall₂_isStableAs (kind : SectionKind) (h : ∀ n ∈ ns, IsStableNode settings n)
    (start : Nat) :
    List.Forall₂ (IsStableAs settings) (sectionItems settings kind start ns)
      (ns.filterMap (writtenNode? settings)) := by
  induction ns generalizing start with
  | nil => exact .nil
  | cons n ns ih =>
    obtain ⟨hn, hns⟩ := List.forall_mem_cons.1 h
    rw [sectionItems]
    cases hn with
    | skipped hitem hwritten =>
      rw [hitem, List.filterMap_cons_none hwritten]
      exact ih hns start
    | kept hwritten hitem =>
      obtain ⟨i, hi, hstable⟩ := hitem (itemId kind start) start
      rw [hi, List.filterMap_cons_some hwritten]
      exact .cons hstable (ih hns (start + 1))

/-- A section whose items are stable as the nodes, in the order in which they are stored. -/
structure IsStableSection (settings : Settings) (s : Section) (b : Bool) (ns : List Node) :
    Prop where
  /-- It says whether policies of the enclosing scope are included. -/
  base : s.includeBase = some b
  /-- The items are emitted as they are stored. -/
  sorted : s.sortedItems = s.items
  /-- The items are stable. -/
  items : List.Forall₂ (IsStableAs settings) s.items ns

theorem includesBase_of_includeBase {b : Bool} (h : s.includeBase = some b) :
    s.includesBase = b := by
  rw [Section.includesBase, h]
  cases b <;> rfl

theorem IsStableSection.forall₂_isWrittenAs {b : Bool} (h : IsStableSection settings s b ns) :
    List.Forall₂ (IsWrittenAs { settings }) s.sortedItems ns := by
  rw [h.sorted]
  exact h.items.imp fun _ _ hi => hi.written

/-- What is read back of a stable section has the lines of the section. -/
theorem IsStableSection.bodyLines_readSection {b : Bool} (h : IsStableSection settings s b ns)
    (htidy : tidyNodes e.children = tidyNodes (baseNodes b ++ ns)) (kind : SectionKind) :
    ({ settings } : Writer).bodyLines (readSection settings kind e) =
      ({ settings } : Writer).bodyLines s := by
  obtain ⟨hbase, hitems⟩ := readSection_of_isReadAs htidy
    (isBlank_of_areWrittenAs h.forall₂_isWrittenAs) (h.items.imp fun _ _ hi => hi.read) kind
  have hrender : ∀ {as : List (Item × Nat)} {is : List Item}, List.Forall₂ (fun a i' =>
      ({ settings } : Writer).renderItem i' = ({ settings } : Writer).renderItem a.1) as is →
        is.map ({ settings } : Writer).renderItem =
          (as.map Prod.fst).map ({ settings } : Writer).renderItem := by
    intro as is hall
    induction hall with
    | nil => rfl
    | cons ha _ ih => rw [List.map_cons, List.map_cons, List.map_cons, ha, ih]
  have hmap := hrender hitems
  rw [List.zipIdx_map_fst] at hmap
  have hlines (is : List Item) :
      is.flatMap (fun i => lines (({ settings } : Writer).renderItem i)) =
        (is.map ({ settings } : Writer).renderItem).flatMap lines := by
    rw [List.flatMap_map]
  rw [Writer.bodyLines, Writer.bodyLines, includesBase_of_includeBase hbase,
    includesBase_of_includeBase h.base, (isReadSection_readSection settings kind e).sortedItems_eq,
    h.sorted, hlines, hlines, hmap]

theorem IsSettled.isStableSection (h : IsSettled settings e)
    (hwf : ∀ n ∈ e.children, n.IsWellFormed) (kind : SectionKind) :
    IsStableSection settings (readSection settings kind e)
      (e.childElements.any fun child => shape child = .base)
      (e.children.filterMap (writtenNode? settings)) where
  base := rfl
  sorted := (isReadSection_readSection settings kind e).sortedItems_eq
  items := forall₂_isStableAs kind (fun n hn => (h.children n hn).isStableNode (hwf n hn)) 0

/-! ## Absent sections -/

/-- The policy that an absent backend section is written with. -/
def forwardElement : Element := ⟨"forward-request", [], []⟩

theorem renderItem_forwardElement (settings : Settings) (id : String) (order : Int) :
    ({ settings } : Writer).renderItem (simpleItem settings id order forwardElement) =
      "<forward-request />" := by
  have hsimple : IsSimple forwardElement := shape_eq_simple_iff.1 (by decide)
  have hwf : AreWellFormed forwardElement.attributes := ⟨by simp [forwardElement], by decide⟩
  have hgeneric : ∀ t, ¬ IsTemplated forwardElement t := by
    intro t ht
    have hnone : Template.ofPolicy? forwardElement.name = none := by decide
    rw [ht.template] at hnone
    simp at hnone
  rw [renderItem_simpleItem_of_generic id order hsimple hwf hgeneric, Writer.renderGeneric]
  rfl

theorem isStableAs_forwardElement (settings : Settings) (id : String) (order : Int) :
    IsStableAs settings (simpleItem settings id order forwardElement) forwardElement.node := by
  have hrender := renderItem_forwardElement settings id order
  refine ⟨isWrittenAs_of_isLine ?_ ?_ rfl, isReadAs_node fun e' htidy id' order' =>
    ⟨simpleItem settings id' order' e', ?_, ?_⟩⟩
  · rw [hrender]
    exact ⟨by decide, by decide, by decide⟩
  · rw [hrender]
    exact (readsAsElement_emptyTag (show IsName "forward-request" by decide)).inside
  · have hshape : shape forwardElement = .simple := by decide
    rw [elementItem?, shape_eq_of_tidy_eq htidy, hshape]
  · have hflat : IsFlat forwardElement := ⟨by decide, by simp [forwardElement, Element.childElements]⟩
    rw [simpleItem_eq_of_tidy_eq settings id' order' htidy hflat, renderItem_forwardElement, hrender]

/-- The section that an absent section is written like. -/
def absentSection (settings : Settings) (kind : SectionKind) : Section where
  includeBase := some false
  items := if kind = .backend then [simpleItem settings "" 0 forwardElement] else []

/-- The nodes that an absent section is written as. -/
def absentNodes (kind : SectionKind) : List Node :=
  if kind = .backend then [forwardElement.node] else []

theorem isStableSection_absentSection (settings : Settings) (kind : SectionKind) :
    IsStableSection settings (absentSection settings kind) false (absentNodes kind) := by
  by_cases hkind : kind = .backend
  · subst hkind
    exact ⟨rfl, List.mergeSort_singleton _, .cons (isStableAs_forwardElement settings "" 0) .nil⟩
  · have hitems : (absentSection settings kind).items = [] := if_neg hkind
    have hnodes : absentNodes kind = [] := if_neg hkind
    refine ⟨rfl, ?_, ?_⟩
    · rw [Section.sortedItems, hitems, List.mergeSort_nil]
    · rw [hitems, hnodes]
      exact .nil

theorem sectionLines_none (settings : Settings) (kind : SectionKind) :
    ({ settings } : Writer).sectionLines kind none =
      ({ settings } : Writer).sectionLines kind (some (absentSection settings kind)) := by
  have hbody : ({ settings } : Writer).bodyLines (absentSection settings kind) =
      if kind = .backend then ["<forward-request />"] else [] := by
    rw [Writer.bodyLines, (isStableSection_absentSection settings kind).sorted,
      includesBase_of_includeBase (isStableSection_absentSection settings kind).base, absentSection]
    by_cases hkind : kind = .backend
    · have hline : IsLine "<forward-request />".toList := ⟨by decide, by decide, by decide⟩
      simp [hkind, renderItem_forwardElement, lines_of_isLine hline]
    · simp [hkind]
  rw [Writer.sectionLines, Writer.sectionLines, hbody]

/-! ## Documents -/

/-- The nodes that a section is written as, if it is present, and the nodes that stand for it if it
is not. -/
def sectionNodes (settings : Settings) (kind : SectionKind) : Option Element → List Node
  | some e => baseNodes (e.childElements.any fun child => shape child = .base) ++
      e.children.filterMap (writtenNode? settings)
  | none => absentNodes kind

section Document

variable {e? : Option Element} (hsettled : ∀ e, e? = some e → IsSettled settings e)
  (hwf : ∀ e, e? = some e → ∀ n ∈ e.children, n.IsWellFormed)

include hsettled hwf

theorem sectionIsWrittenAs_sectionNodes (kind : SectionKind) :
    SectionIsWrittenAs { settings } kind (e?.map (readSection settings kind))
      (sectionNodes settings kind e?) := by
  cases e? with
  | some e =>
    have hsettled := hsettled e rfl
    have hstable := hsettled.isStableSection (hwf e rfl) kind
    have hpresent : SectionIsWrittenAs { settings } kind (some (readSection settings kind e))
        (baseNodes (readSection settings kind e).includesBase ++
          e.children.filterMap (writtenNode? settings)) :=
      .present hstable.forall₂_isWrittenAs hsettled.texts
    rwa [includesBase_of_includeBase hstable.base] at hpresent
  | none =>
    by_cases hkind : kind = .backend
    · have hnodes : sectionNodes settings kind none = [forwardElement.node] := if_pos hkind
      rw [hnodes]
      exact .forwarding hkind
    · have hnodes : sectionNodes settings kind none = [] := if_neg hkind
      rw [hnodes]
      exact .empty hkind

/-- What is read back of a section has its lines. -/
theorem sectionLines_readSection (kind : SectionKind) {e' : Element}
    (htidy : tidyNodes e'.children = tidyNodes (sectionNodes settings kind e?)) :
    ({ settings } : Writer).sectionLines kind (some (readSection settings kind e')) =
      ({ settings } : Writer).sectionLines kind (e?.map (readSection settings kind)) := by
  have hbody {s : Section} {b : Bool} {ns : List Node} (hs : IsStableSection settings s b ns)
      (htidy : tidyNodes e'.children = tidyNodes (baseNodes b ++ ns)) :
      ({ settings } : Writer).sectionLines kind (some (readSection settings kind e')) =
        ({ settings } : Writer).sectionLines kind (some s) :=
    congrArg (({ settings } : Writer).sectionWith kind) (hs.bodyLines_readSection htidy kind)
  cases e? with
  | some e => exact hbody ((hsettled e rfl).isStableSection (hwf e rfl) kind) htidy
  | none =>
    rw [Option.map_none, sectionLines_none]
    exact hbody (isStableSection_absentSection settings kind) htidy

end Document

theorem isWellFormed_of_find? {root : Element} (hroot : root.IsWellFormed) {p : Element → Bool}
    (he : root.childElements.find? p = some e) : ∀ n ∈ e.children, n.IsWellFormed := by
  obtain ⟨n, hn, hnode⟩ := List.mem_filterMap.1 (List.mem_of_find?_eq_some he)
  have hwf : n.IsWellFormed := by
    cases hroot with
    | element _ _ hchildren => exact hchildren n hn
  cases n with
  | element name attributes children =>
    obtain rfl := Option.some.inj hnode
    cases hwf with
    | element _ _ hchildren => exact hchildren
  | _ => simp [Node.element?] at hnode

/-- Regeneration is a fixed point: if the sections of a document are settled, what is written for the
document is read again, and what is written then is the same text. -/
theorem exists_toXml_ofXml_toXml {document : String} {root : Element}
    (hparse : Xml.parse document = .ok root) (hread : Model.ofXml settings document = .ok m)
    (hsettled : ∀ kind e, root.childElements.find? (·.name == SectionKind.elementName kind) = some e →
      IsSettled settings e) :
    ∃ m', Model.ofXml settings (m.toXml settings) = .ok m' ∧
      m'.toXml settings = m.toXml settings := by
  have hroot := isWellFormed_of_parse hparse
  obtain rfl : m = Model.ofRoot settings root := by
    rw [Model.ofXml, hparse] at hread
    dsimp only at hread
    split at hread
    · exact (Except.ok.inj hread).symm
    · simp at hread
  have hwritten (kind : SectionKind) := sectionIsWrittenAs_sectionNodes (hsettled kind)
    (fun e he => isWellFormed_of_find? hroot he) kind
  simp only [← get?_ofRoot] at hwritten
  obtain ⟨sections, hread', hsections⟩ :=
    exists_ofXml_write fun kind => (hwritten kind).readsAs
  refine ⟨_, hread', ?_⟩
  have hlines (kind : SectionKind) :
      ({ settings } : Writer).sectionLines kind (sections.get? kind) =
        ({ settings } : Writer).sectionLines kind
          ((Model.ofRoot settings root).sections.get? kind) := by
    obtain ⟨e', htidy, hget⟩ := hsections kind
    rw [hget, get?_ofRoot]
    exact sectionLines_readSection (hsettled kind) (fun e he => isWellFormed_of_find? hroot he) kind
      htidy
  rw [Model.toXml, Model.toXml, Writer.write, Writer.write, Writer.documentLines,
    Writer.documentLines]
  simp only [hlines]

/-! ## A document that is settled -/

theorem isSettledNode_of_written (hwritten : writtenNode? settings n = some n')
    (hclean : n'.IsClean) (hunbroken : n'.IsUnbroken)
    (hplace : ∀ e, n.element? = some e → shape e = .simple → KeepsItsPlace settings e)
    (hreference : ∀ e, n.element? = some e → shape e ≠ .fragment) : IsSettledNode settings n where
  clean _ h := Option.some.inj (hwritten.symm.trans h) ▸ hclean
  unbroken _ h := Option.some.inj (hwritten.symm.trans h) ▸ hunbroken
  place := hplace
  reference e he hshape := absurd hshape (hreference e he)

/-- An element without text and leaves that has no template keeps its place, if its tokens can be
written. -/
theorem keepsItsPlace_of_attributes (htemplate : Template.ofPolicy? e.name = none)
    (htext : e.trimmedText? = none) (hleaves : e.childElements = [])
    (htokens : ∀ a ∈ e.attributes, ∀ name, NamedValue.name? a.2 = some name →
      '"' ∉ name.toList ∧ '&' ∉ name.toList) : KeepsItsPlace settings e := by
  have hplain (t : Template) : ¬ IsTemplated e t := by
    intro ht
    rw [ht.template] at htemplate
    simp at htemplate
  refine ⟨htokens, fun _ key s hkey _ hs => ?_, fun ht => absurd ht (hplain _),
    fun ht => absurd ht (hplain _)⟩
  rw [parameterText?_eq_literal? hleaves (.inl htext) hkey] at hs
  simpa using (Option.filter_eq_some_iff.1 hs).2

/-- A policy with a named value. -/
def keyHeader : Element := ⟨"set-header", [("name", "a"), ("value", "\x7b\x7bkey\x7d\x7d")], []⟩

/-- A body that is an expression. -/
def guardedBody : Element := ⟨"set-body", [], [.text " @(x < \"1\") "]⟩

/-- A policy with a policy inside. -/
def openCors : Element := ⟨"cors", [], [.element "allow" [] []]⟩

/-- A section with children of several kinds. -/
def variedSection : Element where
  name := "inbound"
  children :=
    [.element "base" [] [], keyHeader.node, guardedBody.node, .comment " n ", openCors.node,
      .text "@(a)"]

/-- A document with one section. -/
def variedDocument : String :=
  "<policies><inbound><base/><set-header name=\"a\" value=\"\x7b\x7bkey\x7d\x7d\"/>" ++
  "<set-body> @(x < \"1\") </set-body><!-- n --><cors><allow/></cors>@(a)</inbound></policies>"

set_option maxRecDepth 20000 in
theorem parse_variedDocument :
    Xml.parse variedDocument = .ok ⟨"policies", [], [variedSection.node]⟩ := by
  with_unfolding_all rfl

theorem isSettledNode_keyHeader : IsSettledNode {} keyHeader.node := by
  have hwritten : writtenNode? {} keyHeader.node = some (.element "set-header"
      [("name", "a"), ("value", "$\x7b\x7bkey\x7d\x7d")] []) := by
    with_unfolding_all rfl
  refine isSettledNode_of_written hwritten ?_ (.element (by decide) (by simp)) ?_ ?_
  · exact .element (by decide) ⟨by decide, by decide, by decide +kernel⟩ (by simp)
      (by decide +kernel)
  · rintro e he -
    obtain rfl := Option.some.inj he
    have htokens : ∀ a ∈ keyHeader.attributes, (NamedValue.name? a.2).all fun name =>
        !name.toList.contains '"' && !name.toList.contains '&' := by
      decide +kernel
    refine keepsItsPlace_of_attributes (by decide) (by decide +kernel) rfl fun a ha name hname => ?_
    have htoken := htokens a ha
    rw [hname] at htoken
    simpa using htoken
  · rintro e he
    obtain rfl := Option.some.inj he
    decide

theorem isSettledNode_guardedBody : IsSettledNode {} guardedBody.node := by
  have hwritten : writtenNode? {} guardedBody.node = some (.element "set-body" []
      [.text "@(x < \"1\")"]) := by
    with_unfolding_all rfl
  have hpolicy : Template.ofPolicy? guardedBody.name = some .setBody := by decide
  have htemplated : IsTemplated guardedBody .setBody :=
    ⟨hpolicy, by simp [guardedBody], .inr (by decide +kernel)⟩
  have hother {t : Template} (ht : IsTemplated guardedBody t) : t = .setBody :=
    Option.some.inj (ht.template.symm.trans hpolicy)
  refine isSettledNode_of_written hwritten ?_ ?_ ?_ ?_
  · refine .element (by decide) ⟨by simp, by simp, by simp⟩ ?_ (by decide +kernel)
    exact List.forall_mem_singleton.2 (.text (.inr (by decide +kernel)))
  · exact .element (by simp) (List.forall_mem_singleton.2 (.text (by decide +kernel)))
  · rintro e he -
    obtain rfl := Option.some.inj he
    exact ⟨by simp [guardedBody], fun hno => absurd htemplated (hno _),
      fun ht => absurd (hother ht) (by decide), fun ht => absurd (hother ht) (by decide)⟩
  · rintro e he
    obtain rfl := Option.some.inj he
    decide

theorem isClean_openCors : openCors.IsClean := by
  refine .element (by decide) ⟨by simp [openCors], by decide, by simp [openCors]⟩ ?_
    (by decide +kernel)
  exact List.forall_mem_singleton.2
    (.element (by decide) ⟨by simp, by simp, by simp⟩ (by simp) (by decide +kernel))

theorem isUnbroken_openCors : openCors.IsUnbroken :=
  .element (by simp [openCors]) (List.forall_mem_singleton.2 (.element (by simp) (by simp)))

theorem isSettledNode_openCors : IsSettledNode {} openCors.node := by
  have hshape : shape openCors = .complex := by decide
  have hwritten : writtenNode? {} openCors.node = some openCors.node := rfl
  refine isSettledNode_of_written hwritten isClean_openCors isUnbroken_openCors ?_ ?_
  · rintro e he hsimple
    obtain rfl := Option.some.inj he
    simp [hshape] at hsimple
  · rintro e he
    obtain rfl := Option.some.inj he
    simp [hshape]

theorem isSettled_variedSection : IsSettled {} variedSection := by
  have hbase : IsSettledNode {} (.element "base" [] []) := by
    have hnone : writtenNode? {} (.element "base" [] []) = none := rfl
    refine ⟨by simp [hnone], by simp [hnone], ?_, ?_⟩
    all_goals
      rintro e he hshape
      obtain rfl := Option.some.inj he
      exact absurd hshape (by decide)
  have hcomment : IsSettledNode {} (.comment " n ") :=
    isSettledNode_of_written rfl (.comment (by decide)) (.comment (by decide))
      (by simp [Node.element?]) (by simp [Node.element?])
  have hexpression : IsSettledNode {} (.text "@(a)") := by
    have hwritten : writtenNode? {} (.text "@(a)") = some (.text "@(a)") := by
      with_unfolding_all rfl
    exact isSettledNode_of_written hwritten (.text (.inr (by decide +kernel)))
      (.text (by decide +kernel)) (by simp [Node.element?]) (by simp [Node.element?])
  constructor
  · simp only [variedSection, List.forall_mem_cons]
    exact ⟨hbase, isSettledNode_keyHeader, isSettledNode_guardedBody, hcomment,
      isSettledNode_openCors, hexpression, List.forall_mem_nil _⟩
  · decide +kernel

theorem exists_toXml_ofXml_toXml_variedDocument :
    ∃ root m, Xml.parse variedDocument = .ok root ∧ Model.ofXml {} variedDocument = .ok m ∧
      (∀ kind e, root.childElements.find? (·.name == SectionKind.elementName kind) = some e →
        IsSettled {} e) ∧
      ∃ m', Model.ofXml {} (m.toXml {}) = .ok m' ∧ m'.toXml {} = m.toXml {} := by
  have hread : Model.ofXml {} variedDocument =
      .ok (Model.ofRoot {} ⟨"policies", [], [variedSection.node]⟩) := by
    rw [Model.ofXml, parse_variedDocument]
    rfl
  have hsettled : ∀ kind e, (⟨"policies", [], [variedSection.node]⟩ : Element).childElements.find?
      (·.name == SectionKind.elementName kind) = some e → IsSettled {} e := by
    intro kind e he
    have hmem := List.mem_of_find?_eq_some he
    have heq : e = variedSection := by
      simpa [Element.childElements, Element.node, Node.element?] using hmem
    rw [heq]
    exact isSettled_variedSection
  exact ⟨_, _, parse_variedDocument, hread, hsettled,
    exists_toXml_ofXml_toXml parse_variedDocument hread hsettled⟩

end GatewayPolicy
