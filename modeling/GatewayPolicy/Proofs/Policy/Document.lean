import GatewayPolicy.Policy.Reading
import GatewayPolicy.Policy.Writing
import GatewayPolicy.Proofs.Xml.Layout
/-!
# Documents, written and read

The writer puts the items of a section under each other. If each of them is read back as one node,
the document is read back as four sections with these nodes, and a section is read back node by node.
-/

namespace GatewayPolicy

open Text Xml

variable {settings : Settings} {w : Writer} {kind : SectionKind} {s : Section} {i : Item} {n n' : Node}
  {e : Element} {items : List Item} {ns ms : List Node} {written : List (List Char × Node)}

theorem readsAsElement_emptyTag {name : String} (h : IsName name) :
    ReadsAsElement (closedChars name []) ⟨name, [], []⟩ :=
  readsAsElement_closed h areReadable_nil tidyNodes_nil

/-! ## Items -/

/-- The lines of an item where they stand in a document. -/
def Writer.itemLines (w : Writer) (i : Item) : List String :=
  (lines (w.renderItem i)).map (w.padLine 2)

/-- The item is written as the node: its lines are read back as one. -/
structure IsWrittenAs (w : Writer) (i : Item) (n : Node) : Prop where
  /-- The node is visible. -/
  visible : n.isBlank = false
  /-- The lines are read back. -/
  reads : ∃ cs, ReadsAs cs n ∧
    lineChars (w.itemLines i) = lineGap w.settings.indentWidth 2 ++ cs

theorem padLine_of_isLine {l : String} (h : IsLine l.toList) (depth : Nat) :
    w.padLine depth l = indentation w.settings.indentWidth depth ++ l := by
  have hne : l.isEmpty = false := by
    rw [Bool.eq_false_iff, ne_eq, String.isEmpty_iff]
    rintro rfl
    exact h.ne_nil rfl
  rw [Writer.padLine, hne, Settings.indent]
  simp

theorem map_padLine {ls : List String} (h : ∀ l ∈ ls, IsLine l.toList) (depth : Nat) :
    ls.map (w.padLine depth) = ls.map (indentation w.settings.indentWidth depth ++ ·) :=
  List.map_congr_left fun l hl => padLine_of_isLine (h l hl) depth

theorem itemLines_of_isLine (hline : IsLine (w.renderItem i).toList) :
    w.itemLines i = [w.settings.indent 2 ++ w.renderItem i] := by
  rw [Writer.itemLines, lines_of_isLine hline, List.map_singleton, padLine_of_isLine hline]
  rfl

/-- An item on one line is written as what its text is read back as. -/
theorem isWrittenAs_of_isLine (hline : IsLine (w.renderItem i).toList)
    (hreads : ReadsAs (w.renderItem i).toList n) (hvisible : n.isBlank = false) :
    IsWrittenAs w i n := by
  refine ⟨hvisible, _, hreads, ?_⟩
  rw [itemLines_of_isLine hline]
  simp [lineGap, Settings.indent]

theorem isWrittenAs_of_serialize (hrender : w.renderItem i = e.serialize w.settings.indentWidth)
    (hclean : e.IsClean) (hunbroken : e.IsUnbroken) : IsWrittenAs w i e.node := by
  have hlines := isLine_of_mem_nodeLines w.settings.indentWidth 0 e.node hclean hunbroken
  have hpadded := map_lines_serialize hclean hunbroken w.settings.indentWidth 2
  rw [Element.serialize, lines_unlines hlines] at hpadded
  obtain ⟨cs, hcs, heq⟩ := exists_written_node w.settings.indentWidth 2 e.node hclean rfl
  refine ⟨rfl, cs, hcs, ?_⟩
  rw [Writer.itemLines, hrender, Element.serialize, lines_unlines hlines, map_padLine hlines,
    hpadded, heq]

/-! ## Sections -/

/-- The node that stands for the enclosing scope. -/
def baseNodes (includesBase : Bool) : List Node :=
  if includesBase then [.element "base" [] []] else []

theorem isBlank_of_areWrittenAs (h : List.Forall₂ (IsWrittenAs w) items ns) :
    ∀ n ∈ ns, n.isBlank = false := by
  induction h with
  | nil => simp
  | cons hi _ ih => exact List.forall_mem_cons.2 ⟨hi.visible, ih⟩

theorem areWritten_items (h : List.Forall₂ (IsWrittenAs w) items ns) :
    ∃ written, AreWritten written ns ∧ lineChars (items.flatMap w.itemLines) =
      gappedChars (lineGap w.settings.indentWidth 2) written :=
  exists_written_flatMap (h.imp fun _ _ hi => ⟨hi.visible, hi.reads⟩)

/-- The lines inside a section are read back as the nodes that the lines of its items are read back
as, behind the mark for the enclosing scope. -/
theorem areWritten_bodyLines (hw : AreWritten written ns)
    (heq : lineChars (s.sortedItems.flatMap w.itemLines) =
      gappedChars (lineGap w.settings.indentWidth 2) written) :
    ∃ written', AreWritten written' (baseNodes s.includesBase ++ ns) ∧
      lineChars ((w.bodyLines s).map (w.padLine 2)) =
        gappedChars (lineGap w.settings.indentWidth 2) written' := by
  have hitems : (s.sortedItems.flatMap fun i => lines (w.renderItem i)).map (w.padLine 2) =
      s.sortedItems.flatMap w.itemLines := List.map_flatMap
  rw [Writer.bodyLines, List.map_append, hitems]
  cases s.includesBase with
  | false => exact ⟨written, hw, by simpa using heq⟩
  | true =>
    have hread : ReadsAs ("<base />".toList) (.element "base" [] []) :=
      (readsAsElement_emptyTag (show IsName "base" by decide)).inside
    have hline : IsLine ("<base />".toList) := ⟨by decide, by decide, by decide⟩
    refine ⟨_, hw.cons rfl hread, ?_⟩
    rw [lineChars_append, heq, gappedChars_cons, if_pos rfl, List.map_singleton,
      padLine_of_isLine hline]
    simp [lineGap]

theorem isName_elementName (kind : SectionKind) : IsName kind.elementName := by
  cases kind <;> decide

theorem eq_nil_of_gappedChars {width depth : Nat}
    (h : gappedChars (lineGap width depth) written = []) : written = [] := by
  cases written with
  | nil => rfl
  | cons p rest => simp [lineGap] at h

/-- The lines of a section are read back as an element that holds the nodes. -/
def SectionReadsAs (w : Writer) (kind : SectionKind) (section? : Option Section) (ns : List Node) :
    Prop :=
  ∃ cs, ReadsAsElement cs ⟨kind.elementName, [], ns⟩ ∧
    lineChars (w.sectionLines kind section?) = lineGap w.settings.indentWidth 1 ++ cs

/-- The lines of a section are read back as its element. -/
theorem exists_written_section (kind : SectionKind) {body : List String}
    (hw : AreWritten written ns) (hns : HaveSeparateTexts ns)
    (hlines : lineChars (body.map (w.padLine 2)) =
      gappedChars (lineGap w.settings.indentWidth 2) written) :
    ∃ cs, ReadsAsElement cs ⟨kind.elementName, [], ns⟩ ∧
      lineChars (w.sectionWith kind body) = lineGap w.settings.indentWidth 1 ++ cs := by
  rw [Writer.sectionWith]
  by_cases hbody : body = []
  · have hwritten : written = [] := by
      refine eq_nil_of_gappedChars (hlines.symm.trans ?_)
      rw [hbody]
      rfl
    have hnodes : tidyNodes ns = [] := by rw [hw.tidyNodes_eq, hwritten, List.map_nil]
    refine ⟨_, readsAsElement_closed (isName_elementName kind) areReadable_nil hnodes, ?_⟩
    simp [hbody, closedChars, lineGap, Settings.indent]
  · refine ⟨_, readsAsElement_element (isName_elementName kind) areReadable_nil
      (isBlankRun_lineGap w.settings.indentWidth 2) (isBlankRun_lineGap w.settings.indentWidth 1)
      (hw.areSeparate hns) hw.tidyNodes_eq, ?_⟩
    rw [← hlines]
    simp [hbody, elementChars, lineGap, Settings.indent, toList_endTag]

/-- The section of a model is written as the nodes. -/
inductive SectionIsWrittenAs (w : Writer) (kind : SectionKind) : Option Section → List Node → Prop
  /-- A section that is present has one node for each item. -/
  | present {s : Section} {ns : List Node} (hitems : List.Forall₂ (IsWrittenAs w) s.sortedItems ns)
      (htexts : HaveSeparateTexts ns) :
      SectionIsWrittenAs w kind (some s) (baseNodes s.includesBase ++ ns)
  /-- The absent backend section forwards the request. -/
  | forwarding (h : kind = .backend) :
      SectionIsWrittenAs w kind none [.element "forward-request" [] []]
  /-- Other absent sections are empty. -/
  | empty (h : kind ≠ .backend) : SectionIsWrittenAs w kind none []

theorem haveSeparateTexts_baseNodes (b : Bool) (h : HaveSeparateTexts ns) :
    HaveSeparateTexts (baseNodes b ++ ns) := by
  cases b with
  | false => exact h
  | true =>
    rw [baseNodes, if_pos rfl, List.singleton_append, HaveSeparateTexts,
      visibleNodes_cons (by rfl)]
    exact List.isChain_cons.2 ⟨fun n _ => by rfl, h⟩

/-- A section that is present is read back as what the lines of its items are read back as. -/
theorem sectionReadsAs_of_areWritten (hw : AreWritten written ns) (htexts : HaveSeparateTexts ns)
    (heq : lineChars (s.sortedItems.flatMap w.itemLines) =
      gappedChars (lineGap w.settings.indentWidth 2) written) :
    SectionReadsAs w kind (some s) (baseNodes s.includesBase ++ ns) := by
  obtain ⟨written', hw', hlines⟩ := areWritten_bodyLines hw heq
  exact exists_written_section kind hw' (haveSeparateTexts_baseNodes _ htexts) hlines

theorem SectionIsWrittenAs.readsAs {section? : Option Section}
    (h : SectionIsWrittenAs w kind section? ns) : SectionReadsAs w kind section? ns := by
  cases h with
  | present hitems htexts =>
    obtain ⟨written, hw, heq⟩ := areWritten_items hitems
    exact sectionReadsAs_of_areWritten hw htexts heq
  | forwarding hkind =>
    have hread : ReadsAs ("<forward-request />".toList) (.element "forward-request" [] []) :=
      (readsAsElement_emptyTag (show IsName "forward-request" by decide)).inside
    have hline : IsLine ("<forward-request />".toList) := ⟨by decide, by decide, by decide⟩
    rw [SectionReadsAs, Writer.sectionLines, if_pos hkind]
    refine exists_written_section kind (areWritten_nil.cons rfl hread) (by decide) ?_
    rw [List.map_singleton, padLine_of_isLine hline]
    simp [lineGap]
  | empty hkind =>
    rw [SectionReadsAs, Writer.sectionLines, if_neg hkind]
    exact exists_written_section kind areWritten_nil (by decide) rfl

/-! ## Documents -/

theorem toList_write (w : Writer) (m : Model) :
    (w.write m).toList = elementChars rootName []
      (lineChars (SectionKind.all.flatMap fun kind => w.sectionLines kind (m.sections.get? kind)) ++
        ['\n']) := by
  rw [Writer.write, Writer.documentLines, List.singleton_append, List.cons_append,
    toList_unlines_cons, lineChars_append]
  simp [elementChars, toList_endTag]

theorem areWritten_sections {sections : Sections} {nodes : SectionKind → List Node}
    (h : ∀ kind, SectionReadsAs w kind (sections.get? kind) (nodes kind))
    (kinds : List SectionKind) :
    ∃ written, AreWritten written
        (kinds.map fun kind => (⟨kind.elementName, [], nodes kind⟩ : Element).node) ∧
      lineChars (kinds.flatMap fun kind => w.sectionLines kind (sections.get? kind)) =
        gappedChars (lineGap w.settings.indentWidth 1) written := by
  refine exists_written_flatMap (List.forall₂_map_right_iff.2 (List.forall₂_same.2 fun kind _ => ?_))
  obtain ⟨cs, hcs, hlines⟩ := h kind
  exact ⟨rfl, cs, hcs.inside, hlines⟩

/-- Only the lines of its sections make the document of a model. -/
theorem toXml_eq_of_sectionLines_eq {m m' : Model}
    (h : ∀ kind, ({ settings } : Writer).sectionLines kind (m'.sections.get? kind) =
      ({ settings } : Writer).sectionLines kind (m.sections.get? kind)) :
    m'.toXml settings = m.toXml settings := by
  rw [Model.toXml, Model.toXml, Writer.write, Writer.write, Writer.documentLines,
    Writer.documentLines]
  simp only [h]

/-- A model is read back as the elements of its sections. -/
theorem exists_parse_write {m : Model} {nodes : SectionKind → List Node}
    (h : ∀ kind, SectionReadsAs w kind (m.sections.get? kind) (nodes kind)) :
    ∃ root : Element, parse (w.write m) = .ok root ∧ root.name = rootName ∧
      root.childElements.map Element.tidy =
        SectionKind.all.map fun kind => (⟨kind.elementName, [], nodes kind⟩ : Element).tidy := by
  obtain ⟨written, hw, heq⟩ := areWritten_sections h SectionKind.all
  have htexts : HaveSeparateTexts
      (SectionKind.all.map fun kind => (⟨kind.elementName, [], nodes kind⟩ : Element).node) :=
    haveSeparateTexts_of_pairwise (List.pairwise_map.2 (List.pairwise_of_forall fun _ _ => rfl))
  have hfin : IsBlankRun ['\n'] := isBlankRun_cons.2 ⟨by decide, isBlankRun_nil⟩
  have hread := readsAsElement_element (show IsName rootName by decide) areReadable_nil
    (isBlankRun_lineGap w.settings.indentWidth 1) hfin (hw.areSeparate htexts) hw.tidyNodes_eq
  rw [← heq, ← toList_write] at hread
  obtain ⟨root, hparse, htidy⟩ := hread.parse
  refine ⟨root, hparse, name_eq_of_tidy_eq htidy, ?_⟩
  have hchildren := congrArg Element.childElements htidy
  rw [childElements_tidy, childElements_tidy, Element.childElements, Element.childElements,
    List.filterMap_map] at hchildren
  rw [Element.childElements, hchildren]
  rfl

/-! ## Reading -/

theorem ofElementName?_elementName (kind : SectionKind) :
    SectionKind.ofElementName? kind.elementName = some kind := by
  cases kind <;> decide

theorem elementName_of_ofElementName? {name : String}
    (h : SectionKind.ofElementName? name = some kind) : kind.elementName = name := by
  simpa using List.find?_some h

theorem get?_set_sections (sections : Sections) (kind' : SectionKind) (v : Option Section)
    (kind : SectionKind) :
    (sections.set kind' v).get? kind = if kind = kind' then v else sections.get? kind := by
  cases kind <;> cases kind' <;> rfl

/-- An element under the root is taken as the section with its name, unless there is one. -/
theorem get?_addSection (settings : Settings) (sections : Sections) (e : Element)
    (kind : SectionKind) :
    (addSection settings sections e).get? kind =
      (sections.get? kind).or
        (if e.name = kind.elementName then some (readSection settings kind e) else none) := by
  rw [addSection]
  cases hk : SectionKind.ofElementName? e.name with
  | none =>
    have hne : e.name ≠ kind.elementName := by
      intro heq
      rw [heq, ofElementName?_elementName] at hk
      simp at hk
    rw [if_neg hne, Option.or_none]
  | some kind' =>
    have hname := elementName_of_ofElementName? hk
    dsimp only
    by_cases heq : kind = kind'
    · subst heq
      rw [if_pos hname.symm]
      cases hget : sections.get? kind with
      | none => rw [if_neg (by simp), get?_set_sections, if_pos rfl, Option.none_or]
      | some s => rw [if_pos (by simp), hget, Option.some_or]
    · have hne : e.name ≠ kind.elementName := by
        intro hname'
        rw [hname', ofElementName?_elementName] at hk
        exact heq (Option.some.inj hk)
      rw [if_neg hne, Option.or_none]
      split
      · rfl
      · rw [get?_set_sections, if_neg heq]

/-- The first element with the name of a section is the section. -/
theorem get?_foldl_addSection (settings : Settings) (es : List Element) (sections : Sections)
    (kind : SectionKind) :
    (es.foldl (addSection settings) sections).get? kind =
      (sections.get? kind).or ((es.find? (·.name == kind.elementName)).map
        (readSection settings kind)) := by
  induction es generalizing sections with
  | nil => simp
  | cons e es ih =>
    rw [List.foldl_cons, ih, get?_addSection, Option.or_assoc]
    congr 1
    by_cases hname : e.name = kind.elementName
    · rw [if_pos hname, List.find?_cons_of_pos (by simpa using hname)]
      rfl
    · rw [if_neg hname, List.find?_cons_of_neg (by simpa using hname)]
      rfl

theorem get?_ofRoot (settings : Settings) (root : Element) (kind : SectionKind) :
    (Model.ofRoot settings root).sections.get? kind =
      (root.childElements.find? (·.name == kind.elementName)).map (readSection settings kind) := by
  rw [Model.ofRoot, get?_foldl_addSection]
  cases kind <;> rfl

theorem exists_root_of_ofXml {m : Model} {document : String}
    (h : Model.ofXml settings document = .ok m) :
    ∃ root, parse document = .ok root ∧ root.name = rootName ∧ m = Model.ofRoot settings root := by
  unfold Model.ofXml at h
  split at h
  · simp at h
  · rename_i root hparse
    split at h
    · rename_i hname
      exact ⟨root, hparse, hname, (Except.ok.inj h).symm⟩
    · simp at h

/-- A model is read back section by section. -/
theorem exists_ofXml_write {m : Model} {nodes : SectionKind → List Node}
    (h : ∀ kind, SectionReadsAs { settings } kind (m.sections.get? kind) (nodes kind)) :
    ∃ sections : Sections, Model.ofXml settings (m.toXml settings) =
        .ok { scope := settings.defaultScope, sections } ∧
      ∀ kind, ∃ e : Element, tidyNodes e.children = tidyNodes (nodes kind) ∧
        sections.get? kind = some (readSection settings kind e) := by
  obtain ⟨root, hparse, hname, hchildren⟩ := exists_parse_write h
  refine ⟨(Model.ofRoot settings root).sections, ?_, fun kind => ?_⟩
  · rw [Model.ofXml, Model.toXml, hparse]
    dsimp only
    rw [if_pos hname, Model.ofRoot]
  · have hfind : (root.childElements.map Element.tidy).find? (·.name == kind.elementName) =
        some (⟨kind.elementName, [], nodes kind⟩ : Element).tidy := by
      rw [hchildren, List.find?_map]
      exact congrArg _ (ofElementName?_elementName kind)
    rw [List.find?_map] at hfind
    obtain ⟨e, he, htidy⟩ := Option.map_eq_some_iff.1 hfind
    refine ⟨e, tidyNodes_children_of_tidy_eq htidy, ?_⟩
    rw [get?_ofRoot]
    exact congrArg _ he

/-! ## Sections, read -/

/-- A reference to a fragment names one. -/
theorem fragmentReference?_eq_some (hshape : shape e = .fragment) :
    ∃ reference, e.attribute? "fragment-id" = some reference ∧
      fragmentReference? e = some (trim reference) ∧ trim reference ≠ "" := by
  have hsome : (fragmentReference? e).isSome = true := by
    unfold shape at hshape
    repeat' split at hshape
    all_goals simp_all
  obtain ⟨fragmentId, hfragment⟩ := Option.isSome_iff_exists.1 hsome
  obtain ⟨hmap, hne⟩ := Option.filter_eq_some_iff.1 hfragment
  obtain ⟨reference, hreference, rfl⟩ := Option.map_eq_some_iff.1 hmap
  exact ⟨reference, hreference, hfragment, by simpa using hne⟩

theorem nodeItem?_of_isBlank (settings : Settings) (id : String) (order : Int)
    (h : n.isBlank = true) : nodeItem? settings id order n = none := by
  cases n with
  | text s =>
    have hs : trim s = "" := trim_eq_empty_iff.2 h
    rw [nodeItem?, charactersItem?, hs]
    exact if_neg (by decide)
  | _ => simp [Node.isBlank] at h

/-- Blank texts carry no meaning. -/
theorem sectionItems_visibleNodes (settings : Settings) (kind : SectionKind) (start : Nat)
    (ns : List Node) :
    sectionItems settings kind start (visibleNodes ns) = sectionItems settings kind start ns := by
  induction ns generalizing start with
  | nil => rfl
  | cons n ns ih =>
    cases hb : n.isBlank with
    | true =>
      rw [visibleNodes_cons_of_isBlank hb, ih, sectionItems, nodeItem?_of_isBlank settings _ _ hb]
    | false =>
      rw [visibleNodes_cons hb, sectionItems, sectionItems, ih, ih]

/-- The node is the mark for the enclosing scope. -/
def isBaseNode (n : Node) : Bool := n.element?.any fun e => shape e = .base

theorem any_base_eq (e : Element) :
    (e.childElements.any fun child => shape child = .base) =
      (visibleNodes e.children).any isBaseNode := by
  rw [Element.childElements]
  induction e.children with
  | nil => rfl
  | cons n ns ih =>
    cases hb : n.isBlank with
    | true =>
      have hn : n.element? = none := by
        cases n with
        | element => simp [Node.isBlank] at hb
        | _ => rfl
      rw [visibleNodes_cons_of_isBlank hb, List.filterMap_cons_none hn, ih]
    | false =>
      rw [visibleNodes_cons hb, List.any_cons, ← ih, isBaseNode]
      cases hn : n.element? with
      | none => rw [List.filterMap_cons_none hn, Option.any_none, Bool.false_or]
      | some child => rw [List.filterMap_cons_some hn, List.any_cons, Option.any_some]

theorem isBaseNode_of_tidy_eq (h : n'.tidy = n.tidy) : isBaseNode n' = isBaseNode n := by
  cases n with
  | element name attributes children =>
    cases n' with
    | element name' attributes' children' =>
      have hshape : shape ⟨name', attributes', children'⟩ = shape ⟨name, attributes, children⟩ := by
        refine shape_eq_of_tidy_eq ?_
        rw [Node.tidy, Node.tidy] at h
        obtain ⟨hname, hattributes, hchildren⟩ := Node.element.inj h
        rw [Element.tidy, Element.tidy, hname, hattributes, hchildren]
      simp [isBaseNode, Node.element?, hshape]
    | _ => simp [Node.tidy] at h
  | _ => cases n' <;> simp_all [Node.tidy, isBaseNode, Node.element?]

/-- The mark for the enclosing scope is no item. -/
theorem nodeItem?_of_isBaseNode (settings : Settings) (id : String) (order : Int)
    (h : isBaseNode n = true) : nodeItem? settings id order n = none := by
  cases n with
  | element name attributes children =>
    have hshape : shape ⟨name, attributes, children⟩ = .base := by
      simpa [isBaseNode, Node.element?] using h
    rw [nodeItem?, elementItem?, hshape]
  | _ => simp [isBaseNode, Node.element?] at h

/-- Whatever has the tidy form of the node is read as an item with the property. -/
def IsReadAs (settings : Settings) (n : Node) (P : String → Int → Item → Prop) : Prop :=
  ∀ n' : Node, n'.tidy = n.tidy → ∀ id order, ∃ i, nodeItem? settings id order n' = some i ∧
    P id order i

theorem IsReadAs.imp {P Q : String → Int → Item → Prop} (h : IsReadAs settings n P)
    (himp : ∀ id order i, P id order i → Q id order i) : IsReadAs settings n Q := by
  intro n' hn' id order
  obtain ⟨i, hi, hP⟩ := h n' hn' id order
  exact ⟨i, hi, himp id order i hP⟩

theorem isReadAs_node {P : String → Int → Item → Prop}
    (h : ∀ e' : Element, e'.tidy = e.tidy → ∀ id order,
      ∃ i, elementItem? settings id order e' = some i ∧ P id order i) :
    IsReadAs settings e.node P := by
  intro n hn id order
  obtain ⟨e', rfl, htidy⟩ := exists_element_of_tidy_eq hn
  obtain ⟨i, hi, hP⟩ := h e' htidy id order
  exact ⟨i, by rw [Element.node, nodeItem?, hi], hP⟩

variable {α : Type} {P : α → String → Int → Item → Prop} {as : List α} {b : Bool}

/-- Nodes are read as items one by one, numbered in order. -/
theorem forall₂_sectionItems (h : List.Forall₂ (fun a n => IsReadAs settings n (P a)) as ns)
    (hms : List.Forall₂ (fun m n => m.tidy = n.tidy) ms ns) (kind : SectionKind) (start : Nat) :
    List.Forall₂ (fun (a : α × Nat) i => P a.1 (itemId kind a.2) a.2 i) (as.zipIdx start)
      (sectionItems settings kind start ms) := by
  induction h generalizing ms start with
  | nil =>
    cases hms
    exact .nil
  | @cons a n as ns ha has ih =>
    cases hms with
    | cons hm hms =>
      obtain ⟨i, hi, hP⟩ := ha _ hm (itemId kind start) start
      rw [sectionItems, hi, List.zipIdx_cons]
      exact .cons hP (ih hms (start + 1))

/-- Nodes that are read as items are no marks for the enclosing scope. -/
theorem any_isBaseNode_eq_false (h : List.Forall₂ (fun a n => IsReadAs settings n (P a)) as ns)
    (hms : List.Forall₂ (fun m n => m.tidy = n.tidy) ms ns) : ms.any isBaseNode = false := by
  induction h generalizing ms with
  | nil =>
    cases hms
    rfl
  | cons ha has ih =>
    cases hms with
    | @cons m _ ms _ hm hms =>
      have hbase : isBaseNode m = false := by
        by_contra hbase
        obtain ⟨i, hi, -⟩ := ha m hm "" 0
        rw [nodeItem?_of_isBaseNode settings "" 0 (by simpa using hbase)] at hi
        simp at hi
      rw [List.any_cons, hbase, Bool.false_or, ih hms]

/-- What is read of a section that is written as a mark for the enclosing scope and nodes. -/
theorem readSection_of_isReadAs
    (htidy : tidyNodes e.children = tidyNodes (baseNodes b ++ ns))
    (hvisible : ∀ n ∈ ns, n.isBlank = false)
    (h : List.Forall₂ (fun a n => IsReadAs settings n (P a)) as ns) (kind : SectionKind) :
    (readSection settings kind e).includeBase = some b ∧
      List.Forall₂ (fun (a : α × Nat) i => P a.1 (itemId kind a.2) a.2 i) as.zipIdx
        (readSection settings kind e).items := by
  have hall := forall₂_visibleNodes htidy
  have hnodes : visibleNodes ns = ns := List.filter_eq_self.2 fun n hn => by simp [hvisible n hn]
  rw [readSection, any_base_eq, ← sectionItems_visibleNodes]
  cases b with
  | false =>
    rw [baseNodes, if_neg (by simp), List.nil_append, hnodes] at hall
    exact ⟨congrArg some (any_isBaseNode_eq_false h hall), forall₂_sectionItems h hall kind 0⟩
  | true =>
    rw [baseNodes, if_pos rfl, List.singleton_append, visibleNodes_cons rfl, hnodes] at hall
    cases hm : visibleNodes e.children with
    | nil =>
      rw [hm] at hall
      cases hall
    | cons m ms =>
      rw [hm] at hall
      cases hall with
      | cons hbase hall =>
        have hm : isBaseNode m = true := by
          rw [isBaseNode_of_tidy_eq hbase]
          decide
        refine ⟨congrArg some (by rw [List.any_cons, hm, Bool.true_or]), ?_⟩
        rw [sectionItems, nodeItem?_of_isBaseNode settings _ _ hm]
        exact forall₂_sectionItems h hall kind 0

end GatewayPolicy
