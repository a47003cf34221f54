import GatewayPolicy.Proofs.Policy.ItemLayout
import GatewayPolicy.Proofs.Policy.RoundTrip
import GatewayPolicy.Proofs.Policy.WrittenReferences
import GatewayPolicy.Proofs.Validation.ReadModels
/-!
# Named values of a document

The named values of a model are collected from its configurations and attributes, while those of a
document are what the reader takes for tokens in it. The two walks agree on policies whose references
are plain: then a document refers to nothing that its model does not refer to.
-/

namespace GatewayPolicy

open Json Text Xml

variable {names : List String} {settings : Settings} {i : CatalogItem} {c : Fields} {t : Template}
  {e : Element} {n : Node} {ns ms : List Node} {kind : SectionKind} {k : Nat}

/-! ## Nodes of a section -/

/-- A policy that is read of the node, wherever layout puts blanks, refers to the names only. -/
def ReadsWithin (settings : Settings) (names : List String) (n : Node) : Prop :=
  ∀ n' : Node, n'.tidy = n.tidy → ∀ id order i, nodeItem? settings id order n' = some (.catalog i) →
    ∀ name ∈ i.namedValues, name ∈ names

theorem ReadsWithin.mono {names' : List String} (h : ReadsWithin settings names n)
    (hsub : ∀ name ∈ names, name ∈ names') : ReadsWithin settings names' n :=
  fun n' htidy id order i hi name hname => hsub name (h n' htidy id order i hi name hname)

theorem readsWithin_of_holdsWithin (h : e.node.HoldsWithin names)
    (hnames : ∀ c ∈ e.childElements, c.name ≠ "set-header") :
    ReadsWithin settings names e.node := by
  intro n htidy id order i hi
  obtain ⟨e', rfl, heq⟩ := exists_element_of_tidy_eq htidy
  refine namedValues_of_elementItem? (h.of_tidy_eq htidy) (fun c hc => ?_) hi
  have hchildren := congrArg Element.childElements heq
  rw [childElements_tidy, childElements_tidy] at hchildren
  have hmem : c.tidy ∈ e.childElements.map Element.tidy := by
    rw [← hchildren]
    exact List.mem_map_of_mem hc
  obtain ⟨c', hc', heq'⟩ := List.mem_map.1 hmem
  rw [name_eq_of_tidy_eq heq'.symm]
  exact hnames c' hc'

theorem childElements_padded (k : Nat) (e : Element) :
    (e.padded k).childElements = e.childElements.map (Element.padded k) := by
  rw [Element.childElements, Element.padded, paddedNodes_eq, List.filterMap_map,
    Element.childElements, List.map_filterMap]
  refine List.filterMap_congr fun n _ => ?_
  cases n with
  | element name attributes children => rfl
  | _ => rfl

theorem readsWithin_padded (h : e.node.HoldsWithin names)
    (hlines : ∀ name ∈ names, '\n' ∉ name.toList)
    (hnames : ∀ c ∈ e.childElements, c.name ≠ "set-header") (k : Nat) :
    ReadsWithin settings names (e.padded k).node := by
  refine readsWithin_of_holdsWithin ?_ fun c hc => ?_
  · rw [node_padded]
    exact h.padded hlines k
  · rw [childElements_padded] at hc
    obtain ⟨c', hc', rfl⟩ := List.mem_map.1 hc
    exact hnames c' hc'

/-- What stays raw is no policy. -/
theorem readsWithin_of_complex (h : shape e = .complex) : ReadsWithin settings names e.node := by
  intro n htidy id order i hi
  obtain ⟨e', rfl, heq⟩ := exists_element_of_tidy_eq htidy
  rw [Element.node, nodeItem?, elementItem?, shape_eq_of_tidy_eq heq, h] at hi
  simp [rawItem] at hi

theorem readsWithin_of_isBaseNode (h : isBaseNode n = true) : ReadsWithin settings names n := by
  intro n' htidy id order i hi
  rw [nodeItem?_of_isBaseNode settings id order ((isBaseNode_of_tidy_eq htidy).trans h)] at hi
  simp at hi

theorem readsWithin_emptyElement (name : String) :
    ReadsWithin settings names (.element name [] []) :=
  readsWithin_of_holdsWithin (e := ⟨name, [], []⟩)
    (holdsWithin_of_texts (o := none) (by simp) (by simp))
    (by simp [Element.childElements])

/-! ## Policies -/

/-- What is written for the policy is read as what it stands for. -/
inductive CatalogItem.HasReadableForm (settings : Settings) (i : CatalogItem) : Prop where
  | sendRequest (hpolicy : i.policyId = SendRequest.policyId)
    (hclean : ((SendRequest.ofConfiguration i.configuration).toElement settings).IsClean)
  | generic (hpolicy : i.policyId ≠ SendRequest.policyId) (htemplated : i.templated? = none)
    (hlegible : i.IsLegible settings.namedValueStyle)
  | template {t : Template} {c : Fields} (htemplated : i.templated? = some (t, c))
    (ht : t ≠ .choose) (hclean : (t.element settings.namedValueStyle c).IsClean)
  | branches {c : Fields} (htemplated : i.templated? = some (.choose, c))
    (hbranches : AreBranches { settings } c)

theorem name_ne_of_mem_childElements_element {style : NamedValueStyle} {child : Element}
    (h : child ∈ (t.element style c).childElements) : child.name ≠ "set-header" := by
  obtain ⟨n, hn, heq⟩ := List.mem_filterMap.1 h
  have htext {o : Option String} (hn : n ∈ (o.map Node.text).toList) : child.name ≠ "set-header" := by
    obtain ⟨s, -, rfl⟩ := Option.map_eq_some_iff.1 (Option.mem_toList.1 hn)
    simp [Node.element?] at heq
  cases t with
  | checkHeader =>
    obtain ⟨s, -, rfl⟩ := List.mem_map.1 hn
    obtain rfl := Option.some.inj heq
    show "value" ≠ "set-header"
    decide
  | trace =>
    obtain ⟨s, -, rfl⟩ := Option.map_eq_some_iff.1 (Option.mem_toList.1 hn)
    obtain rfl := Option.some.inj heq
    show "message" ≠ "set-header"
    decide
  | choose => exact absurd hn List.not_mem_nil
  | _ => exact htext hn

theorem shape_padded_checkHeader {style : NamedValueStyle}
    (hvalues : Template.texts style c "values" ≠ []) (k : Nat) :
    shape ((Template.checkHeader.element style c).padded k) = .complex := by
  obtain ⟨v, vs, hvs⟩ := List.exists_cons_of_ne_nil hvalues
  rw [shape, Element.padded, Template.element, hvs]
  rfl

/-- What is read of a policy refers to the named values that are collected from it. -/
theorem exists_isWrittenAs_readsWithin (hform : i.HasReadableForm settings)
    (hrefs : i.HasPlainReferences settings.namedValueStyle) :
    ∃ n, IsWrittenAs { settings } (.catalog i) n ∧ n.isText = false ∧
      ReadsWithin settings i.namedValues n := by
  have hlines : ∀ name ∈ i.namedValues, '\n' ∉ name.toList :=
    fun name hname => (hrefs.names name hname).2
  have hconfiguration := referWithin_configuration i
  cases hform with
  | sendRequest hpolicy hclean =>
    have hrender : ({ settings } : Writer).renderItem (.catalog i) = Element.serialize
        ((SendRequest.ofConfiguration i.configuration).toElement settings) settings.indentWidth := by
      rw [Writer.renderItem, Writer.renderCatalog, if_pos hpolicy]
    have hrecord :=
      SendRequest.refersWithin_ofConfiguration hconfiguration (hrefs.headerNames hpolicy)
    have htimeout : ∀ v, (SendRequest.ofConfiguration i.configuration).timeout = some v →
        JoinsNoToken settings.namedValueStyle v :=
      fun v hv => hrefs.lists _ (mem_of_lookup (Option.filter_eq_some_iff.1 hv).1)
    have hholds : ((SendRequest.ofConfiguration i.configuration).toElement
        settings).node.HoldsWithin i.namedValues :=
      SendRequest.holdsWithin_toElement hrefs.trimmed hrecord htimeout (hrefs.headerValues hpolicy)
    exact ⟨_, isWrittenAs_padded hrender hclean, rfl, readsWithin_padded hholds hlines
      (fun _ => SendRequest.name_ne_of_mem_childElements) _⟩
  | generic hpolicy htemplated hlegible =>
    have hrender : ({ settings } : Writer).renderItem (.catalog i) =
        ({ settings } : Writer).renderGeneric i := by
      rw [Writer.renderItem, Writer.renderCatalog_eq settings i hpolicy, htemplated]
    refine ⟨_, isWrittenAs_padded_generic hlegible hrender, rfl,
      readsWithin_padded (holdsWithin_genericElement hrefs) hlines (fun child hchild => ?_) _⟩
    obtain ⟨n, hn, heq⟩ := List.mem_filterMap.1 hchild
    obtain ⟨s, -, rfl⟩ := Option.map_eq_some_iff.1 (Option.mem_toList.1 hn)
    simp [Node.element?] at heq
  | @template t c htemplated ht hclean =>
    have hrender : ({ settings } : Writer).renderItem (.catalog i) =
        (t.element settings.namedValueStyle c).serialize settings.indentWidth := by
      rw [renderItem_of_templated? htemplated, Template.render_of_ne_choose ht]
    refine ⟨_, isWrittenAs_padded hrender hclean, rfl, ?_⟩
    by_cases hvalues : t = .checkHeader ∧ Template.texts settings.namedValueStyle c "values" ≠ []
    · obtain ⟨rfl, hvalues⟩ := hvalues
      exact readsWithin_of_complex (shape_padded_checkHeader hvalues _)
    · refine readsWithin_padded (holdsWithin_element hrefs.trimmed
        (forall_templated? hconfiguration htemplated) (forall_templated? hrefs.lists htemplated)
        fun hheader => ?_) hlines (fun _ => name_ne_of_mem_childElements_element) _
      by_contra hne
      exact hvalues ⟨hheader, hne⟩
  | branches htemplated hbranches =>
    obtain ⟨es, hwritten⟩ := exists_isWrittenAs_choose hbranches (renderItem_of_templated? htemplated)
    refine ⟨_, hwritten, rfl, ?_⟩
    cases es with
    | nil => exact readsWithin_emptyElement "choose"
    | cons e es => exact readsWithin_of_complex rfl

/-! ## Sections -/

theorem exists_nodeItem?_of_mem_sectionItems {item : Item} {start : Nat}
    (h : item ∈ sectionItems settings kind start ns) :
    ∃ n ∈ ns, ∃ id order, nodeItem? settings id order n = some item := by
  induction ns generalizing start with
  | nil => simp [sectionItems] at h
  | cons n ns ih =>
    rw [sectionItems] at h
    split at h
    · rename_i item' hitem
      rcases List.mem_cons.1 h with rfl | h
      · exact ⟨n, List.mem_cons_self, _, _, hitem⟩
      · obtain ⟨m, hm, hread⟩ := ih h
        exact ⟨m, List.mem_cons_of_mem n hm, hread⟩
    · obtain ⟨m, hm, hread⟩ := ih h
      exact ⟨m, List.mem_cons_of_mem n hm, hread⟩

theorem namedValues_of_mem_readSection (hns : ∀ n ∈ ns, ReadsWithin settings names n)
    (htidy : tidyNodes e.children = tidyNodes ns)
    (hi : .catalog i ∈ (readSection settings kind e).items) :
    ∀ name ∈ i.namedValues, name ∈ names := by
  obtain ⟨m, hm, id, order, hread⟩ := exists_nodeItem?_of_mem_sectionItems hi
  cases hb : m.isBlank with
  | true =>
    rw [nodeItem?_of_isBlank settings id order hb] at hread
    simp at hread
  | false =>
    obtain ⟨n, hn, heq⟩ := exists_mem_of_tidyNodes_eq htidy hm hb
    exact hns n hn m heq id order i hread

/-- The items of a section are policies whose references are among the names. -/
def ItemsReferWithin (settings : Settings) (names : List String) (items : List Item) : Prop :=
  ∀ item ∈ items, ∃ i, item = .catalog i ∧ i.HasReadableForm settings ∧
    i.HasPlainReferences settings.namedValueStyle ∧ ∀ name ∈ i.namedValues, name ∈ names

theorem exists_nodes_readsWithin {items : List Item} (h : ItemsReferWithin settings names items) :
    ∃ ns, List.Forall₂ (IsWrittenAs { settings }) items ns ∧
      ∀ n ∈ ns, n.isText = false ∧ ReadsWithin settings names n := by
  induction items with
  | nil => exact ⟨[], .nil, by simp⟩
  | cons item items ih =>
    obtain ⟨⟨i, rfl, hform, hrefs, hsub⟩, hrest⟩ := List.forall_mem_cons.1 h
    obtain ⟨n, hwritten, htext, hread⟩ := exists_isWrittenAs_readsWithin hform hrefs
    obtain ⟨ns, hns, hall⟩ := ih hrest
    exact ⟨n :: ns, .cons hwritten hns, List.forall_mem_cons.2 ⟨⟨htext, hread.mono hsub⟩, hall⟩⟩

theorem exists_section_readsWithin (kind : SectionKind) {section? : Option Section}
    (h : ∀ s, section? = some s → ItemsReferWithin settings names s.items) :
    ∃ ns, SectionIsWrittenAs { settings } kind section? ns ∧
      ∀ n ∈ ns, ReadsWithin settings names n := by
  cases section? with
  | some s =>
    obtain ⟨ns, hwritten, hall⟩ := exists_nodes_readsWithin
      (fun item hitem => h s rfl item (mem_items_of_mem_sortedItems hitem))
    have hseparate : HaveSeparateTexts ns := by
      refine haveSeparateTexts_of_pairwise (List.pairwise_of_forall_mem_list fun n hn m _ => ?_)
      rw [(hall n hn).1, Bool.false_and]
    refine ⟨_, .present hwritten hseparate, fun n hn => ?_⟩
    rcases List.mem_append.1 hn with hn | hn
    · refine readsWithin_of_isBaseNode ?_
      unfold baseNodes at hn
      split at hn
      · rw [List.mem_singleton.1 hn]
        decide
      · simp at hn
    · exact (hall n hn).2
  | none =>
    by_cases hkind : kind = .backend
    · exact ⟨_, .forwarding hkind, List.forall_mem_singleton.2 (readsWithin_emptyElement _)⟩
    · exact ⟨[], .empty hkind, by simp⟩

/-! ## Models -/

/-- **No named value of a document is missed.** If every item of a model is a policy that is read as
what it stands for and whose references are plain, then its document can be read, and every named
value that is found in the document is collected from the model. -/
theorem namedValues_ofXml_toXml (settings : Settings) (m : Model)
    (h : ∀ x ∈ m.items, ∃ i, x.2 = .catalog i ∧ i.HasReadableForm settings ∧
      i.HasPlainReferences settings.namedValueStyle) :
    ∃ m', Model.ofXml settings (m.toXml settings) = .ok m' ∧
      ∀ name ∈ m'.namedValues.keys, name ∈ m.namedValues.keys := by
  have hsections : ∀ kind s, m.sections.get? kind = some s →
      ItemsReferWithin settings m.namedValues.keys s.items := by
    intro kind s hs item hitem
    have hmem : (kind, item) ∈ m.items := mem_items_iff.2 ⟨s, hs, hitem⟩
    obtain ⟨i, rfl, hform, hrefs⟩ := h _ hmem
    refine ⟨i, rfl, hform, hrefs, fun name hname => NameSet.mem_keys_ofNames.2 ?_⟩
    exact List.mem_flatMap.2 ⟨i, List.mem_filterMap.2 ⟨_, hmem, rfl⟩, hname⟩
  choose nodes hwritten hread using fun kind => exists_section_readsWithin kind (hsections kind)
  obtain ⟨sections, hparse, hget⟩ :=
    exists_ofXml_write fun kind => (hwritten kind).readsAs
  refine ⟨_, hparse, fun name hname => ?_⟩
  obtain ⟨i, hi, hname⟩ := List.mem_flatMap.1 (NameSet.mem_keys_ofNames.1 hname)
  obtain ⟨⟨kind, item⟩, hitem, heq⟩ := List.mem_filterMap.1 hi
  obtain ⟨s, hs, hmem⟩ := mem_items_iff.1 hitem
  obtain ⟨e, htidy, hsection⟩ := hget kind
  have hs' : s = readSection settings kind e := Option.some.inj (hs.symm.trans hsection)
  have hcatalog : item = .catalog i := by
    cases item with
    | catalog i' => exact congrArg Item.catalog (Option.some.inj heq)
    | _ => simp [Item.catalog?] at heq
  rw [hs', hcatalog] at hmem
  exact namedValues_of_mem_readSection (hread kind) htidy hmem name hname

/-- A limit with references in a text, in a list and in an attribute. -/
def counterItem : CatalogItem where
  id := "counter"
  order := 1
  policyId := "rate-limit-by-key"
  configuration := [("calls", .number (.int 5)), ("counter-key", .text "\x7b\x7bkey\x7d\x7d"),
    ("increment-condition", .array [.text "\x7b\x7bincrement\x7d\x7d"])]
  attributes := ⟨[("renewal-period", .namedValue { name := "renewal" })],
    List.pairwise_singleton _ _⟩

/-- A body of two lines, by a template. -/
def bodyItem : CatalogItem where
  id := "body"
  order := 2
  policyId := "set-body"
  configuration := [("value", .text "first &\nsecond")]

/-- A branch of raw policies. -/
def branchItem : CatalogItem where
  id := "branch"
  order := 1
  policyId := "choose"
  configuration := [("when", .object [("condition", .text "@(true)"),
    ("policies", .text "<return-response />")])]

/-- A request with references in its address and in a header. -/
def requestItem : CatalogItem where
  id := "request"
  order := 2
  policyId := SendRequest.policyId
  configuration := [("setUrl", .text "\x7b\x7burl\x7d\x7d"),
    ("headers", .object [("Authorization", .object [("name", .text "token")])]),
    ("timeout", .number (.int 20))]

/-- A model with one policy for each way of writing. -/
def referringModel : Model where
  scope := .product
  sections :=
    { inbound := some { items := [.catalog counterItem, .catalog bodyItem] }
      outbound := some { items := [.catalog branchItem, .catalog requestItem] } }

theorem hasReadableForm_counterItem : counterItem.HasReadableForm {} := by
  refine .generic (by decide) rfl ⟨by decide, ⟨by decide +kernel, by decide +kernel⟩,
    by decide +kernel, ?_, ?_⟩
  · simp only [counterItem, List.forall_mem_singleton]
    exact ⟨by decide, by decide⟩
  · have hnone : Writer.elementText? ({} : Settings).namedValueStyle counterItem = none := rfl
    simp [hnone]

theorem hasReadableForm_bodyItem : bodyItem.HasReadableForm {} := by
  have helement : Template.setBody.element ({} : Settings).namedValueStyle bodyItem.configuration =
      ⟨"set-body", [], [.text "first &\nsecond"]⟩ := rfl
  refine .template (t := .setBody) (c := bodyItem.configuration) rfl (by decide) ?_
  rw [helement]
  refine .element (by decide) ⟨by simp, by simp, by simp⟩ ?_ (by decide)
  exact List.forall_mem_singleton.2 (.text (.inr (by decide +kernel)))

theorem hasReadableForm_branchItem : branchItem.HasReadableForm {} := by
  have hobjects : Template.objects branchItem.configuration "when" =
      [[("condition", .text "@(true)"), ("policies", .text "<return-response />")]] := rfl
  have hcontent : IsContent (({} : Writer).branchChars
      (childLines ({} : Settings).indentWidth 0 [.element "return-response" [] []])) :=
    isContent_childLines {} (List.forall_mem_singleton.2
      (.element (by decide) ⟨by simp, by simp, by simp⟩ (by simp) (by decide))) (by decide)
  refine .branches (c := branchItem.configuration) rfl ⟨?_, ?_, ?_⟩
  · rw [hobjects, List.forall_mem_singleton]
    decide +kernel
  · rw [hobjects, List.forall_mem_singleton]
    exact hcontent
  · have hnone : Template.rawLines branchItem.configuration "otherwise" = none := rfl
    simp [hnone]

theorem hasReadableForm_requestItem : requestItem.HasReadableForm {} := by
  have helement : (SendRequest.ofConfiguration requestItem.configuration).toElement {} =
      ⟨"send-request", [("mode", "new"), ("timeout", "20")],
        [.element "set-url" [] [.text "\x7b\x7burl\x7d\x7d"],
          .element "set-headers" [] [.element "header"
            [("name", "Authorization"), ("value", "$\x7b\x7btoken\x7d\x7d")] []]]⟩ := rfl
  refine .sendRequest rfl ?_
  rw [helement]
  have hurl : (Node.element "set-url" [] [.text "\x7b\x7burl\x7d\x7d"]).IsClean :=
    .element (by decide) ⟨by simp, by simp, by simp⟩
      (List.forall_mem_singleton.2 (.text (.inr (by decide +kernel)))) (by decide)
  have hheader : (Node.element "header"
      [("name", "Authorization"), ("value", "$\x7b\x7btoken\x7d\x7d")] []).IsClean :=
    .element (by decide) ⟨by decide +kernel, by decide, by decide +kernel⟩ (by simp) (by decide)
  have hheaders : (Node.element "set-headers" [] [.element "header"
      [("name", "Authorization"), ("value", "$\x7b\x7btoken\x7d\x7d")] []]).IsClean :=
    .element (by decide) ⟨by simp, by simp, by simp⟩ (List.forall_mem_singleton.2 hheader) (by decide)
  exact .element (by decide) ⟨by decide +kernel, by decide, by decide +kernel⟩
    (List.forall_mem_cons.2 ⟨hurl, List.forall_mem_singleton.2 hheaders⟩) (by decide)

theorem hasPlainReferences_counterItem : counterItem.HasPlainReferences .dollar := by
  refine ⟨by decide +kernel, ?_, ?_, ?_, ?_⟩
  · simp [counterItem]
  · simp only [counterItem, List.forall_mem_cons]
    refine ⟨.scalar (by simp), .scalar (by simp), ?_, by simp⟩
    exact .single (List.forall_mem_singleton.2 (.scalar (by simp))) (by decide)
  · exact fun h => absurd h (by decide)
  · exact fun h => absurd h (by decide)

theorem hasPlainReferences_requestItem : requestItem.HasPlainReferences .dollar := by
  refine ⟨by decide +kernel, ?_, ?_, ?_, ?_⟩
  · simp [requestItem, NameMap.empty]
  · simp only [requestItem, List.forall_mem_cons]
    exact ⟨.scalar (by simp), .scalar (by simp), .scalar (by simp), by simp⟩
  · intro _ fields hfields
    have hget : requestItem.configuration.get? "headers" =
      some (.object [("Authorization", .object [("name", .text "token")])]) := rfl
    obtain rfl := Json.object.inj (Option.some.inj (hget.symm.trans hfields))
    decide
  · intro _
    have hheaders : (SendRequest.ofConfiguration requestItem.configuration).headers =
        [⟨"Authorization", .object [("name", .text "token")], none⟩] := rfl
    rw [hheaders, List.forall_mem_singleton]
    exact .scalar (by simp)

theorem hasPlainReferences_bodyItem : bodyItem.HasPlainReferences .dollar := by
  refine ⟨by decide +kernel, ?_, ?_, fun h => absurd h (by decide), fun h => absurd h (by decide)⟩
  · simp [bodyItem, NameMap.empty]
  · exact List.forall_mem_singleton.2 (.scalar (by simp))

theorem hasPlainReferences_branchItem : branchItem.HasPlainReferences .dollar := by
  refine ⟨by decide +kernel, ?_, ?_, fun h => absurd h (by decide), fun h => absurd h (by decide)⟩
  · simp [branchItem, NameMap.empty]
  · exact List.forall_mem_singleton.2 (.scalar (by simp))

theorem namedValues_ofXml_toXml_referringModel :
    (∀ x ∈ referringModel.items, ∃ i, x.2 = .catalog i ∧ i.HasReadableForm {} ∧
      i.HasPlainReferences ({} : Settings).namedValueStyle) ∧
    ∃ m', Model.ofXml {} (referringModel.toXml {}) = .ok m' ∧
      ∀ name ∈ m'.namedValues.keys, name ∈ referringModel.namedValues.keys := by
  have hitems : referringModel.items = [(.inbound, .catalog counterItem),
    (.inbound, .catalog bodyItem),
    (.outbound, .catalog branchItem), (.outbound, .catalog requestItem)] := rfl
  have h : ∀ x ∈ referringModel.items, ∃ i, x.2 = .catalog i ∧ i.HasReadableForm {} ∧
      i.HasPlainReferences ({} : Settings).namedValueStyle := by
    rw [hitems]
    simp only [List.forall_mem_cons]
    exact ⟨⟨_, rfl, hasReadableForm_counterItem, hasPlainReferences_counterItem⟩,
      ⟨_, rfl, hasReadableForm_bodyItem, hasPlainReferences_bodyItem⟩,
      ⟨_, rfl, hasReadableForm_branchItem, hasPlainReferences_branchItem⟩,
      ⟨_, rfl, hasReadableForm_requestItem, hasPlainReferences_requestItem⟩, by simp⟩
  exact ⟨h, namedValues_ofXml_toXml {} referringModel h⟩

end GatewayPolicy
