import GatewayPolicy.Proofs.Catalog.Templates
import GatewayPolicy.Proofs.Xml.Layout
/-!
# Choices with branches of raw policies

A choice is put together from lines: a tag for each branch, and between its tags the raw policies of
the branch, without their own indentation and moved to the depth of the branch. Wherever raw policies
are the text of an element, however that was laid out, the reader finds the element again in its
branch, and a choice is read back with all its branches in order.
-/

namespace GatewayPolicy

open Json Text Xml

/-! ## What a choice holds -/

/-- A parameter with raw policies: absent, blank, or the text of a clean element that holds no line
feed, laid out with any number of spaces per level. -/
inductive HoldsRaw : Option Json → Option Element → Prop
  | absent : HoldsRaw none none
  | blank {s : String} (h : isBlankText s = true) : HoldsRaw (some (.text s)) none
  | element {e : Element} (hclean : e.IsClean) (hunbroken : e.IsUnbroken) (width : Nat) :
    HoldsRaw (some (.text (e.serialize width))) (some e)

/-- A branch of a choice. -/
structure Branch where
  /-- The condition. -/
  condition : String
  /-- The element among its raw policies, if they are not blank. -/
  policies : Option Element

/-- The branches of a choice. -/
structure Choice where
  /-- The branches with conditions, in order. -/
  branches : List Branch
  /-- The branch without condition, if there is one, and the element among its raw policies. -/
  otherwise : Option (Option Element)

/-- The element of a branch. -/
def Branch.element (b : Branch) : Element :=
  ⟨"when", [("condition", b.condition)], (b.policies.map Element.node).toList⟩

/-- The element of a branch without condition. -/
def otherwiseElement (policies : Option Element) : Element :=
  ⟨"otherwise", [], (policies.map Element.node).toList⟩

/-- The elements of all branches. -/
def Choice.elements (x : Choice) : List Element :=
  x.branches.map Branch.element ++ (x.otherwise.map otherwiseElement).toList

/-- The element of a choice: nothing but its branches. -/
def Choice.element (x : Choice) : Element := ⟨"choose", [], x.elements.map Element.node⟩

/-- The fields configure the branch. -/
structure Branch.IsConfiguredBy (b : Branch) (fields : Fields) : Prop where
  /-- The condition is a text. -/
  condition : fields.get? "condition" = some (.text b.condition)
  /-- It is read back: it is literal or one complete expression. -/
  clean : IsCleanValue b.condition
  /-- The policies are raw. -/
  policies : HoldsRaw (fields.get? "policies") b.policies

/-- The parameter of the branch without condition: absent if there is none. -/
inductive HoldsOtherwise : Option Json → Option (Option Element) → Prop
  | absent : HoldsOtherwise none none
  | raw {v : Json} {policies : Option Element} (h : HoldsRaw (some v) policies) :
    HoldsOtherwise (some v) (some policies)

/-- The item is a choice with these branches, and has nothing else to write. -/
structure Choice.IsConfiguredBy (x : Choice) (i : CatalogItem) : Prop where
  /-- It is a choice. -/
  policyId : i.policyId = "choose"
  /-- It has no attributes. -/
  attributes : i.attributes.isEmpty = true
  /-- It has no text. -/
  noText : i.configuration.get? textKey = none
  /-- The branches are a list of objects. -/
  branches : ∃ objects : List Fields,
    i.configuration.get? "when" = some (.array (objects.map Json.object)) ∧
      List.Forall₂ (fun fields b => b.IsConfiguredBy fields) objects x.branches
  /-- The branch without condition is there if it is configured. -/
  otherwise : HoldsOtherwise (i.configuration.get? "otherwise") x.otherwise

variable {settings : Settings} {name : String} {attributes : Attributes} {v : Option Json}
  {policies : Option Element} {b : Branch} {fields : Fields}

/-! ## One branch -/

/-- The lines of a parameter with raw policies. -/
def rawBody (v : Option Json) : List String := ((v.bind Json.text?).map reindent).getD []

theorem HoldsRaw.rawBody_eq (h : HoldsRaw v policies) :
    policies = none ∧ rawBody v = [] ∨
      ∃ e width, policies = some e ∧ e.IsClean ∧ rawBody v = nodeLines width 0 e.node := by
  cases h with
  | absent => exact .inl ⟨rfl, rfl⟩
  | blank h => exact .inl ⟨rfl, reindent_eq_nil_iff.2 h⟩
  | @element e hclean hunbroken width =>
    exact .inr ⟨e, width, rfl, hclean, reindent_serialize hclean hunbroken width⟩

theorem HoldsRaw.exists_text {v : Json} (h : HoldsRaw (some v) policies) : ∃ s, v = .text s := by
  cases h with
  | blank => exact ⟨_, rfl⟩
  | element => exact ⟨_, rfl⟩

/-- The lines of a branch are read back as one element, with the element that its raw policies are. -/
theorem exists_written_branch (settings : Settings) (hname : IsName name)
    (hattributes : AreCleanAttributes attributes) (h : HoldsRaw v policies) :
    ∃ cs, ReadsAs cs (⟨name, attributes, (policies.map Element.node).toList⟩ : Element).node ∧
      lineChars (Template.branch settings (openTag name attributes) name (rawBody v)) =
        lineGap settings.indentWidth 1 ++ cs := by
  have hreadable := areReadable_writtenAttributes hattributes
  rcases h.rawBody_eq with ⟨rfl, hbody⟩ | ⟨e, width, rfl, hclean, hbody⟩
  · have hclosed := readsAsElement_closed hname hreadable tidyNodes_nil
    rw [readRaw_writtenAttributes hattributes] at hclosed
    refine ⟨_, hclosed.inside, ?_⟩
    rw [Template.branch, hbody]
    simp [toList_openTag, closedChars, lineGap, Settings.indent]
  · -- The raw policies may be laid out with another width than the document, so their lines do not
    -- stand at a depth of the document: they are read behind a pad.
    have hpad : IsBlankRun (settings.indent 1 ++ settings.indent 1).toList := by
      rw [String.toList_append, Settings.indent, toList_indentation]
      exact isBlankRun_append.2 ⟨isBlankRun_replicate _, isBlankRun_replicate _⟩
    obtain ⟨s, hs, heq⟩ := exists_padded_node hpad width 0 e.node hclean rfl
    have hwritten : AreWritten [(s, e.node)] [e.node] := areWritten_nil.cons rfl hs
    have hopened := readsAsElement_element hname hreadable (isBlankRun_paddedGap hpad width 0)
      (isBlankRun_lineGap settings.indentWidth 1)
      (hwritten.areSeparate (haveSeparateTexts_of_elements (by simp))) hwritten.tidyNodes_eq
    rw [readRaw_writtenAttributes hattributes] at hopened
    refine ⟨_, hopened.inside, ?_⟩
    obtain ⟨l, ls, hls, -⟩ := head?_nodeLines e width
    have hindented : lineChars (Template.indented settings (rawBody v)) =
        paddedGap (settings.indent 1 ++ settings.indent 1) width 0 ++ s := by
      rw [hbody, ← heq, Template.indented]
    rw [Template.branch, if_neg (by simp [hbody, hls]), lineChars_cons, lineChars_append, hindented]
    simp [toList_openTag, toList_endTag, elementChars, lineGap, Settings.indent]

theorem Branch.IsConfiguredBy.whenLines_eq (h : b.IsConfiguredBy fields) (settings : Settings) :
    Template.whenLines settings fields =
      Template.branch settings (openTag "when" [("condition", b.condition)]) "when"
        (rawBody (fields.get? "policies")) := by
  have hcondition :
      (Template.text? settings.namedValueStyle fields "condition").getD "" = b.condition := by
    rw [Template.text?, h.condition, Option.bind_some, scalarText?]
    by_cases hempty : b.condition = ""
    · rw [hempty]
      rfl
    · rw [Option.filter_some_pos (by simpa using hempty), Option.getD_some]
  have hstart : "<when condition=\"" ++ attributeText b.condition ++ "\"" =
      openTag "when" [("condition", b.condition)] := by
    rw [← String.toList_inj]
    simp [openTag, attributesText]
  rw [Template.whenLines, hcondition, hstart]
  rfl

theorem Branch.IsConfiguredBy.exists_written (h : b.IsConfiguredBy fields) (settings : Settings) :
    ∃ cs, ReadsAs cs b.element.node ∧
      lineChars (Template.whenLines settings fields) = lineGap settings.indentWidth 1 ++ cs := by
  rw [h.whenLines_eq]
  have hclean : AreCleanAttributes [("condition", b.condition)] :=
    ⟨List.forall_mem_singleton.2 (show IsName "condition" by decide), by simp,
      List.forall_mem_singleton.2 h.clean⟩
  exact exists_written_branch settings (by decide) hclean h.policies

/-! ## All branches -/

theorem exists_written_whens {objects : List Fields} {bs : List Branch}
    (h : List.Forall₂ (fun fields b => b.IsConfiguredBy fields) objects bs) (settings : Settings) :
    ∃ written, AreWritten written ((bs.map Branch.element).map Element.node) ∧
      lineChars (objects.flatMap (Template.whenLines settings)) =
        gappedChars (lineGap settings.indentWidth 1) written := by
  refine exists_written_flatMap ?_
  rw [List.map_map, List.forall₂_map_right_iff]
  exact h.imp fun _ _ hb => ⟨rfl, hb.exists_written settings⟩

theorem exists_written_otherwise {c : Fields} {otherwise : Option (Option Element)}
    (h : HoldsOtherwise (c.get? "otherwise") otherwise) (settings : Settings) :
    ∃ written, AreWritten written ((otherwise.map otherwiseElement).toList.map Element.node) ∧
      lineChars (Template.otherwiseLines settings c) =
        gappedChars (lineGap settings.indentWidth 1) written := by
  rw [Template.otherwiseLines, Template.rawLines]
  generalize c.get? "otherwise" = v at h
  cases h with
  | absent => exact ⟨[], areWritten_nil, rfl⟩
  | @raw v policies h =>
    have hclean : AreCleanAttributes [] := ⟨by simp, by simp, by simp⟩
    obtain ⟨cs, hcs, hlines⟩ :=
      exists_written_branch settings (show IsName "otherwise" by decide) hclean h
    refine ⟨_, areWritten_nil.cons rfl hcs, ?_⟩
    obtain ⟨s, rfl⟩ := h.exists_text
    rw [gappedChars_cons, gappedChars_nil, List.append_nil, ← hlines]
    rfl

theorem filterMap_object?_map (objects : List Fields) :
    (objects.map Json.object).filterMap Json.object? = objects := by
  rw [List.filterMap_map]
  exact List.filterMap_some

namespace Choice

variable {x : Choice} {i : CatalogItem}

theorem childElements_element (x : Choice) : x.element.childElements = x.elements := by
  rw [Element.childElements, element, List.filterMap_map]
  exact List.filterMap_some

theorem IsConfiguredBy.renderItem_eq (h : x.IsConfiguredBy i) (settings : Settings) :
    ({ settings } : Writer).renderItem (.catalog i) =
      Template.choose.render settings i.configuration := by
  refine renderItem_of_templated? (CatalogItem.templated?_of_no_text ?_ h.attributes h.noText)
  rw [h.policyId]
  decide

/-- The text of a choice is read back as the choice. -/
theorem IsConfiguredBy.readsAsElement (h : x.IsConfiguredBy i) (settings : Settings) :
    ReadsAsElement (({ settings } : Writer).renderItem (.catalog i)).toList x.element := by
  obtain ⟨objects, hwhen, hbranches⟩ := h.branches
  have hobjects : Template.objects i.configuration "when" = objects := by
    rw [Template.objects, hwhen]
    exact filterMap_object?_map objects
  obtain ⟨whens, hwhens, hwhenLines⟩ := exists_written_whens hbranches settings
  obtain ⟨rest, hrest, hrestLines⟩ := exists_written_otherwise h.otherwise settings
  have hwritten : AreWritten (whens ++ rest) x.element.children := by
    rw [element, elements, List.map_append]
    exact hwhens.append hrest
  have hread := readsAsElement_element (show IsName "choose" by decide) areReadable_nil
    (isBlankRun_lineGap settings.indentWidth 1) (show IsBlankRun ['\n'] by simp [isBlank])
    (hwritten.areSeparate (haveSeparateTexts_of_elements (by simp [element]))) hwritten.tidyNodes_eq
  have htext : (({ settings } : Writer).renderItem (.catalog i)).toList =
      elementChars "choose" [] (gappedChars (lineGap settings.indentWidth 1) (whens ++ rest) ++
        ['\n']) := by
    rw [h.renderItem_eq, Template.render, Template.chooseLines, hobjects, List.append_assoc,
      List.append_assoc, List.singleton_append, toList_unlines_cons, lineChars_append,
      lineChars_append, hwhenLines, hrestLines, gappedChars_append]
    simp [elementChars, attributeChars, toList_endTag]
  rw [htext]
  exact hread

/-- A choice is read back with all its branches. Its child elements are one element for each branch,
in order, with the condition as its only attribute and with what its raw policies are between its
tags, and then the branch without condition, if it is configured. -/
theorem exists_parse_choice (h : x.IsConfiguredBy i) (settings : Settings) :
    ∃ root, parse (({ settings } : Writer).renderItem (.catalog i)) = .ok root ∧
      root.tidy = x.element.tidy ∧
      root.childElements.map Element.tidy = x.elements.map Element.tidy := by
  obtain ⟨root, hparse, htidy⟩ := (h.readsAsElement settings).parse
  refine ⟨root, hparse, htidy, ?_⟩
  rw [← childElements_tidy, htidy, childElements_tidy, childElements_element]

/-- Raw policies with elements of their own, and with a text, a CDATA section and a comment. -/
def headerPolicy : Element where
  name := "set-header"
  attributes := [("name", "X & \"Y\"")]
  children := [.element "value" [] [.text " a < b "], .comment " c ", .cdata "<raw>"]

/-- A choice with raw policies, blank ones and none. -/
def routing : Choice where
  branches := [⟨"a < \"b\"\n && c", some headerPolicy⟩, ⟨"d", none⟩, ⟨"", none⟩]
  otherwise := some (some ⟨"return-response", [], []⟩)

/-- The item of the choice. Its raw policies are laid out in another way than the document. -/
def routingItem : CatalogItem where
  id := "inbound-0"
  order := 0
  policyId := "choose"
  configuration :=
    [("when", .array
      [.object [("condition", .text "a < \"b\"\n && c"), ("policies", .text (headerPolicy.serialize 5))],
        .object [("policies", .text " \r\n\t"), ("condition", .text "d")],
        .object [("condition", .text "")]]),
      ("otherwise", .text ((⟨"return-response", [], []⟩ : Element).serialize 0))]

theorem exists_parse_choice_routingItem :
    routing.IsConfiguredBy routingItem ∧
      ∃ root, parse (({ settings := { indentWidth := 3 } } : Writer).renderItem
        (.catalog routingItem)) = .ok root ∧ root.tidy = routing.element.tidy ∧
          root.childElements.map Element.tidy = routing.elements.map Element.tidy := by
  have hheader : headerPolicy.IsClean ∧ headerPolicy.IsUnbroken := by
    refine ⟨.element (by decide) ⟨by decide, by decide, by decide +kernel⟩ ?_ (by decide +kernel),
      .element (by decide) ?_⟩
    · simp only [headerPolicy, List.forall_mem_cons]
      refine ⟨.element (by decide) ⟨by simp, by simp, by simp⟩ ?_ (by decide +kernel),
        .comment (by decide +kernel), .cdata (by decide +kernel), List.forall_mem_nil _⟩
      rw [List.forall_mem_singleton]
      exact .text (.inr (by decide +kernel))
    · simp only [headerPolicy, List.forall_mem_cons]
      refine ⟨.element (by simp) ?_, .comment (by decide), .cdata (by decide), List.forall_mem_nil _⟩
      rw [List.forall_mem_singleton]
      exact .text (by decide)
  have hresponse : (⟨"return-response", [], []⟩ : Element).IsClean ∧
      (⟨"return-response", [], []⟩ : Element).IsUnbroken :=
    ⟨.element (by decide) ⟨by simp, by simp, by simp⟩ (by simp) (by decide +kernel),
      .element (by simp) (by simp)⟩
  have hconfigured : routing.IsConfiguredBy routingItem := by
    refine ⟨rfl, rfl, rfl, ⟨_, rfl, .cons ?_ (.cons ?_ (.cons ?_ .nil))⟩,
      .raw (.element hresponse.1 hresponse.2 0)⟩
    · exact ⟨rfl, .inl (by decide), .element hheader.1 hheader.2 5⟩
    · exact ⟨rfl, .inl (by decide), .blank (by decide)⟩
    · exact ⟨rfl, .inl (by decide), .absent⟩
  exact ⟨hconfigured, exists_parse_choice hconfigured { indentWidth := 3 }⟩

end Choice

end GatewayPolicy
