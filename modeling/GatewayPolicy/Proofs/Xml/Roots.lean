import GatewayPolicy.Proofs.Xml.ElementText
import GatewayPolicy.Proofs.Xml.Serialization
/-!
# The root of a document

The start tag at the front of a document is the start tag of its root: whatever stands behind it, if
the document is read at all, the root has the name and the attributes of the tag. So the attributes
of a policy can be told from the first characters that are written for it. Its text can be told as
well if nothing behind the text closes an expression.
-/

namespace GatewayPolicy.Xml

open Text

variable {cs r s gap fin : List Char} {name document : String} {raw : Attributes} {e : Element}

/-! ## The start tag -/

/-- The name and the attributes of the outermost open element. -/
def rootTag (top : OpenElement) (around : List OpenElement) : String × Attributes :=
  around.foldl (fun _ parent => (parent.name, parent.attributes)) (top.name, top.attributes)

/-- Content adds children; the name and the attributes of the outermost element stay. -/
theorem tag_of_readContent {top : OpenElement} {around : List OpenElement}
    (h : readContent top around cs = .ok (e, r)) :
    (e.name, e.attributes) = rootTag top around := by
  fun_induction readContent top around cs with
  | case1 => simp at h
  | case2 => simp at h
  | case3 top around c rest tag r' ht hclosed ih => exact ih h
  | case4 top around c rest tag r' ht hopened ih => exact ih h
  | case5 top c rest r' ht =>
    obtain ⟨rfl, -⟩ := Prod.mk.inj (Except.ok.inj h)
    rfl
  | case6 top c rest r' parent around ht ih => exact ih h
  | case7 => simp at h
  | case8 top around c rest s r' ht ih => exact ih h
  | case9 top around c rest s r' ht ih => exact ih h
  | case10 top around c rest r' ht ih => exact ih h
  | case11 top around c rest s r' ht ih => exact ih h

/-- The root has the name and the attributes of its start tag. -/
theorem tag_eq_of_readRoot {rest : List Char} (h : readRoot rest = .ok (e, r)) :
    ∃ tag r', readStartTag ('<' :: rest) rest = .ok (tag, r') ∧ e.name = tag.name ∧
      e.attributes = tag.attributes := by
  unfold readRoot at h
  split at h
  · simp at h
  · rename_i tag r' htag
    refine ⟨tag, r', htag, ?_⟩
    split at h
    · obtain ⟨rfl, -⟩ := Prod.mk.inj (Except.ok.inj h)
      exact ⟨rfl, rfl⟩
    · exact Prod.mk.inj (tag_of_readContent h)

/-- The characters start with the end of a start tag. -/
inductive EndsTag : List Char → Prop
  /-- The tag is closed. -/
  | closed (rest : List Char) : EndsTag (' ' :: '/' :: '>' :: rest)
  /-- The tag opens an element. -/
  | opened (rest : List Char) : EndsTag ('>' :: rest)

/-- The document starts with a tag that has the name and the raw attributes. -/
def StartsWithTag (document name : String) (raw : Attributes) : Prop :=
  ∃ rest, EndsTag rest ∧ document.toList = '<' :: (name.toList ++ (attributeChars raw ++ rest))

theorem tag_of_readRoot (hname : IsName name) (h : AreReadable raw) (hend : EndsTag s)
    (hroot : readRoot (name.toList ++ (attributeChars raw ++ s)) = .ok (e, r)) :
    e.name = name ∧ e.attributes = readRaw raw := by
  cases hend with
  | closed rest =>
    rw [readRoot_closedTag (readStartTag_closed hname h _ rest)] at hroot
    obtain ⟨rfl, -⟩ := Prod.mk.inj (Except.ok.inj hroot)
    exact ⟨rfl, rfl⟩
  | opened rest =>
    unfold readRoot at hroot
    rw [readStartTag_opened hname h _ rest] at hroot
    exact Prod.mk.inj (tag_of_readContent hroot)

/-- A document that starts with a name behind an angle bracket starts with its root. -/
theorem exists_readRoot_of_readDocument (hname : IsName name)
    (hread : readDocument ('<' :: (name.toList ++ cs)) = .ok e) :
    ∃ r, readRoot (name.toList ++ cs) = .ok (e, r) := by
  obtain ⟨s, r, hbefore, hroot, -⟩ := readDocument_eq_ok_iff.1 hread
  rw [dropMark, skipMisc_name hname] at hbefore
  · obtain ⟨-, rfl⟩ := List.cons.inj (Except.ok.inj hbefore)
    exact ⟨r, hroot⟩
  · simp

theorem tag_of_readDocument (hname : IsName name) (h : AreReadable raw) (hend : EndsTag s)
    (hread : readDocument ('<' :: (name.toList ++ (attributeChars raw ++ s))) = .ok e) :
    e.name = name ∧ e.attributes = readRaw raw := by
  obtain ⟨r, hroot⟩ := exists_readRoot_of_readDocument hname hread
  exact tag_of_readRoot hname h hend hroot

theorem readDocument_of_parse (hchars : document.toList = cs) (h : parse document = .ok e) :
    readDocument cs = .ok e :=
  hchars ▸ parse_eq_ok_iff.1 h

/-- The root has the tag that the document starts with. -/
theorem tag_of_parse (hname : IsName name) (h : AreReadable raw)
    (hdocument : StartsWithTag document name raw) (hparse : parse document = .ok e) :
    e.name = name ∧ e.attributes = readRaw raw := by
  obtain ⟨rest, hend, hchars⟩ := hdocument
  exact tag_of_readDocument hname h hend (readDocument_of_parse hchars hparse)

theorem startsWithTag_serialize (e : Element) (width : Nat) :
    StartsWithTag (e.serialize width) e.name (writtenAttributes e.attributes) := by
  rw [StartsWithTag, Element.serialize, Element.node, nodeLines]
  split
  · exact ⟨_, .closed [], by simp [unlines, indentation, toList_openTag]⟩
  · split
    · refine ⟨_, .opened ((String.join (e.children.map inlineText)).toList ++
        (endTag e.name).toList), ?_⟩
      simp [unlines, indentation, toList_openTag]
    · refine ⟨_, .opened (lineChars (childLines width 1 e.children ++
        [indentation width 0 ++ endTag e.name])), ?_⟩
      rw [toList_unlines_cons]
      simp [indentation, toList_openTag]

/-! ## Text -/

/-- Characters that are one run of text if nothing behind them closes an expression. -/
def IsPlainRun (cs : List Char) : Prop := '<' ∉ cs ∨ isTextRun cs = true

theorem readText_of_isPlainRun (h : IsPlainRun cs) (hrest : ClosesNothing r) :
    readText (cs ++ '<' :: r) = (cs, '<' :: r) :=
  h.elim (fun h => readText_of_notMem h hrest) fun h => readText_append h r

theorem closesNothing_endTag (hname : ClosesNothing name.toList) (hrest : ClosesNothing r) :
    ClosesNothing ('/' :: (name.toList ++ '>' :: r)) := by
  intro b hb
  have hmem : b.closing ∈ name.toList ∨ b.closing ∈ r := by
    cases b <;> simpa [Bracket.closing] using hb
  exact hmem.elim (hname b) (hrest b)

theorem parse_of_readDocument (hchars : document.toList = cs) (h : readDocument cs = .ok e) :
    parse document = .ok e :=
  parse_eq_ok_iff.2 (hchars ▸ h)

/-- The text of an element that holds nothing else. -/
theorem parse_text (hname : IsName name) (h : AreReadable raw) (hcloses : ClosesNothing name.toList)
    (hrun : IsPlainRun cs) (hcs : cs ≠ []) (hchars : document.toList = elementChars name raw cs) :
    parse document = .ok ⟨name, readRaw raw, [.text (.ofList (unescapeChars cs))]⟩ := by
  have hread := readText_of_isPlainRun hrun (closesNothing_endTag hcloses (r := []) (by decide))
  exact parse_of_readDocument hchars (readDocument_element hname h (yields_of_readText hread hcs))

theorem yields_gap (hgap : IsBlankRun gap) (hne : gap ≠ []) (r : List Char) :
    Yields (gap ++ '<' :: r) [.text (.ofList gap)] ('<' :: r) := by
  have hrun : isTextRun gap = true := by
    rw [← List.append_nil gap, isTextRun_blanks_append hgap, isTextRun_nil]
  have hyields := yields_text hrun hne r
  rwa [unescapeChars_of_notMem (hgap.notMem (by decide))] at hyields

/-- The text of a leaf of an element that holds nothing else. -/
theorem parse_leaf {leaf : String} (hname : IsName name) (h : AreReadable raw)
    (hcloses : ClosesNothing name.toList) (hleaf : IsName leaf)
    (hcloses' : ClosesNothing leaf.toList) (hgap : IsBlankRun gap) (hgap' : gap ≠ [])
    (hfin : IsBlankRun fin) (hfin' : fin ≠ []) (hrun : IsPlainRun cs) (hcs : cs ≠ [])
    (hchars : document.toList = elementChars name raw (gap ++ elementChars leaf [] cs ++ fin)) :
    parse document = .ok ⟨name, readRaw raw,
      [.text (.ofList gap), .element leaf [] [.text (.ofList (unescapeChars cs))],
        .text (.ofList fin)]⟩ := by
  have hend : ClosesNothing (fin ++ '<' :: '/' :: (name.toList ++ ['>'])) := by
    intro b hb
    rcases List.mem_append.1 hb with hb | hb
    · refine hfin.notMem ?_ hb
      cases b <;> decide
    · exact closesNothing_endTag hcloses (r := []) (by decide) b
        ((List.mem_cons.1 hb).resolve_left (by cases b <;> decide))
  have hread := readText_of_isPlainRun hrun (closesNothing_endTag hcloses' hend)
  have hinner := yields_element hleaf areReadable_nil (yields_of_readText hread hcs)
  have hcontent := ((yields_gap hgap hgap' _).trans hinner).trans
    (yields_gap hfin hfin' ('/' :: (name.toList ++ ['>'])))
  refine parse_of_readDocument hchars ?_
  have hdocument := readDocument_element hname h hcontent
  simpa [elementChars, readRaw] using hdocument

/-! ## Elements with one child -/

section OneChild

variable {t leaf : String} {attributes : Attributes} {width : Nat}

theorem bracket_notMem_escapeTextChars (cs : List Char) : '<' ∉ escapeTextChars cs := by
  intro hm
  obtain ⟨c, -, hc⟩ := List.mem_flatMap.1 hm
  unfold textForm at hc
  split at hc
  · simp at hc
  · simp at hc
  · simp at hc
  · rename_i hne _
    exact hne (List.mem_singleton.1 hc).symm

/-- References keep text plain; an expression is written as it is. -/
theorem isPlainRun_contentText (h : isExpression t = true → IsPlainRun t.toList) :
    IsPlainRun (contentText t).toList := by
  unfold contentText
  split
  · exact h ‹_›
  · rw [toList_escapeText]
    exact .inl (bracket_notMem_escapeTextChars _)

theorem contentText_ne_nil (h : t ≠ "") : (contentText t).toList ≠ [] := by
  unfold contentText
  split
  · simpa using h
  · rw [toList_escapeText]
    intro hnil
    have hempty := unescapeChars_escapeTextChars t.toList
    rw [hnil, unescapeChars_nil] at hempty
    exact h (by simpa using hempty.symm)

theorem toList_serialize_text (hvisible : isBlankText t = false) :
    ((⟨name, attributes, [.text t]⟩ : Element).serialize width).toList =
      elementChars name (writtenAttributes attributes) (contentText (trim t)).toList := by
  simp [Element.serialize, Element.node, nodeLines, Node.isBlank, Node.isCharacters, hvisible,
    inlineText, unlines, indentation, toList_openTag, toList_endTag, elementChars]

theorem toList_serialize_leaf (hvisible : isBlankText t = false) :
    ((⟨name, attributes, [.element leaf [] [.text t]]⟩ : Element).serialize width).toList =
      elementChars name (writtenAttributes attributes)
        (lineGap width 1 ++ elementChars leaf [] (contentText (trim t)).toList ++
          lineGap width 0) := by
  simp [Element.serialize, Element.node, nodeLines, childLines, Node.isBlank, Node.isCharacters,
    hvisible, inlineText, unlines, indentation, toList_openTag, toList_endTag, elementChars,
    lineGap, writtenAttributes]

/-- The text of an element is read as it is written, up to references. -/
theorem parse_serialize_text (hname : IsName name) (h : AreReadable (writtenAttributes attributes))
    (hcloses : ClosesNothing name.toList) (hvisible : isBlankText t = false)
    (hrun : isExpression (trim t) = true → IsPlainRun (trim t).toList) (width : Nat) :
    parse ((⟨name, attributes, [.text t]⟩ : Element).serialize width) =
      .ok ⟨name, readRaw (writtenAttributes attributes),
        [.text (unescape (contentText (trim t)))]⟩ := by
  have hne : trim t ≠ "" := fun heq => by
    rw [trim_eq_empty_iff.1 heq] at hvisible
    simp at hvisible
  exact parse_text hname h hcloses (isPlainRun_contentText hrun) (contentText_ne_nil hne)
    (toList_serialize_text hvisible)

/-- The text of the only leaf of an element is read as it is written, up to references. -/
theorem exists_parse_serialize_leaf (hname : IsName name)
    (h : AreReadable (writtenAttributes attributes)) (hcloses : ClosesNothing name.toList)
    (hleaf : IsName leaf) (hcloses' : ClosesNothing leaf.toList)
    (hrun : isExpression (trim t) = true → IsPlainRun (trim t).toList) (width : Nat) :
    ∃ e, parse ((⟨name, attributes, [.element leaf [] [.text t]]⟩ : Element).serialize width) =
        .ok e ∧
      ∃ x, e.childElements = [x] ∧ x.name = leaf ∧
        trim x.text = trim (unescape (contentText (trim t))) := by
  cases hvisible : isBlankText t with
  | false =>
    have hne : trim t ≠ "" := fun heq => by
      rw [trim_eq_empty_iff.1 heq] at hvisible
      simp at hvisible
    refine ⟨_, parse_leaf hname h hcloses hleaf hcloses' (isBlankRun_lineGap width 1)
      (by simp [lineGap]) (isBlankRun_lineGap width 0) (by simp [lineGap])
      (isPlainRun_contentText hrun) (contentText_ne_nil hne) (toList_serialize_leaf hvisible), _,
      rfl, rfl, ?_⟩
    simp [Element.text, Node.characters, unescape]
  | true =>
    -- A blank text is left out, and with it everything that could be misread.
    have hclean : (Node.element leaf [] [.text t]).IsClean :=
      .element hleaf ⟨by simp, by simp, by simp⟩
        (List.forall_mem_singleton.2 (.text (.inl hvisible)))
        (by simp [HaveSeparateTexts, visibleNodes, Node.isBlank, hvisible])
    have hreads := readsAsElement_serialize_of_areReadable
      (e := ⟨name, attributes, [.element leaf [] [.text t]]⟩) hname h
      (List.forall_mem_singleton.2 hclean)
      (by simp [HaveSeparateTexts, visibleNodes, Node.isBlank]) width
    obtain ⟨e, hparse, htidy⟩ := hreads.parse
    have hchildren := childElements_tidy e
    rw [htidy, childElements_tidy] at hchildren
    obtain ⟨x, hx, hxtidy⟩ := List.map_eq_singleton_iff.1 hchildren.symm
    have hlength : (visibleCharacters [.text t]).length ≤ 1 := length_visibleCharacters_le _
    have htext : x.trimmedText? = none := by
      rw [trimmedText?_eq_of_tidy_eq hxtidy hlength, trimmedText?_eq_none_iff, trim_eq_empty_iff]
      simpa [Element.text, Node.characters] using hvisible
    refine ⟨e, hparse, x, hx, name_eq_of_tidy_eq hxtidy, ?_⟩
    rw [trimmedText?_eq_none_iff.1 htext, trim_eq_empty_iff.2 hvisible]
    decide +kernel

end OneChild

end GatewayPolicy.Xml
