import GatewayPolicy.Proofs.Policy.Generic
import GatewayPolicy.Proofs.Policy.StableTemplates
import GatewayPolicy.Proofs.Xml.Padding
/-!
# Policies inside of a document

Every line of an item is put at the depth of its section, the lines inside of its values and texts
too. So what a document holds of a policy is the element of the policy with padded values and texts,
for a policy that is written by a template, as one element, or as branches of raw policies.
-/

namespace GatewayPolicy

open Json Text Xml

variable {settings : Settings} {w : Writer} {i : CatalogItem} {item : Item} {style : NamedValueStyle}
  {e : Element} {c : Fields} {s : String} {k : Nat}

/-- The spaces in front of the lines of an item. -/
def Writer.itemDepth (w : Writer) : Nat := w.settings.indentWidth * 2

theorem lineGap_two (w : Writer) :
    lineGap w.settings.indentWidth 2 = '\n' :: spaces w.itemDepth := rfl

theorem toList_padLine (w : Writer) (l : List Char) :
    (w.padLine 2 (.ofList l)).toList = padLine (spaces w.itemDepth) l := by
  have hempty : (String.ofList l).isEmpty = l.isEmpty := by
    rw [Bool.eq_iff_iff, String.isEmpty_iff, List.isEmpty_iff, ← String.toList_inj,
      String.toList_ofList]
    rfl
  rw [Writer.padLine, padLine, hempty]
  split
  · exact String.toList_ofList
  · rw [String.toList_append, String.toList_ofList, Settings.indent, toList_indentation]
    rfl

/-- The lines of an item are its text behind a line feed, padded. -/
theorem lineChars_itemLines (hne : (w.renderItem item).toList ≠ [])
    (hlast : (w.renderItem item).toList.getLast? ≠ some '\n') :
    lineChars (w.itemLines item) =
      padLines (spaces w.itemDepth) ('\n' :: (w.renderItem item).toList) := by
  obtain ⟨l, ls, hls, hl, heq⟩ := exists_splitLines hne hlast (spaces w.itemDepth)
  rw [padLine_append hl heq, Writer.itemLines, lines, hls, lineChars, List.flatMap_map,
    List.flatMap_map]
  simp only [toList_padLine]

/-- An item whose text ends in an angle bracket is written as what its padded text is read as. -/
theorem isWrittenAs_of_padLines {t ds : List Char} {n : Node} (hvisible : n.isBlank = false)
    (htext : (w.renderItem item).toList = t ++ ['>'])
    (hpadded : padLines (spaces w.itemDepth) ('\n' :: (w.renderItem item).toList) =
      lineGap w.settings.indentWidth 2 ++ ds)
    (hreads : ReadsAs ds n) : IsWrittenAs w item n := by
  refine ⟨hvisible, ds, hreads, ?_⟩
  rw [lineChars_itemLines, hpadded]
  · simp [htext]
  · simp [htext]

/-! ## Serialized elements -/

theorem exists_append_serialize (e : Element) (width : Nat) :
    ∃ cs, (e.serialize width).toList = cs ++ ['>'] := by
  have hlast : ∃ ls l cs, nodeLines width 0 e.node = ls ++ [l] ∧ l.toList = cs ++ ['>'] := by
    rw [Element.node, nodeLines]
    split
    · exact ⟨[], _, (indentation width 0 ++ openTag e.name e.attributes).toList ++ [' ', '/'], rfl,
        by simp⟩
    · split
      · exact ⟨[], _, (indentation width 0 ++ openTag e.name e.attributes ++ ">" ++
          String.join (e.children.map inlineText)).toList ++ '<' :: '/' :: e.name.toList, rfl,
          by simp [toList_endTag]⟩
      · exact ⟨_ :: childLines width 1 e.children, _,
          (indentation width 0).toList ++ '<' :: '/' :: e.name.toList, rfl, by simp [toList_endTag]⟩
  obtain ⟨ls, l, cs, hlines, hl⟩ := hlast
  have hne : nodeLines width 0 e.node ≠ [] := by simp [hlines]
  have hcons := cons_toList_unlines hne
  rw [hlines, lineChars_append, lineChars_cons, lineChars_nil, hl, ← hlines, ← Element.serialize,
    List.append_nil] at hcons
  cases hls : lineChars ls with
  | nil =>
    rw [hls] at hcons
    exact ⟨cs, (List.cons.inj hcons).2⟩
  | cons d ds =>
    rw [hls] at hcons
    exact ⟨ds ++ '\n' :: cs, by simpa using (List.cons.inj hcons).2⟩

/-- An item that is written as a clean element is read as the element with padded values and texts,
whether there are line feeds in them or not. -/
theorem isWrittenAs_padded (hrender : w.renderItem item = e.serialize w.settings.indentWidth)
    (hclean : e.IsClean) : IsWrittenAs w item (e.padded w.itemDepth).node := by
  have hlines := padLines_lineChars_nodeLines hclean w.settings.indentWidth 2
  have hne : nodeLines w.settings.indentWidth 0 e.node ≠ [] := by
    obtain ⟨l, ls, heq, -⟩ := head?_nodeLines e w.settings.indentWidth
    simp [heq]
  have hpadded : (e.padded w.itemDepth).node.IsClean := by
    rw [node_padded]
    exact Node.IsClean.padded hclean w.itemDepth
  obtain ⟨cs, hcs⟩ := exists_append_serialize e w.settings.indentWidth
  obtain ⟨ds, hreads, hds⟩ := exists_written_node w.settings.indentWidth 2 _ hpadded rfl
  refine isWrittenAs_of_padLines rfl (hrender ▸ hcs) ?_ hreads
  rw [hrender, Element.serialize, cons_toList_unlines hne, ← hds]
  exact hlines

/-! ## Policies as one element -/

/-- An attribute value that can be read back from where it is written. -/
def IsLegibleValue : AttributeValue → Prop
  | .literal s => IsCleanValue s
  | .namedValue r => '"' ∉ r.name.toList ∧ '&' ∉ r.name.toList

/-- The conditions under which a policy that is written as one element is read as that element. -/
structure CatalogItem.IsLegible (style : NamedValueStyle) (i : CatalogItem) : Prop where
  name : IsName i.policyId
  attributes : AreWellFormed (i.genericElement style).attributes
  parameters : ∀ a ∈ i.parameterTexts style, IsParameterText a.2
  values : ∀ a ∈ i.attributes.entries, IsLegibleValue a.2
  text : ∀ t, Writer.elementText? style i = some t → isBlankText t = true ∨ IsCleanText t

theorem NamedValue.isExpression_token (style : NamedValueStyle) (name : String) :
    isExpression (token style name) = false := by
  cases style with
  | dollar => simp [isExpression, token, tokenChars, NamedValueStyle.opening]
  | plain => simp [isExpression, token, tokenChars, NamedValueStyle.opening]

theorem notMem_padText {c : Char} (hc : c ≠ ' ') (h : c ∉ s.toList) (k : Nat) :
    c ∉ (padText k s).toList := by
  rw [toList_padText]
  intro hm
  rcases mem_of_mem_padLines hm with hm | hm
  · exact h hm
  · exact hc (List.eq_of_mem_replicate hm)

theorem readsAsValue_padText (hquote : '"' ∉ s.toList) (hamp : '&' ∉ s.toList)
    (hat : isExpression s = false) (k : Nat) : ReadsAsValue (padText k s) (padText k s) :=
  readsAsValue_self (notMem_padText (by decide) hquote k) (notMem_padText (by decide) hamp k)
    ((isExpression_padText k s).trans hat)

theorem readsAsValue_padText_attributeText (h : IsCleanValue s) (k : Nat) :
    ReadsAsValue (padText k (attributeText s)) (padText k s) := by
  rw [← attributeText_padText]
  exact readsAsValue_attributeText (h.padText k)

theorem readsAsValue_padded_parameter (h : CatalogItem.IsParameterText s) (k : Nat) :
    ReadsAsValue (padText k (if NamedValue.isToken s then s else attributeText s)) (padText k s) := by
  unfold CatalogItem.IsParameterText at h
  by_cases ht : NamedValue.isToken s = true
  · rw [if_pos ht] at h ⊢
    exact readsAsValue_padText h.1 h.2 (NamedValue.isExpression_of_isToken ht) k
  · rw [if_neg ht] at h ⊢
    exact readsAsValue_padText_attributeText h k

theorem readsAsValue_padded_value (style : NamedValueStyle) {v : AttributeValue}
    (h : IsLegibleValue v) (k : Nat) :
    ReadsAsValue (padText k (Writer.attributeValueText style v)) (padText k (v.text style)) := by
  cases v with
  | literal s => exact readsAsValue_padText_attributeText h k
  | namedValue r =>
    refine readsAsValue_padText ?_ ?_ (NamedValue.isExpression_token style r.name) k
    · intro hm
      rcases NamedValue.mem_token hm with hm | hm
      · simp at hm
      · exact h.1 hm
    · intro hm
      rcases NamedValue.mem_token hm with hm | hm
      · simp at hm
      · exact h.2 hm

namespace CatalogItem

theorem IsLegible.areReadable (h : i.IsLegible style) (k : Nat) :
    AreReadable ((i.rawAttributes style).map fun a => (a.1, padText k a.2)) ∧
      readRaw ((i.rawAttributes style).map fun a => (a.1, padText k a.2)) =
        ((i.genericElement style).padded k).attributes := by
  have hforall := forall₂_attributes (R := fun raw s => ReadsAsValue (padText k raw) (padText k s))
    style i (fun a ha => readsAsValue_padded_parameter (h.parameters a ha) k)
    (fun a ha => readsAsValue_padded_value style (h.values a ha) k)
  refine areReadable_of_forall₂ ?_ ?_
  · rw [Element.padded]
    exact List.forall₂_map_left_iff.2 (List.forall₂_map_right_iff.2 hforall)
  · rw [Element.padded]
    refine ⟨?_, ?_⟩
    · intro a ha
      obtain ⟨b, hb, rfl⟩ := List.mem_map.1 ha
      exact h.attributes.names b hb
    · rw [List.map_map]
      exact h.attributes.distinct

theorem IsLegible.isName_key (h : i.IsLegible style) : ∀ a ∈ i.rawAttributes style, IsName a.1 := by
  intro a ha
  have hmem : (a.1, padText 0 a.2) ∈ (i.rawAttributes style).map fun a => (a.1, padText 0 a.2) :=
    List.mem_map_of_mem ha
  have hname := (h.areReadable 0).1.names _ hmem
  exact hname

end CatalogItem

theorem toList_contentText_of_isBlankText (h : isBlankText s = true) :
    (contentText s).toList = s.toList := by
  have hself {cs : List Char} (hcs : IsBlankRun cs) : escapeTextChars cs = cs := by
    induction cs with
    | nil => rfl
    | cons c cs ih =>
      obtain ⟨hc, hcs⟩ := isBlankRun_cons.1 hcs
      have hform : textForm c = [c] := by
        unfold textForm
        split
        all_goals simp [isBlank] at hc ⊢
      rw [escapeTextChars_cons, hform, ih hcs, List.singleton_append]
  rw [contentText, if_neg (by simp [isExpression_of_isBlankText h]), toList_escapeText,
    hself (isBlankText_iff.1 h)]

/-- A text between tags: blanks, or a text that is read back. -/
theorem exists_written_text (h : isBlankText s = true ∨ IsCleanText s) (k : Nat) :
    ∃ written fin, AreSeparate written ∧ IsBlankRun fin ∧
      padLines (spaces k) (contentText s).toList = gappedChars [] written ++ fin ∧
        tidyNodes [.text (padText k s)] = written.map (·.2.tidy) := by
  by_cases hblank : isBlankText s = true
  · refine ⟨[], padLines (spaces k) (contentText s).toList, areSeparate_nil, ?_, rfl, ?_⟩
    · rw [toList_contentText_of_isBlankText hblank]
      exact isBlankRun_padLines (isBlankRun_replicate k) (isBlankText_iff.1 hblank)
    · rw [tidyNodes_cons_of_isBlank, tidyNodes_nil, List.map_nil]
      exact (isBlankText_padText k s).trans hblank
  · have hclean : IsCleanText (padText k s) := (h.resolve_left hblank).padText k
    have hvisible : (Node.text (padText k s)).isBlank = false := by
      rw [Bool.not_eq_true] at hblank
      exact (isBlankText_padText k s).trans hblank
    have hreads : ReadsAs (contentText (padText k s)).toList (.text (padText k s)) :=
      .text (isTextRun_contentText hclean) (by rw [unescapeChars_contentText hclean])
    have hw : AreWritten [((contentText (padText k s)).toList, Node.text (padText k s))]
        [.text (padText k s)] := areWritten_nil.cons hvisible hreads
    refine ⟨_, [], hw.areSeparate (by simp [HaveSeparateTexts, visibleNodes, hvisible]),
      isBlankRun_nil, ?_, hw.tidyNodes_eq⟩
    rw [← toList_padText, ← contentText_padText]
    simp [gappedChars]

theorem padLines_closedChars {name : String} {raw : Attributes} (hname : IsName name)
    (hraw : ∀ a ∈ raw, IsName a.1) (k : Nat) (rest : List Char) :
    padLines (spaces k) (closedChars name raw ++ rest) =
      closedChars name (raw.map fun a => (a.1, padText k a.2)) ++ padLines (spaces k) rest := by
  have hend : padLines (spaces k) (' ' :: '/' :: '>' :: rest) =
      ' ' :: '/' :: '>' :: padLines (spaces k) rest :=
    padLines_append (show ∀ c ∈ [' ', '/', '>'], isLineEnd c = false by simp [isLineEnd])
      (spaces k) rest
  have hassoc (raw : Attributes) (rest : List Char) : closedChars name raw ++ rest =
      '<' :: (name.toList ++ (attributeChars raw ++ ' ' :: '/' :: '>' :: rest)) := by
    simp [closedChars]
  rw [hassoc, hassoc, padLines_cons (by decide), padLines_append (isLineEnd_of_isName hname),
    padLines_attributeChars hraw, hend]

/-- Content between tags is padded on its own. -/
theorem padLines_elementChars {name : String} {raw : Attributes} (hname : IsName name)
    (hraw : ∀ a ∈ raw, IsName a.1) (k : Nat) (content rest : List Char) :
    padLines (spaces k) (elementChars name raw content ++ rest) =
      elementChars name (raw.map fun a => (a.1, padText k a.2)) (padLines (spaces k) content) ++
        padLines (spaces k) rest := by
  have hassoc (raw : Attributes) (content rest : List Char) : elementChars name raw content ++ rest =
      '<' :: (name.toList ++ (attributeChars raw ++
        '>' :: (content ++ '<' :: '/' :: (name.toList ++ '>' :: rest)))) := by
    simp [elementChars]
  rw [hassoc, hassoc, padLines_cons (by decide), padLines_append (isLineEnd_of_isName hname),
    padLines_attributeChars hraw, padLines_cons (by decide), padLines_append_cons (by decide),
    padLines_cons (by decide), padLines_append (isLineEnd_of_isName hname),
    padLines_cons (by decide)]

/-- A tag behind a line feed is put at the depth of items. -/
theorem padLines_lineFeed_bracket (w : Writer) (cs : List Char) :
    padLines (spaces w.itemDepth) ('\n' :: '<' :: cs) =
      lineGap w.settings.indentWidth 2 ++ padLines (spaces w.itemDepth) ('<' :: cs) := by
  rw [padLines_lineFeed, startsEmptyLine_cons (by decide), if_neg (by simp), lineGap_two,
    List.cons_append]

theorem Writer.toList_renderGeneric (w : Writer) (i : CatalogItem) :
    (w.renderGeneric i).toList =
      match elementText? w.settings.namedValueStyle i with
      | some t => elementChars i.policyId (i.rawAttributes w.settings.namedValueStyle)
          (contentText t).toList
      | none => closedChars i.policyId (i.rawAttributes w.settings.namedValueStyle) := by
  unfold renderGeneric CatalogItem.rawAttributes
  cases ht : elementText? w.settings.namedValueStyle i with
  | some t => simp [ht, toList_rawAttributes, elementChars, toList_endTag]
  | none => simp [ht, toList_rawAttributes, closedChars]

/-- A policy that is written as one element is read as the element with padded values and text. -/
theorem isWrittenAs_padded_generic (h : i.IsLegible w.settings.namedValueStyle)
    (hrender : w.renderItem (.catalog i) = w.renderGeneric i) :
    IsWrittenAs w (.catalog i)
      ((i.genericElement w.settings.namedValueStyle).padded w.itemDepth).node := by
  obtain ⟨hreadable, hread⟩ := h.areReadable w.itemDepth
  have htext := w.toList_renderGeneric i
  have hchildren : ((i.genericElement w.settings.namedValueStyle).padded w.itemDepth).children =
      paddedNodes w.itemDepth
        (((Writer.elementText? w.settings.namedValueStyle i).map Node.text).toList) := rfl
  have helement : (i.genericElement w.settings.namedValueStyle).padded w.itemDepth =
      ⟨i.policyId, readRaw ((i.rawAttributes w.settings.namedValueStyle).map fun a =>
        (a.1, padText w.itemDepth a.2)), paddedNodes w.itemDepth
          (((Writer.elementText? w.settings.namedValueStyle i).map Node.text).toList)⟩ := by
    rw [hread]
    rfl
  rw [helement]
  rw [← hrender] at htext
  cases ht : Writer.elementText? w.settings.namedValueStyle i with
  | none =>
    rw [ht] at htext
    have hchildless : tidyNodes (paddedNodes w.itemDepth []) = [] := tidyNodes_nil
    have hclosed := readsAsElement_closed h.name hreadable hchildless
    have hpad := padLines_closedChars h.name h.isName_key w.itemDepth []
    rw [List.append_nil, padLines_nil, List.append_nil] at hpad
    refine isWrittenAs_of_padLines rfl (t := '<' :: (i.policyId.toList ++ (attributeChars
      (i.rawAttributes w.settings.namedValueStyle) ++ [' ', '/']))) ?_ ?_ hclosed.inside
    · rw [htext]
      simp [closedChars]
    · rw [htext]
      dsimp only
      rw [← hpad]
      exact padLines_lineFeed_bracket w _
  | some t =>
    rw [ht] at htext
    obtain ⟨written, fin, hw, hfin, hcontent, htidy⟩ := exists_written_text (h.text t ht) w.itemDepth
    have hopened := readsAsElement_element h.name hreadable isBlankRun_nil hfin hw htidy
    have hpad := padLines_elementChars h.name h.isName_key w.itemDepth (contentText t).toList []
    rw [List.append_nil, padLines_nil, List.append_nil, hcontent] at hpad
    refine isWrittenAs_of_padLines rfl (t := '<' :: (i.policyId.toList ++ (attributeChars
      (i.rawAttributes w.settings.namedValueStyle) ++ '>' :: ((contentText t).toList ++
        '<' :: '/' :: i.policyId.toList)))) ?_ ?_ hopened.inside
    · rw [htext]
      simp [elementChars]
    · rw [htext]
      dsimp only
      rw [← hpad]
      exact padLines_lineFeed_bracket w _

/-! ## Branches -/

/-- The characters are content: in front of an end tag they are read as nodes, up to blanks that
layout may add, whatever elements are open. -/
def IsContent (cs : List Char) : Prop :=
  ∃ ns, ∀ r, ∃ ms, tidyNodes ms = tidyNodes ns ∧ Yields (cs ++ '<' :: '/' :: r) ms ('<' :: '/' :: r)

/-- Raw policies where they stand in a document, between the tags of a branch. -/
def Writer.branchChars (w : Writer) (body : List String) : List Char :=
  padLines (spaces w.itemDepth)
    (lineChars (Template.indented w.settings body) ++ '\n' :: spaces w.settings.indentWidth)

/-- The lines are read as one element when they stand in a document. -/
def IsBranch (w : Writer) (ls : List String) : Prop :=
  ∃ (cs : List Char) (e : Element), ReadsAs cs e.node ∧
    ∀ rest, padLines (spaces w.itemDepth) (lineChars ls ++ rest) =
      lineGap w.settings.indentWidth 3 ++ cs ++ padLines (spaces w.itemDepth) rest

theorem toList_indent_one (settings : Settings) :
    (settings.indent 1).toList = spaces settings.indentWidth := by
  rw [Settings.indent, toList_indentation, Nat.mul_one]

theorem padLines_branch_start (w : Writer) (cs : List Char) :
    padLines (spaces w.itemDepth) ('\n' :: (spaces w.settings.indentWidth ++ '<' :: cs)) =
      lineGap w.settings.indentWidth 3 ++ padLines (spaces w.itemDepth) ('<' :: cs) := by
  have hspaces : spaces w.itemDepth ++ spaces w.settings.indentWidth =
      spaces (w.settings.indentWidth * 3) := by
    rw [List.replicate_append_replicate]
    exact congrArg spaces (Nat.mul_succ w.settings.indentWidth 2).symm
  have hstart : startsEmptyLine (spaces w.settings.indentWidth ++ '<' :: cs) = false := by
    cases w.settings.indentWidth with
    | zero => exact startsEmptyLine_cons (by decide) cs
    | succ n => exact startsEmptyLine_cons (by decide) _
  rw [padLines_lineFeed, hstart, if_neg (by simp), padLines_append fun c => isLineEnd_of_mem_spaces,
    ← List.append_assoc, hspaces]
  rfl

theorem isBranch_branch {start name : String} {r : Attributes} {body : List String}
    (hname : IsName name) (hstart : start.toList = '<' :: (name.toList ++ attributeChars r))
    (hkeys : ∀ a ∈ r, IsName a.1)
    (hraw : AreReadable (r.map fun a => (a.1, padText w.itemDepth a.2)))
    (hbody : IsContent (w.branchChars body)) :
    IsBranch w (Template.branch w.settings start name body) := by
  rw [Template.branch]
  split
  · refine ⟨_, _, (readsAsElement_closed hname hraw tidyNodes_nil).inside, fun rest => ?_⟩
    rw [List.append_assoc, ← padLines_closedChars hname hkeys]
    have hpad := padLines_branch_start w
      (name.toList ++ (attributeChars r ++ ' ' :: '/' :: '>' :: rest))
    simpa [hstart, closedChars, toList_indent_one] using hpad
  · obtain ⟨ns, hns⟩ := hbody
    refine ⟨elementChars name (r.map fun a => (a.1, padText w.itemDepth a.2)) (w.branchChars body),
      ⟨name, readRaw (r.map fun a => (a.1, padText w.itemDepth a.2)), ns⟩, ?_, fun rest => ?_⟩
    · refine .markup rfl fun tail => ?_
      obtain ⟨ms, hms, hyields⟩ := hns (name.toList ++ '>' :: tail)
      refine ⟨_, ?_, by simpa using yields_element hname hraw hyields⟩
      rw [Element.node, Node.tidy, Node.tidy, hms]
    · rw [List.append_assoc, Writer.branchChars, ← padLines_elementChars hname hkeys]
      have hpad := padLines_branch_start w (name.toList ++ (attributeChars r ++
        '>' :: (lineChars (Template.indented w.settings body) ++
          '\n' :: (spaces w.settings.indentWidth ++ '<' :: '/' :: (name.toList ++ '>' :: rest)))))
      simpa [hstart, elementChars, toList_indent_one, toList_endTag] using hpad

/-- Raw policies that are the lines of clean nodes are content. -/
theorem isContent_childLines (w : Writer) {ns : List Node} (hclean : ∀ n ∈ ns, n.IsClean)
    (htexts : HaveSeparateTexts ns) :
    IsContent (w.branchChars (childLines w.settings.indentWidth 0 ns)) := by
  have hindented : Template.indented w.settings (childLines w.settings.indentWidth 0 ns) =
      childLines w.settings.indentWidth 2 ns := by
    rw [← Nat.zero_add 2, childLines_add, Template.indented]
    refine List.map_congr_left fun l _ => ?_
    exact congrArg (· ++ l) (indentation_add w.settings.indentWidth 1 1).symm
  have hpadded : ∀ n ∈ paddedNodes w.itemDepth ns, n.IsClean := by
    intro n hn
    rw [paddedNodes_eq] at hn
    obtain ⟨m, hm, rfl⟩ := List.mem_map.1 hn
    exact (hclean m hm).padded w.itemDepth
  obtain ⟨written, hw, heq⟩ := exists_written_children w.settings.indentWidth 4 _ hpadded
  have hfin : IsBlankRun (padLines (spaces w.itemDepth) ('\n' :: spaces w.settings.indentWidth)) :=
    isBlankRun_padLines (isBlankRun_replicate _)
      (isBlankRun_cons.2 ⟨by decide, isBlankRun_replicate _⟩)
  refine ⟨paddedNodes w.itemDepth ns, fun r => ?_⟩
  obtain ⟨ms, hms, hyields⟩ := yields_content (isBlankRun_lineGap w.settings.indentWidth 4) hfin
    (hw.areSeparate (htexts.padded w.itemDepth)) ('/' :: r)
  refine ⟨ms, hms.trans hw.tidyNodes_eq.symm, ?_⟩
  rw [Writer.branchChars, hindented, Writer.itemDepth, padLines_lineChars_childLines hclean,
    ← Writer.itemDepth, heq, List.append_assoc]
  exact hyields

/-- The conditions under which branches of raw policies are read: conditions can be read back, and
raw policies are content. -/
structure AreBranches (w : Writer) (c : Fields) : Prop where
  conditions : ∀ fields ∈ Template.objects c "when",
    IsCleanValue ((Template.text? w.settings.namedValueStyle fields "condition").getD "")
  policies : ∀ fields ∈ Template.objects c "when",
    IsContent (w.branchChars ((Template.rawLines fields "policies").getD []))
  otherwise : ∀ body, Template.rawLines c "otherwise" = some body → IsContent (w.branchChars body)

theorem AreBranches.isBranch_when (h : AreBranches w c) :
    ∀ fields ∈ Template.objects c "when", IsBranch w (Template.whenLines w.settings fields) := by
  intro fields hfields
  have hcondition : IsName "condition" := by decide
  have hclean := (h.conditions fields hfields).padText w.itemDepth
  refine isBranch_branch (r := [("condition", attributeText
    ((Template.text? w.settings.namedValueStyle fields "condition").getD ""))])
    (by decide) ?_ ?_ ?_ (h.policies fields hfields)
  · simp [attributeChars]
  · rw [List.forall_mem_singleton]
    exact hcondition
  · have hreads := readsAsValue_attributeText hclean
    rw [attributeText_padText] at hreads
    refine ⟨?_, ?_, ?_⟩
    · rw [List.map_singleton, List.forall_mem_singleton]
      exact hcondition
    · simp
    · rw [List.map_singleton, List.forall_mem_singleton]
      exact hreads.quotable

theorem AreBranches.isBranch_otherwise (h : AreBranches w c) {body : List String}
    (hbody : Template.rawLines c "otherwise" = some body) :
    IsBranch w (Template.branch w.settings "<otherwise" "otherwise" body) :=
  isBranch_branch (r := []) (by decide) rfl (by simp) areReadable_nil (h.otherwise body hbody)

/-- The lines of a choice are its tags and between them those of its branches. -/
theorem AreBranches.exists_chooseLines (h : AreBranches w c) :
    ∃ branches : List (List String), (∀ ls ∈ branches, IsBranch w ls) ∧
      Template.chooseLines w.settings c = "<choose>" :: (branches.flatten ++ ["</choose>"]) := by
  refine ⟨(Template.objects c "when").map (Template.whenLines w.settings) ++
    ((Template.rawLines c "otherwise").map
      (Template.branch w.settings "<otherwise" "otherwise")).toList, ?_, ?_⟩
  · intro ls hls
    rw [List.mem_append, List.mem_map, Option.mem_toList, Option.map_eq_some_iff] at hls
    rcases hls with ⟨fields, hfields, rfl⟩ | ⟨body, hbody, rfl⟩
    · exact h.isBranch_when fields hfields
    · exact h.isBranch_otherwise hbody
  · rw [Template.chooseLines, Template.otherwiseLines, List.flatten_append, ← List.flatMap_def]
    cases Template.rawLines c "otherwise" with
    | none => simp [endTag]
    | some body => simp [endTag]

theorem exists_written_branches {branches : List (List String)}
    (h : ∀ ls ∈ branches, IsBranch w ls) :
    ∃ (written : List (List Char × Node)) (es : List Element),
      AreWritten written (es.map Element.node) ∧
        ∀ rest, padLines (spaces w.itemDepth) (lineChars branches.flatten ++ rest) =
          gappedChars (lineGap w.settings.indentWidth 3) written ++
            padLines (spaces w.itemDepth) rest := by
  induction branches with
  | nil => exact ⟨[], [], areWritten_nil, fun rest => rfl⟩
  | cons ls branches ih =>
    obtain ⟨hls, hbranches⟩ := List.forall_mem_cons.1 h
    obtain ⟨cs, e, hreads, heq⟩ := hls
    obtain ⟨written, es, hw, hrest⟩ := ih hbranches
    refine ⟨(cs, e.node) :: written, e :: es, hw.cons rfl hreads, fun rest => ?_⟩
    rw [List.flatten_cons, lineChars_append, List.append_assoc, heq, hrest, gappedChars_cons]
    simp

/-- Branches are written as one element that holds nothing but elements. -/
theorem exists_isWrittenAs_choose (h : AreBranches w c)
    (hrender : w.renderItem item = Template.choose.render w.settings c) :
    ∃ es : List Element, IsWrittenAs w item (⟨"choose", [], es.map Element.node⟩ : Element).node := by
  obtain ⟨branches, hbranches, hlines⟩ := h.exists_chooseLines
  obtain ⟨written, es, hw, hpadded⟩ := exists_written_branches hbranches
  refine ⟨es, ?_⟩
  have hseparate : HaveSeparateTexts (es.map Element.node) :=
    haveSeparateTexts_of_pairwise (List.pairwise_map.2 (List.pairwise_of_forall fun _ _ => rfl))
  have hreads := readsAsElement_element (show IsName "choose" by decide) areReadable_nil
    (isBlankRun_lineGap w.settings.indentWidth 3) (isBlankRun_lineGap w.settings.indentWidth 2)
    (hw.areSeparate hseparate) hw.tidyNodes_eq
  have htext : (w.renderItem item).toList =
      "<choose>".toList ++ (lineChars branches.flatten ++ '\n' :: "</choose>".toList) := by
    rw [hrender, Template.render, hlines, toList_unlines_cons, lineChars_append]
    simp
  refine isWrittenAs_of_padLines rfl (t := "<choose>".toList ++ (lineChars branches.flatten ++
    '\n' :: "</choose".toList)) ?_ ?_ hreads.inside
  · rw [htext]
    simp
  · have hchoose := padLines_lineFeed_bracket w ("choose>".toList ++
      (lineChars branches.flatten ++ '\n' :: "</choose>".toList))
    have hend : padLines (spaces w.itemDepth) ('\n' :: "</choose>".toList) =
        lineGap w.settings.indentWidth 2 ++ "</choose>".toList := by
      refine (padLines_lineFeed_bracket w "/choose>".toList).trans (congrArg _ ?_)
      exact padLines_of_forall (by simp [isLineEnd]) (spaces w.itemDepth)
    have hopen : padLines (spaces w.itemDepth) ("<choose>".toList ++
        (lineChars branches.flatten ++ '\n' :: "</choose>".toList)) =
          "<choose>".toList ++ (gappedChars (lineGap w.settings.indentWidth 3) written ++
            (lineGap w.settings.indentWidth 2 ++ "</choose>".toList)) := by
      rw [padLines_append (by simp [isLineEnd]), hpadded, hend]
    rw [htext]
    refine hchoose.trans (congrArg _ (hopen.trans ?_))
    simp [elementChars, attributeChars]

end GatewayPolicy
