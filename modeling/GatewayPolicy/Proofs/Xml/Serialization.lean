import GatewayPolicy.Proofs.Text.Lines
import GatewayPolicy.Proofs.Xml.Nodes
/-!
# The reader undoes the layout

A tree is clean if its names are names and its values and texts are literal or complete expressions.
However far a clean tree is indented, its text is read back as the tree, up to blank texts and blanks
at the ends of texts.
-/

namespace GatewayPolicy.Xml

open Text

/-! ## Clean trees -/

/-- An attribute value that is read back: it is literal or one complete expression. -/
def IsCleanValue (s : String) : Prop := isExpression s = false ∨ IsCompleteExpression s

instance (s : String) : Decidable (IsCleanValue s) := inferInstanceAs (Decidable (_ ∨ _))

/-- A trimmed text that is read back: it is literal or one complete expression. -/
def IsCleanText (s : String) : Prop :=
  isExpression s = false ∧ MentionsNoExpression s ∨ IsCompleteExpression s

instance (s : String) : Decidable (IsCleanText s) := inferInstanceAs (Decidable (_ ∨ _))

/-- Attributes that are read back. -/
structure AreCleanAttributes (attributes : Attributes) : Prop where
  /-- The keys are names. -/
  names : ∀ a ∈ attributes, IsName a.1
  /-- No key is repeated. -/
  distinct : (attributes.map Prod.fst).Nodup
  /-- The values are clean. -/
  values : ∀ a ∈ attributes, IsCleanValue a.2

/-- The nodes that have something visible. -/
def visibleNodes (ns : List Node) : List Node := ns.filter (!·.isBlank)

/-- No two texts are neighbours once blank texts are dropped. -/
def HaveSeparateTexts (ns : List Node) : Prop :=
  (visibleNodes ns).IsChain fun n m => (n.isText && m.isText) = false

instance (ns : List Node) : Decidable (HaveSeparateTexts ns) :=
  inferInstanceAs (Decidable (List.IsChain _ _))

/-- A node that is read back, at every depth. -/
inductive Node.IsClean : Node → Prop
  /-- An element with a name, clean attributes and clean children. -/
  | element {name : String} {attributes : Attributes} {children : List Node}
      (hname : IsName name) (hattributes : AreCleanAttributes attributes)
      (hchildren : ∀ n ∈ children, Node.IsClean n) (htexts : HaveSeparateTexts children) :
      Node.IsClean (.element name attributes children)
  /-- A text that is blank or clean between its blanks. -/
  | text {s : String} (h : isBlankText s = true ∨ IsCleanText (trim s)) : Node.IsClean (.text s)
  /-- A CDATA section without its closing mark. -/
  | cdata {s : String} (h : ¬ [']', ']', '>'] <:+: s.toList) : Node.IsClean (.cdata s)
  /-- A comment without its closing mark. -/
  | comment {s : String} (h : ¬ ['-', '-', '>'] <:+: s.toList) : Node.IsClean (.comment s)

/-- An element that is read back. -/
def Element.IsClean (e : Element) : Prop := e.node.IsClean

variable {s name : String} {attributes : Attributes} {children ns : List Node} {n : Node}
  {e : Element}

theorem Element.isClean_of (hname : IsName e.name) (hattributes : AreCleanAttributes e.attributes)
    (hchildren : ∀ n ∈ e.children, n.IsClean) (htexts : HaveSeparateTexts e.children) :
    e.IsClean :=
  .element hname hattributes hchildren htexts

theorem haveSeparateTexts_of_pairwise (h : ns.Pairwise fun n m => (n.isText && m.isText) = false) :
    HaveSeparateTexts ns :=
  (h.filter _).isChain

theorem haveSeparateTexts_of_elements (h : ∀ n ∈ ns, ∃ c : Element, n = c.node) :
    HaveSeparateTexts ns := by
  refine haveSeparateTexts_of_pairwise (List.pairwise_of_forall_mem_list fun n hn _ _ => ?_)
  obtain ⟨c, rfl⟩ := h n hn
  rfl

/-! ## Values and texts -/

theorem unescape_attributeText (h : IsCleanValue s) : unescape (attributeText s) = s := by
  unfold attributeText
  rcases h with h | h
  · rw [if_neg (by simp [h]), unescape, toList_escape, unescapeChars_escapeChars,
      String.ofList_toList]
  · by_cases hs : isExpression s = true
    · rw [if_pos hs]
      exact h.2
    · rw [if_neg hs, unescape, toList_escape, unescapeChars_escapeChars, String.ofList_toList]

theorem isExpression_of_isBlankText (h : isBlankText s = true) : isExpression s = false := by
  rw [isExpression, beq_eq_false_iff_ne]
  intro hat
  have hblank := isBlankText_iff.1 h '@' (List.mem_of_mem_head? hat)
  simp [isBlank] at hblank

/-- An at sign in front is visible, so trimming keeps it there. -/
theorem isExpression_trim (h : isExpression s = true) : isExpression (trim s) = true := by
  have hblank : isBlank '@' = false := by decide
  rw [isExpression, beq_iff_eq] at h ⊢
  obtain ⟨ws, ws', hws, hws', heq⟩ := exists_surround_trimChars s.toList
  rw [toList_trim]
  generalize trimChars s.toList = cs at heq ⊢
  rw [heq, List.append_assoc] at h
  have hmem : '@' ∉ ws := hws.notMem hblank
  have hmem' : '@' ∉ ws' := hws'.notMem hblank
  cases ws with
  | cons c ws =>
    have hc : c = '@' := by simpa using h
    exact absurd (hc ▸ List.mem_cons_self) hmem
  | nil =>
    cases cs with
    | nil => exact absurd (List.mem_of_mem_head? h) hmem'
    | cons c cs => exact h

/-- The mark of an expression is no reference. -/
theorem isExpression_unescape (h : isExpression s = true) : isExpression (unescape s) = true := by
  unfold isExpression at h ⊢
  cases hs : s.toList with
  | nil => simp [hs] at h
  | cons c cs =>
    obtain rfl : c = '@' := by simpa [hs] using h
    rw [unescape, String.toList_ofList, hs, unescapeChars, if_neg (by decide)]
    rfl

theorem opensExpression_escapeChars (h : isExpression s = false) :
    opensExpression (escapeChars s.toList) = false := by
  refine not_opensExpression ?_
  rw [isExpression, String.toList_ofList]
  cases hs : s.toList with
  | nil => rfl
  | cons c cs =>
    have hc : c ≠ '@' := by
      rintro rfl
      simp [isExpression, hs] at h
    rw [escapeChars_cons]
    unfold attributeForm
    split <;> simp [hc]

theorem isExpression_of_isCompleteExpression (h : IsCompleteExpression s) :
    isExpression s = true := by
  obtain ⟨b, cs, e, hs, -, -⟩ := exists_of_scanExpression? h.1
  simp [isExpression, hs]

theorem isQuotable_attributeText (h : IsCleanValue s) : IsQuotable (attributeText s).toList := by
  unfold attributeText
  rcases h with h | h
  · rw [if_neg (by simp [h]), toList_escape]
    exact isQuotable_of_notMem (notMem_escapeChars (by simp)) (opensExpression_escapeChars h)
  · rw [if_pos (isExpression_of_isCompleteExpression h)]
    exact isQuotable_of_scanExpression? h.1

theorem isTextRun_contentText (h : IsCleanText s) : isTextRun (contentText s).toList = true := by
  unfold contentText
  rcases h with ⟨h, hm⟩ | h
  · rw [if_neg (by simp [h]), toList_escapeText]
    exact isTextRun_escapeTextChars hm
  · rw [if_pos (isExpression_of_isCompleteExpression h), isTextRun_expression h.1, isTextRun_nil]

theorem unescapeChars_contentText (h : IsCleanText s) :
    unescapeChars (contentText s).toList = s.toList := by
  unfold contentText
  rcases h with ⟨h, -⟩ | h
  · rw [if_neg (by simp [h]), toList_escapeText, unescapeChars_escapeTextChars]
  · rw [if_pos (isExpression_of_isCompleteExpression h), ← String.toList_ofList
      (l := unescapeChars s.toList), ← unescape, h.2]

/-- A clean text is read back, whatever blanks are dropped at its ends. -/
theorem readsAs_contentText (h : IsCleanText (trim s)) :
    ReadsAs (contentText (trim s)).toList (.text s) := by
  refine .text (isTextRun_contentText h) ?_
  rw [unescapeChars_contentText h, toList_trim, trimChars_trimChars]

/-! ## Attributes -/

/-- The attributes with their values as they are written. -/
def writtenAttributes (attributes : Attributes) : Attributes :=
  attributes.map fun (key, value) => (key, attributeText value)

theorem toList_attributesText (attributes : Attributes) :
    (attributesText attributes).toList = attributeChars (writtenAttributes attributes) := by
  simp [attributesText, attributeChars, writtenAttributes, String.toList_join, List.flatMap_map]

theorem readRaw_writtenAttributes (h : AreCleanAttributes attributes) :
    readRaw (writtenAttributes attributes) = attributes := by
  rw [readRaw, writtenAttributes, List.map_map]
  conv => rhs; rw [← List.map_id attributes]
  refine List.map_congr_left fun a ha => ?_
  show (a.1, unescape (attributeText a.2)) = a
  rw [unescape_attributeText (h.values a ha)]

theorem areReadable_writtenAttributes (h : AreCleanAttributes attributes) :
    AreReadable (writtenAttributes attributes) := by
  refine ⟨?_, ?_, ?_⟩
  · intro a ha
    obtain ⟨b, hb, rfl⟩ := List.mem_map.1 ha
    exact h.names b hb
  · have hkeys : (writtenAttributes attributes).map Prod.fst = attributes.map Prod.fst := by
      simp [writtenAttributes]
    rw [hkeys]
    exact h.distinct
  · intro a ha
    obtain ⟨b, hb, rfl⟩ := List.mem_map.1 ha
    exact isQuotable_attributeText (h.values b hb)

/-! ## Layout -/

/-- The line feed and the spaces in front of a line at a depth. -/
def lineGap (width depth : Nat) : List Char := '\n' :: List.replicate (width * depth) ' '

theorem isBlankRun_lineGap (width depth : Nat) : IsBlankRun (lineGap width depth) := by
  refine isBlankRun_cons.2 ⟨by decide, ?_⟩
  exact isBlankRun_replicate _

/-- The line feed and the spaces in front of a line at a depth, when all lines have a pad in front. -/
def paddedGap (pad : String) (width depth : Nat) : List Char :=
  '\n' :: (pad.toList ++ List.replicate (width * depth) ' ')

theorem isBlankRun_paddedGap {pad : String} (hpad : IsBlankRun pad.toList) (width depth : Nat) :
    IsBlankRun (paddedGap pad width depth) :=
  isBlankRun_cons.2 ⟨by decide, isBlankRun_append.2 ⟨hpad, isBlankRun_replicate _⟩⟩

/-- Nodes with what is written for them: each is read back as what it is, and they are the visible
ones of the given nodes. -/
structure AreWritten (written : List (List Char × Node)) (ns : List Node) : Prop where
  /-- Each is read back. -/
  reads : ∀ p ∈ written, ReadsAs p.1 p.2
  /-- They are the visible nodes. -/
  nodes : written.map Prod.snd = visibleNodes ns

variable {written : List (List Char × Node)}

theorem AreWritten.tidyNodes_eq (h : AreWritten written ns) :
    tidyNodes ns = written.map (·.2.tidy) := by
  rw [Xml.tidyNodes_eq, ← visibleNodes, ← h.nodes, List.map_map]
  rfl

theorem AreWritten.areSeparate (h : AreWritten written ns) (htexts : HaveSeparateTexts ns) :
    AreSeparate written := by
  refine ⟨h.reads, ?_, ?_⟩
  · intro p hp
    have hmem : p.2 ∈ visibleNodes ns := h.nodes ▸ List.mem_map_of_mem hp
    simpa using (List.mem_filter.1 hmem).2
  · rw [HaveSeparateTexts, ← h.nodes, List.isChain_map] at htexts
    exact htexts

theorem visibleNodes_cons_of_isBlank (h : n.isBlank = true) (ns : List Node) :
    visibleNodes (n :: ns) = visibleNodes ns := by
  rw [visibleNodes, List.filter_cons_of_neg (by simp [h])]
  rfl

theorem visibleNodes_cons (h : n.isBlank = false) (ns : List Node) :
    visibleNodes (n :: ns) = n :: visibleNodes ns := by
  rw [visibleNodes, List.filter_cons_of_pos (by simp [h])]
  rfl

/-- Nodes with one tidy form have the same visible nodes, one by one. -/
theorem forall₂_visibleNodes {ms : List Node} (h : tidyNodes ns = tidyNodes ms) :
    List.Forall₂ (fun n m => n.tidy = m.tidy) (visibleNodes ns) (visibleNodes ms) := by
  rw [Xml.tidyNodes_eq, Xml.tidyNodes_eq, ← visibleNodes, ← visibleNodes, ← List.forall₂_eq_eq_eq,
    List.forall₂_map_left_iff, List.forall₂_map_right_iff] at h
  exact h

theorem areWritten_nil : AreWritten [] [] := ⟨by simp, rfl⟩

theorem AreWritten.cons_blank (h : AreWritten written ns) (hn : n.isBlank = true) :
    AreWritten written (n :: ns) :=
  ⟨h.reads, by rw [visibleNodes_cons_of_isBlank hn, h.nodes]⟩

theorem AreWritten.cons {s : List Char} (h : AreWritten written ns) (hn : n.isBlank = false)
    (hs : ReadsAs s n) : AreWritten ((s, n) :: written) (n :: ns) :=
  ⟨List.forall_mem_cons.2 ⟨hs, h.reads⟩, by rw [visibleNodes_cons hn, List.map_cons, h.nodes]⟩

theorem AreWritten.append {written' : List (List Char × Node)} {ms : List Node}
    (h : AreWritten written ns) (h' : AreWritten written' ms) :
    AreWritten (written ++ written') (ns ++ ms) := by
  refine ⟨List.forall_mem_append.2 ⟨h.reads, h'.reads⟩, ?_⟩
  rw [List.map_append, h.nodes, h'.nodes, visibleNodes, visibleNodes, visibleNodes,
    List.filter_append]

/-- What is written behind a gap for each of some things is read back one after the other. -/
theorem exists_written_flatMap {α : Type} {gap : List Char} {f : α → List String} {as : List α}
    (h : List.Forall₂ (fun a n => n.isBlank = false ∧
      ∃ cs, ReadsAs cs n ∧ lineChars (f a) = gap ++ cs) as ns) :
    ∃ written, AreWritten written ns ∧ lineChars (as.flatMap f) = gappedChars gap written := by
  induction h with
  | nil => exact ⟨[], areWritten_nil, rfl⟩
  | cons ha _ ih =>
    obtain ⟨written, hw, heq⟩ := ih
    obtain ⟨hvisible, cs, hcs, hlines⟩ := ha
    refine ⟨_, hw.cons hvisible hcs, ?_⟩
    rw [List.flatMap_cons, lineChars_append, hlines, heq, gappedChars_cons]

theorem toList_openTag (name : String) (attributes : Attributes) :
    (openTag name attributes).toList =
      '<' :: (name.toList ++ attributeChars (writtenAttributes attributes)) := by
  simp [openTag, toList_attributesText]

theorem toList_endTag (name : String) :
    (endTag name).toList = '<' :: '/' :: (name.toList ++ ['>']) := by
  simp [endTag]

theorem readsAs_cdataText (h : ¬ [']', ']', '>'] <:+: s.toList) :
    ReadsAs (cdataText s).toList (.cdata s) := by
  simpa [cdataText] using readsAs_cdata h

theorem readsAs_commentText (h : ¬ ['-', '-', '>'] <:+: s.toList) :
    ReadsAs (commentText s).toList (.comment s) := by
  simpa [commentText] using readsAs_comment h

theorem exists_written_inline (hclean : ∀ n ∈ ns, n.IsClean)
    (hchars : ns.all Node.isCharacters = true) :
    ∃ written, AreWritten written ns ∧
      (String.join (ns.map inlineText)).toList = gappedChars [] written := by
  induction ns with
  | nil => exact ⟨[], areWritten_nil, by simp⟩
  | cons n ns ih =>
    obtain ⟨hn, hns⟩ := List.forall_mem_cons.1 hclean
    rw [List.all_cons, Bool.and_eq_true] at hchars
    obtain ⟨written, hw, heq⟩ := ih hns hchars.2
    have hjoin : (String.join ((n :: ns).map inlineText)).toList =
        (inlineText n).toList ++ gappedChars [] written := by
      rw [List.map_cons, String.join_cons, String.toList_append, heq]
    by_cases hb : n.isBlank = true
    · refine ⟨written, hw.cons_blank hb, ?_⟩
      rw [hjoin, inlineText_of_isBlank hb]
      rfl
    · rw [Bool.not_eq_true] at hb
      refine ⟨((inlineText n).toList, n) :: written, hw.cons hb ?_, ?_⟩
      · cases hn with
        | element => simp [Node.isCharacters] at hchars
        | @text s h =>
          rcases h with h | h
          · rw [Node.isBlank, h] at hb
            simp at hb
          · exact readsAs_contentText h
        | cdata h => exact readsAs_cdataText h
        | comment => simp [Node.isCharacters] at hchars
      · rw [hjoin, gappedChars_cons, List.nil_append]

/-- The lines of an element are read back, behind any blanks, if its tag can be read and the lines of
its children are read back. -/
theorem exists_padded_element {pad : String} (hpad : IsBlankRun pad.toList) (width depth : Nat)
    (hname : IsName name) (hreadable : AreReadable (writtenAttributes attributes))
    (hclean : ∀ n ∈ children, n.IsClean) (htexts : HaveSeparateTexts children)
    (hlines : ∃ written, AreWritten written children ∧
      lineChars ((childLines width (depth + 1) children).map (pad ++ ·)) =
        gappedChars (paddedGap pad width (depth + 1)) written) :
    ∃ s, ReadsAsElement s ⟨name, readRaw (writtenAttributes attributes), children⟩ ∧
      lineChars ((nodeLines width depth (.element name attributes children)).map (pad ++ ·)) =
        paddedGap pad width depth ++ s := by
  rw [nodeLines]
  by_cases hblank : children.all Node.isBlank = true
  · have hc : tidyNodes children = [] := by
      rw [tidyNodes_eq, List.filter_eq_nil_iff.2, List.map_nil]
      intro n hn
      simpa using List.all_eq_true.1 hblank n hn
    refine ⟨closedChars name (writtenAttributes attributes),
      readsAsElement_closed hname hreadable hc, ?_⟩
    simp [hblank, toList_openTag, paddedGap, closedChars]
  · by_cases hchars : children.all Node.isCharacters = true
    · obtain ⟨written, hw, heq⟩ := exists_written_inline hclean hchars
      refine ⟨elementChars name (writtenAttributes attributes) (gappedChars [] written ++ []),
        readsAsElement_element hname hreadable isBlankRun_nil isBlankRun_nil
          (hw.areSeparate htexts) hw.tidyNodes_eq, ?_⟩
      rw [if_neg hblank, if_pos hchars]
      simp [heq, toList_openTag, toList_endTag, paddedGap, elementChars]
    · obtain ⟨written, hw, heq⟩ := hlines
      refine ⟨elementChars name (writtenAttributes attributes)
        (gappedChars (paddedGap pad width (depth + 1)) written ++ paddedGap pad width depth),
        readsAsElement_element hname hreadable (isBlankRun_paddedGap hpad width (depth + 1))
          (isBlankRun_paddedGap hpad width depth) (hw.areSeparate htexts) hw.tidyNodes_eq, ?_⟩
      rw [if_neg hblank, if_neg hchars, List.map_cons, List.map_append, lineChars_cons,
        lineChars_append, heq]
      simp [toList_openTag, toList_endTag, paddedGap, elementChars]

mutual

/-- The lines of a clean node that is not blank are read back as the node, behind any blanks. -/
theorem exists_padded_node {pad : String} (hpad : IsBlankRun pad.toList) (width depth : Nat)
    (n : Node) (hclean : n.IsClean) (hvisible : n.isBlank = false) :
    ∃ s, ReadsAs s n ∧
      lineChars ((nodeLines width depth n).map (pad ++ ·)) = paddedGap pad width depth ++ s := by
  match n with
  | .element name attributes children =>
    cases hclean with
    | element hname hattributes hchildren htexts =>
      obtain ⟨s, hs, heq⟩ := exists_padded_element hpad width depth hname
        (areReadable_writtenAttributes hattributes) hchildren htexts
        (exists_padded_children hpad width (depth + 1) children hchildren)
      rw [readRaw_writtenAttributes hattributes] at hs
      exact ⟨s, hs.inside, heq⟩
  | .text s =>
    have hs : isBlankText s = false := hvisible
    cases hclean with
    | text h =>
      rcases h with h | h
      · rw [hs] at h
        simp at h
      · refine ⟨_, readsAs_contentText h, ?_⟩
        simp [nodeLines, hs, paddedGap]
  | .cdata s =>
    cases hclean with
    | cdata h => exact ⟨_, readsAs_cdataText h, by simp [nodeLines, paddedGap]⟩
  | .comment s =>
    cases hclean with
    | comment h => exact ⟨_, readsAs_commentText h, by simp [nodeLines, paddedGap]⟩

theorem exists_padded_children {pad : String} (hpad : IsBlankRun pad.toList) (width depth : Nat)
    (ns : List Node) (hclean : ∀ n ∈ ns, n.IsClean) :
    ∃ written, AreWritten written ns ∧
      lineChars ((childLines width depth ns).map (pad ++ ·)) =
        gappedChars (paddedGap pad width depth) written := by
  match ns with
  | [] => exact ⟨[], areWritten_nil, by simp [childLines]⟩
  | n :: ns =>
    obtain ⟨hn, hns⟩ := List.forall_mem_cons.1 hclean
    obtain ⟨written, hw, heq⟩ := exists_padded_children hpad width depth ns hns
    by_cases hb : n.isBlank = true
    · refine ⟨written, hw.cons_blank hb, ?_⟩
      rw [childLines, nodeLines_of_isBlank hb, List.nil_append, heq]
    · rw [Bool.not_eq_true] at hb
      obtain ⟨s, hs, hlines⟩ := exists_padded_node hpad width depth n hn hb
      refine ⟨(s, n) :: written, hw.cons hb hs, ?_⟩
      rw [childLines, List.map_append, lineChars_append, hlines, heq, gappedChars_cons]

end

theorem isBlankRun_empty : IsBlankRun "".toList := isBlankRun_nil

theorem map_empty_append (ls : List String) : ls.map ("" ++ ·) = ls := by
  simp

/-- The lines of a clean node that is not blank are read back as the node. -/
theorem exists_written_node (width depth : Nat) (n : Node) (hclean : n.IsClean)
    (hvisible : n.isBlank = false) :
    ∃ s, ReadsAs s n ∧ lineChars (nodeLines width depth n) = lineGap width depth ++ s := by
  obtain ⟨s, hs, heq⟩ := exists_padded_node isBlankRun_empty width depth n hclean hvisible
  rw [map_empty_append] at heq
  exact ⟨s, hs, heq⟩

theorem exists_written_children (width depth : Nat) (ns : List Node)
    (hclean : ∀ n ∈ ns, n.IsClean) :
    ∃ written, AreWritten written ns ∧
      lineChars (childLines width depth ns) = gappedChars (lineGap width depth) written := by
  obtain ⟨written, hw, heq⟩ := exists_padded_children isBlankRun_empty width depth ns hclean
  rw [map_empty_append] at heq
  exact ⟨written, hw, heq⟩

/-- The text of an element is read back if its tag can be read and its children are clean. -/
theorem readsAsElement_serialize_of_areReadable {e : Element} (hname : IsName e.name)
    (hreadable : AreReadable (writtenAttributes e.attributes)) (hclean : ∀ n ∈ e.children, n.IsClean)
    (htexts : HaveSeparateTexts e.children) (width : Nat) :
    ReadsAsElement (e.serialize width).toList
      ⟨e.name, readRaw (writtenAttributes e.attributes), e.children⟩ := by
  obtain ⟨s, hs, heq⟩ := exists_padded_element isBlankRun_empty width 0 hname hreadable hclean
    htexts (exists_padded_children isBlankRun_empty width 1 e.children hclean)
  rw [map_empty_append] at heq
  have hne : nodeLines width 0 e.node ≠ [] := by
    intro hnil
    rw [← Element.node, hnil] at heq
    simp [paddedGap] at heq
  have hchars : (e.serialize width).toList = s := by
    have hcons := cons_toList_unlines hne
    rw [← Element.serialize, Element.node, heq] at hcons
    simpa [paddedGap] using hcons
  rw [hchars]
  exact hs

/-- The text of a clean element is read back as the element. -/
theorem readsAsElement_serialize {e : Element} (h : e.IsClean) (width : Nat) :
    ReadsAsElement (e.serialize width).toList e := by
  cases h with
  | element hname hattributes hchildren htexts =>
    have hread := readsAsElement_serialize_of_areReadable hname
      (areReadable_writtenAttributes hattributes) hchildren htexts width
    rwa [readRaw_writtenAttributes hattributes] at hread

/-- **The reader undoes the layout.** The text of a clean element, laid out with any number of spaces
per level, is read back as an element that has the same tidy form and the same shape. -/
theorem exists_parse_serialize (e : Element) (width : Nat) (h : e.IsClean) :
    ∃ e' : Element, parse (e.serialize width) = .ok e' ∧ e'.tidy = e.tidy ∧
      shape e' = shape e := by
  obtain ⟨e', hparse, htidy⟩ := (readsAsElement_serialize h width).parse
  exact ⟨e', hparse, htidy, shape_eq_of_tidy_eq htidy⟩

/-- A tree in all three layouts, with quotes in values and angle brackets in an expression. -/
def mixedElement : Element where
  name := "choose"
  attributes := [("id", "@(a < \"b\")"), ("note", "x & 'y'")]
  children :=
    [.comment " first ", .text "  ", .element "when" [] [.text " @\x7b return \"<a>\"; \x7d", .cdata "]] >"],
      .element "otherwise" [] [], .text "rest & more\n"]

theorem exists_parse_serialize_mixedElement :
    mixedElement.IsClean ∧ ∃ e' : Element, parse (mixedElement.serialize 2) = .ok e' ∧
      e'.tidy = mixedElement.tidy ∧ shape e' = shape mixedElement := by
  have hwhen : Node.IsClean (.element "when" []
      [.text " @\x7b return \"<a>\"; \x7d", .cdata "]] >"]) := by
    refine .element (by decide) ⟨by simp, by simp, by simp⟩ ?_ (by decide +kernel)
    rw [List.forall_mem_cons, List.forall_mem_singleton]
    exact ⟨.text (.inr (by decide +kernel)), .cdata (by decide +kernel)⟩
  have hotherwise : Node.IsClean (.element "otherwise" [] []) :=
    .element (by decide) ⟨by simp, by simp, by simp⟩ (by simp) (by decide +kernel)
  have hclean : mixedElement.IsClean := by
    refine .element (by decide) ⟨by decide, by decide, by decide +kernel⟩ ?_ (by decide +kernel)
    simp only [mixedElement, List.forall_mem_cons]
    exact ⟨.comment (by decide +kernel), .text (.inl (by decide)), hwhen, hotherwise,
      .text (.inr (by decide +kernel)), List.forall_mem_nil _⟩
  exact ⟨hclean, exists_parse_serialize mixedElement 2 hclean⟩

end GatewayPolicy.Xml
