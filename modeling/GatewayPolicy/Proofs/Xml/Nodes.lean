import Mathlib.Data.List.Chain
import GatewayPolicy.Proofs.Xml.Content
import GatewayPolicy.Proofs.Xml.Tidy
/-!
# Nodes, written and read

A node may be written in several ways. Each way is compared with the tree alone: what is read back
has the same tidy form. Elements, comments and CDATA sections end by themselves; a text goes on up
to the next markup and takes the blanks in front of it along, so two texts cannot be neighbours.
-/

namespace GatewayPolicy.Xml

open Text

/-- The characters are read back as the node, up to blanks that layout may add. -/
inductive ReadsAs : List Char → Node → Prop
  /-- A run of text. -/
  | text {s : List Char} {value : String} (hs : isTextRun s = true)
      (hv : trimChars (unescapeChars s) = trimChars value.toList) : ReadsAs s (.text value)
  /-- Markup, which ends by itself. -/
  | markup {s : List Char} {n : Node} (hn : n.isText = false)
      (h : ∀ r, ∃ n', n'.tidy = n.tidy ∧ Yields ('<' :: (s ++ r)) [n'] r) : ReadsAs ('<' :: s) n

/-- The characters of nodes, each behind a gap. -/
def gappedChars (gap : List Char) (written : List (List Char × Node)) : List Char :=
  written.flatMap fun p => gap ++ p.1

@[simp] theorem gappedChars_nil (gap : List Char) : gappedChars gap [] = [] := rfl

@[simp] theorem gappedChars_cons (gap : List Char) (p : List Char × Node)
    (written : List (List Char × Node)) :
    gappedChars gap (p :: written) = gap ++ p.1 ++ gappedChars gap written := rfl

@[simp] theorem gappedChars_append (gap : List Char) (written written' : List (List Char × Node)) :
    gappedChars gap (written ++ written') = gappedChars gap written ++ gappedChars gap written' :=
  List.flatMap_append

/-- Nodes that can be written one behind the other: each is read back as what it is, none of them is
blank, and no two neighbours are texts. -/
structure AreSeparate (written : List (List Char × Node)) : Prop where
  /-- Each is read back. -/
  reads : ∀ p ∈ written, ReadsAs p.1 p.2
  /-- None is blank. -/
  visible : ∀ p ∈ written, p.2.isBlank = false
  /-- No two neighbours are texts. -/
  chain : written.IsChain fun p q => (p.2.isText && q.2.isText) = false

variable {gap fin s r pending : List Char} {written : List (List Char × Node)} {n m : Node}

theorem areSeparate_nil : AreSeparate [] := ⟨by simp, by simp, List.isChain_nil⟩

theorem areSeparate_cons {p : List Char × Node} (h : AreSeparate (p :: written)) :
    AreSeparate written :=
  ⟨fun q hq => h.reads q (List.mem_cons_of_mem _ hq),
    fun q hq => h.visible q (List.mem_cons_of_mem _ hq), h.chain.tail⟩

/-! ## Pending text -/

theorem unescapeChars_append_blanks (h : IsBlankRun s) (cs : List Char) :
    unescapeChars (cs ++ s) = unescapeChars cs ++ s :=
  unescapeChars_append_right (h.notMem (by decide)) (h.notMem (by decide)) cs

theorem unescapeChars_blanks_append (h : IsBlankRun s) (cs : List Char) :
    unescapeChars (s ++ cs) = s ++ unescapeChars cs :=
  unescapeChars_append_of_notMem (h.notMem (by decide)) cs

/-- Texts with one trimmed form have one tidy form. -/
theorem tidyNodes_text_congr {value value' : String}
    (h : trimChars value.toList = trimChars value'.toList) :
    tidyNodes [.text value] = tidyNodes [.text value'] := by
  have hblank : (Node.text value).isBlank = (Node.text value').isBlank := by
    show isBlankText value = isBlankText value'
    rw [Bool.eq_iff_iff, isBlankText_iff, isBlankText_iff, ← trimChars_eq_nil_iff, h,
      trimChars_eq_nil_iff]
  have htidy : (Node.text value).tidy = (Node.text value').tidy := by
    rw [Node.tidy, Node.tidy, trim, trim, h]
  cases hb : (Node.text value').isBlank with
  | true => rw [tidyNodes_cons_of_isBlank hb, tidyNodes_cons_of_isBlank (hblank.trans hb)]
  | false => rw [tidyNodes_cons hb, tidyNodes_cons (hblank.trans hb), htidy]

/-- The text that a run of characters stands for, if any of it is visible. -/
def pendingNodes (s : List Char) : List Node := tidyNodes [.text (.ofList (unescapeChars s))]

theorem pendingNodes_of_blank (h : IsBlankRun s) : pendingNodes s = [] := by
  have hs : (Node.text (.ofList (unescapeChars s))).isBlank = true := by
    refine isBlankText_iff.2 ?_
    rw [String.toList_ofList, unescapeChars_of_notMem (h.notMem (by decide))]
    exact h
  rw [pendingNodes, tidyNodes_cons_of_isBlank hs, tidyNodes_nil]

theorem pendingNodes_append_blanks (h : IsBlankRun r) (s : List Char) :
    pendingNodes (s ++ r) = pendingNodes s := by
  refine tidyNodes_text_congr ?_
  rw [String.toList_ofList, String.toList_ofList, unescapeChars_append_blanks h]
  simpa using trimChars_surround isBlankRun_nil h (unescapeChars s)

/-- A visible text that follows blanks is what the blanks and the text stand for. -/
theorem pendingNodes_of_text {value : String} (hpending : IsBlankRun pending)
    (hv : trimChars (unescapeChars s) = trimChars value.toList)
    (hvisible : (Node.text value).isBlank = false) :
    pendingNodes (pending ++ s) = [.text (trim value)] := by
  have htrim : trimChars (pending ++ unescapeChars s) = trimChars value.toList := by
    rw [← hv]
    simpa using trimChars_surround hpending isBlankRun_nil (unescapeChars s)
  have hcongr : pendingNodes (pending ++ s) = tidyNodes [.text value] := by
    refine tidyNodes_text_congr ?_
    rw [String.toList_ofList, unescapeChars_blanks_append hpending, htrim]
  rw [hcongr, tidyNodes_cons hvisible, tidyNodes_nil, Node.tidy]

/-- Pending text is read up to the markup behind it. -/
theorem yields_pending (h : isTextRun s = true) (r : List Char) :
    ∃ ms, tidyNodes ms = pendingNodes s ∧ Yields (s ++ '<' :: r) ms ('<' :: r) := by
  by_cases hs : s = []
  · subst hs
    exact ⟨[], by rw [pendingNodes_of_blank isBlankRun_nil, tidyNodes_nil], Yields.refl _⟩
  · exact ⟨_, rfl, yields_text h hs r⟩

/-! ## Content -/

/-- Content behind pending text. The pending text is blank if a text comes next. -/
theorem yields_behind_pending (hgap : IsBlankRun gap) (hfin : IsBlankRun fin)
    (hw : AreSeparate written) (hpending : isTextRun pending = true)
    (hnext : IsBlankRun pending ∨ ∀ p ∈ written.head?, p.2.isText = false) (r : List Char) :
    ∃ ms, tidyNodes ms = pendingNodes pending ++ written.map (·.2.tidy) ∧
      Yields (pending ++ (gappedChars gap written ++ (fin ++ '<' :: r))) ms ('<' :: r) := by
  induction written generalizing pending with
  | nil =>
    obtain ⟨ms, hms, hy⟩ := yields_pending (isTextRun_append_blanks hpending hfin) r
    refine ⟨ms, ?_, ?_⟩
    · rw [hms, pendingNodes_append_blanks hfin, List.map_nil, List.append_nil]
    · simpa using hy
  | cons p written ih =>
    obtain ⟨s, n⟩ := p
    have hw' := areSeparate_cons hw
    cases hw.reads _ List.mem_cons_self with
    | @text _ value hs hv =>
      -- A text becomes pending itself, together with the blanks in front of it.
      have hblank : IsBlankRun pending := by
        rcases hnext with h | h
        · exact h
        · have := h (s, .text value) rfl
          simp [Node.isText] at this
      have hbefore : IsBlankRun (pending ++ gap) := isBlankRun_append.2 ⟨hblank, hgap⟩
      have hrun : isTextRun (pending ++ gap ++ s) = true := by
        rw [isTextRun_blanks_append hbefore, hs]
      have hnext' : ∀ p ∈ written.head?, p.2.isText = false := by
        intro q hq
        have := (List.isChain_cons.1 hw.chain).1 q hq
        simpa [Node.isText] using this
      obtain ⟨ms, hms, hy⟩ := ih hw' hrun (.inr hnext')
      refine ⟨ms, ?_, ?_⟩
      · rw [hms, pendingNodes_of_text hbefore hv (hw.visible _ List.mem_cons_self),
          pendingNodes_of_blank hblank]
        rfl
      · simpa using hy
    | @markup s _ hn h =>
      -- Markup ends the pending text, and nothing is pending behind it.
      obtain ⟨ms₁, hms₁, hy₁⟩ := yields_pending (isTextRun_append_blanks hpending hgap)
        (s ++ (gappedChars gap written ++ (fin ++ '<' :: r)))
      obtain ⟨n', hn', hy₂⟩ := h (gappedChars gap written ++ (fin ++ '<' :: r))
      obtain ⟨ms₃, hms₃, hy₃⟩ := ih hw' isTextRun_nil (.inl isBlankRun_nil)
      have hvisible : n'.isBlank = false := by
        rw [← isBlank_tidy, hn', isBlank_tidy]
        exact hw.visible _ List.mem_cons_self
      refine ⟨ms₁ ++ ([n'] ++ ms₃), ?_, ?_⟩
      · rw [tidyNodes_append, hms₁, pendingNodes_append_blanks hgap, List.singleton_append,
          tidyNodes_cons hvisible, hn', hms₃, pendingNodes_of_blank isBlankRun_nil]
        rfl
      · have := hy₁.trans (hy₂.trans hy₃)
        simpa using this

/-- Nodes behind gaps are read one after the other. -/
theorem yields_content (hgap : IsBlankRun gap) (hfin : IsBlankRun fin) (hw : AreSeparate written)
    (r : List Char) :
    ∃ ms, tidyNodes ms = written.map (·.2.tidy) ∧
      Yields (gappedChars gap written ++ (fin ++ '<' :: r)) ms ('<' :: r) := by
  obtain ⟨ms, hms, hy⟩ :=
    yields_behind_pending hgap hfin hw isTextRun_nil (.inl isBlankRun_nil) r
  rw [pendingNodes_of_blank isBlankRun_nil, List.nil_append] at hms
  exact ⟨ms, hms, hy⟩

/-! ## Elements -/

variable {name : String} {raw : Attributes} {children : List Node}

/-- An element as one closed tag. -/
def closedChars (name : String) (raw : Attributes) : List Char :=
  '<' :: (name.toList ++ (attributeChars raw ++ [' ', '/', '>']))

/-- An element with content between its tags. -/
def elementChars (name : String) (raw : Attributes) (content : List Char) : List Char :=
  '<' :: (name.toList ++ (attributeChars raw ++
    '>' :: (content ++ '<' :: '/' :: (name.toList ++ ['>']))))

/-- The characters are read back as the element, inside of other elements and as a document. -/
structure ReadsAsElement (s : List Char) (e : Element) : Prop where
  /-- It is read back inside of other elements. -/
  inside : ReadsAs s e.node
  /-- It is read back as a document. -/
  document : ∃ e' : Element, readDocument s = .ok e' ∧ e'.tidy = e.tidy

theorem readsAsElement_closed (hn : IsName name) (h : AreReadable raw)
    (hc : tidyNodes children = []) :
    ReadsAsElement (closedChars name raw) ⟨name, readRaw raw, children⟩ := by
  constructor
  · refine .markup rfl fun r => ⟨.element name (readRaw raw) [], ?_, ?_⟩
    · rw [Element.node, Node.tidy, Node.tidy, hc, tidyNodes_nil]
    · simpa using yields_closed hn h r
  · refine ⟨_, readDocument_closed hn h, ?_⟩
    rw [Element.tidy, Element.tidy, hc, tidyNodes_nil]

theorem readsAsElement_element (hn : IsName name) (h : AreReadable raw) (hgap : IsBlankRun gap)
    (hfin : IsBlankRun fin) (hw : AreSeparate written)
    (hc : tidyNodes children = written.map (·.2.tidy)) :
    ReadsAsElement (elementChars name raw (gappedChars gap written ++ fin))
      ⟨name, readRaw raw, children⟩ := by
  constructor
  · refine .markup rfl fun r => ?_
    obtain ⟨ms, hms, hy⟩ := yields_content hgap hfin hw ('/' :: (name.toList ++ '>' :: r))
    refine ⟨.element name (readRaw raw) ms, ?_, ?_⟩
    · rw [Element.node, Node.tidy, Node.tidy, hms, hc]
    · simpa using yields_element hn h hy
  · obtain ⟨ms, hms, hy⟩ := yields_content hgap hfin hw ('/' :: (name.toList ++ ['>']))
    have hread := readDocument_element hn h hy
    refine ⟨⟨name, readRaw raw, ms⟩, ?_, ?_⟩
    · simpa [elementChars] using hread
    · rw [Element.tidy, Element.tidy, hms, hc]

theorem ReadsAsElement.parse {e : Element} {document : String}
    (h : ReadsAsElement document.toList e) :
    ∃ e' : Element, parse document = .ok e' ∧ e'.tidy = e.tidy := by
  obtain ⟨e', hread, htidy⟩ := h.document
  refine ⟨e', ?_, htidy⟩
  rw [Xml.parse, hread]

/-! ## Other markup -/

theorem readsAs_comment {value : String} (h : ¬ ['-', '-', '>'] <:+: value.toList) :
    ReadsAs ('<' :: '!' :: '-' :: '-' :: (value.toList ++ ['-', '-', '>'])) (.comment value) := by
  refine .markup rfl fun r => ⟨_, rfl, ?_⟩
  simpa using yields_comment h r

theorem readsAs_cdata {value : String} (h : ¬ [']', ']', '>'] <:+: value.toList) :
    ReadsAs ('<' :: '!' :: '[' :: 'C' :: 'D' :: 'A' :: 'T' :: 'A' :: '[' ::
      (value.toList ++ [']', ']', '>'])) (.cdata value) := by
  refine .markup rfl fun r => ⟨_, rfl, ?_⟩
  simpa using yields_cdata h r

end GatewayPolicy.Xml
