import Mathlib.Data.List.Chain
import GatewayPolicy.Proofs.Xml.Content
/-!
# Layouts of a tree

A tree can be written in many ways: with other blanks inside of tags, quotes of the other kind, two
tags instead of one for an element without children, processing instructions between the children,
and more of that around the root. From each of them the reader recovers the tree as it is, with all
blanks of its texts.

The only condition is on the tree. What starts an expression is read up to the end of the expression,
so a value must not start with one and a text must not mention one; and two texts that follow each
other would be read as one.
-/

namespace GatewayPolicy.Xml

open Text

/-! ## Trees -/

/-- Attributes that can be written between quotes of either kind. -/
structure AreLiteral (attributes : Attributes) : Prop where
  names : ∀ a ∈ attributes, IsName a.1
  distinct : (attributes.map Prod.fst).Nodup
  values : ∀ a ∈ attributes, opensExpression a.2.toList = false

/-- A node without expressions, without texts that could not be told apart and without closing marks
inside of sections, at every depth. -/
inductive Node.IsLiteral : Node → Prop
  | element {name : String} {attributes : Attributes} {children : List Node} (hname : IsName name)
      (hattributes : AreLiteral attributes) (hchildren : ∀ n ∈ children, Node.IsLiteral n)
      (htexts : children.IsChain fun n m => (n.isText && m.isText) = false) :
      Node.IsLiteral (.element name attributes children)
  | text {s : String} (hs : s ≠ "") (h : MentionsNoExpression s) : Node.IsLiteral (.text s)
  | cdata {s : String} (h : ¬ [']', ']', '>'] <:+: s.toList) : Node.IsLiteral (.cdata s)
  | comment {s : String} (h : ¬ ['-', '-', '>'] <:+: s.toList) : Node.IsLiteral (.comment s)

/-! ## Layouts -/

/-- A processing instruction. Its closing mark may not be found earlier, also not with the question
mark of its opening mark. -/
inductive IsInstruction : List Char → Prop
  | mk {body : List Char} (h : ¬ ['?', '>'] <:+: '?' :: body) :
      IsInstruction ('<' :: '?' :: (body ++ ['?', '>']))

/-- Blanks, comments and processing instructions. -/
inductive IsMisc : List Char → Prop
  | nil : IsMisc []
  | blank {c : Char} {s : List Char} (hc : isBlank c = true) (hs : IsMisc s) : IsMisc (c :: s)
  | comment {body s : List Char} (h : ¬ ['-', '-', '>'] <:+: body) (hs : IsMisc s) :
      IsMisc ('<' :: '!' :: '-' :: '-' :: (body ++ '-' :: '-' :: '>' :: s))
  | instruction {i s : List Char} (hi : IsInstruction i) (hs : IsMisc s) : IsMisc (i ++ s)

/-- The characters spell the attributes: each stands behind at least one blank, with any blanks
around its equals sign, and its value is escaped between quotes of either kind. -/
inductive SpellsAttributes : List Char → Attributes → Prop
  | nil : SpellsAttributes [] []
  | cons {gap before after s : List Char} {quote : Char} {key value : String}
      {attributes : Attributes} (hgap : IsBlankRun gap) (hne : gap ≠ [])
      (hbefore : IsBlankRun before) (hafter : IsBlankRun after)
      (hquote : quote = '"' ∨ quote = '\'') (hs : SpellsAttributes s attributes) :
      SpellsAttributes (gap ++ (key.toList ++ (before ++ '=' :: (after ++
        quote :: (escapeChars value.toList ++ quote :: s))))) ((key, value) :: attributes)

/-- The characters spell the node. The content of an element is written in pieces, each of which is
a child or a processing instruction. -/
inductive Spells : List Char → Node → Prop
  | text (s : String) : Spells (escapeTextChars s.toList) (.text s)
  | cdata (s : String) :
      Spells ('<' :: '!' :: '[' :: 'C' :: 'D' :: 'A' :: 'T' :: 'A' :: '[' ::
        (s.toList ++ [']', ']', '>'])) (.cdata s)
  | comment (s : String) :
      Spells ('<' :: '!' :: '-' :: '-' :: (s.toList ++ ['-', '-', '>'])) (.comment s)
  | closed {name : String} {attributes : Attributes} {written gap : List Char}
      (hattributes : SpellsAttributes written attributes) (hgap : IsBlankRun gap) :
      Spells ('<' :: (name.toList ++ (written ++ (gap ++ ['/', '>']))))
        (.element name attributes [])
  | opened {name : String} {attributes : Attributes} {written gap gap' : List Char}
      {pieces : List (List Char × Option Node)}
      (hattributes : SpellsAttributes written attributes) (hgap : IsBlankRun gap)
      (hgap' : IsBlankRun gap') (hnodes : ∀ s n, (s, some n) ∈ pieces → Spells s n)
      (hinstructions : ∀ s, (s, none) ∈ pieces → IsInstruction s) :
      Spells ('<' :: (name.toList ++ (written ++ (gap ++ '>' :: (pieces.flatMap Prod.fst ++
          '<' :: '/' :: (name.toList ++ (gap' ++ ['>'])))))))
        (.element name attributes (pieces.filterMap Prod.snd))

/-- The characters spell a document with the root: in front of it a byte order mark or none, and
around it blanks, comments and processing instructions. -/
inductive SpellsDocument : List Char → Element → Prop
  | mk {mark before s after : List Char} {root : Element} (hmark : mark = [] ∨ mark = ['\ufeff'])
      (hbefore : IsMisc before) (hs : Spells s root.node) (hafter : IsMisc after) :
      SpellsDocument (mark ++ (before ++ (s ++ after))) root

variable {s r written gap : List Char} {n : Node} {name : String} {attributes : Attributes}
  {pieces : List (List Char × Option Node)}

/-! ## Attributes -/

/-- No reference starts an expression. -/
theorem opensExpression_escapeChars_eq (cs : List Char) :
    opensExpression (escapeChars cs) = opensExpression cs := by
  match cs with
  | [] => rfl
  | c :: cs =>
    by_cases hc : c = '@'
    · subst hc
      match cs with
      | [] => rfl
      | d :: cs =>
        rw [escapeChars_cons, escapeChars_cons]
        change opensExpression ('@' :: (attributeForm d ++ escapeChars cs)) = _
        unfold attributeForm
        split <;> rfl
    · rw [opensExpression_cons hc, escapeChars_cons]
      unfold attributeForm
      split
      · rfl
      · rfl
      · rfl
      · rfl
      · rfl
      · exact opensExpression_cons hc _

theorem head?_spellsAttributes_append (h : SpellsAttributes written attributes)
    (hr : r.head?.all (!isNameChar ·) = true) :
    (written ++ r).head?.all (!isNameChar ·) = true := by
  cases h with
  | nil => exact hr
  | cons hgap hne _ _ _ _ =>
    obtain ⟨c, gap, rfl⟩ := List.exists_cons_of_ne_nil hne
    have hc : isBlank c = true := (isBlankRun_cons.1 hgap).1
    simp [isNameChar, hc]

/-- Attributes are read from each of their layouts. -/
theorem readAttributes_of_spells (h : SpellsAttributes written attributes)
    (hl : AreLiteral attributes) {before : Attributes}
    (hb : ∀ a ∈ attributes, a.1 ∉ before.map Prod.fst) (start : List Char) (name : String)
    (r : List Char) :
    readAttributes start name before (written ++ r) =
      readAttributes start name (before ++ attributes) r := by
  induction h generalizing before with
  | nil => rw [List.nil_append, List.append_nil]
  | @cons gap before' after s quote key value attributes hgap _ hbefore hafter hquote _ ih =>
    have hdistinct := List.nodup_cons.1 hl.distinct
    have htail : AreLiteral attributes :=
      ⟨fun a ha => hl.names a (List.mem_cons_of_mem _ ha), hdistinct.2,
        fun a ha => hl.values a (List.mem_cons_of_mem _ ha)⟩
    have hkey : IsName key := hl.names _ List.mem_cons_self
    have hopen : opensExpression (escapeChars value.toList) = false := by
      rw [opensExpression_escapeChars_eq]
      exact hl.values _ List.mem_cons_self
    have hnoquote : quote ∉ escapeChars value.toList :=
      notMem_escapeChars (by rcases hquote with rfl | rfl <;> simp)
    have hread := readAttribute_append hkey hbefore hafter hquote
      (splitAtQuote?_literal hquote hnoquote hopen (s ++ r))
    rw [unescapeChars_escapeChars, String.ofList_toList] at hread
    have hstep := readAttributes_cons hkey hgap hread (hb _ List.mem_cons_self) start name
    have hb' := notMem_keys_append hdistinct.1 (fun a ha => hb a (List.mem_cons_of_mem _ ha)) value
    simp only [List.append_assoc, List.cons_append] at hstep ⊢
    rw [hstep, ih htail hb', List.append_assoc, List.singleton_append]

theorem readStartTag_of_spells_closed (hn : IsName name) (hl : AreLiteral attributes)
    (h : SpellsAttributes written attributes) (hgap : IsBlankRun gap) (start r : List Char) :
    readStartTag start (name.toList ++ (written ++ (gap ++ '/' :: '>' :: r))) =
      .ok (⟨name, attributes, true⟩, r) := by
  refine readStartTag_append hn
    (head?_spellsAttributes_append h (head?_blanks_append hgap (by rfl))) ?_
  rw [readAttributes_of_spells h hl (by simp), readAttributes_closed hgap, List.nil_append]

theorem readStartTag_of_spells_opened (hn : IsName name) (hl : AreLiteral attributes)
    (h : SpellsAttributes written attributes) (hgap : IsBlankRun gap) (start r : List Char) :
    readStartTag start (name.toList ++ (written ++ (gap ++ '>' :: r))) =
      .ok (⟨name, attributes, false⟩, r) := by
  refine readStartTag_append hn
    (head?_spellsAttributes_append h (head?_blanks_append hgap (by rfl))) ?_
  rw [readAttributes_of_spells h hl (by simp), readAttributes_opened hgap, List.nil_append]

/-! ## Content -/

/-- The node is recovered from the characters. A text ends only at markup. -/
def Recovers (s : List Char) (n : Node) : Prop :=
  ∀ r, (n.isText = true → r.head? = some '<') → Yields (s ++ r) [n] r

/-- All nodes but texts are written as markup. -/
theorem Spells.head?_eq (h : Spells s n) (hn : n.isText = false) (r : List Char) :
    (s ++ r).head? = some '<' := by
  cases h with
  | text => simp [Node.isText] at hn
  | cdata => rfl
  | comment => rfl
  | closed => rfl
  | opened => rfl

theorem IsInstruction.head?_eq (h : IsInstruction s) (r : List Char) :
    (s ++ r).head? = some '<' := by
  cases h
  rfl

theorem IsInstruction.yields (h : IsInstruction s) (r : List Char) : Yields (s ++ r) [] r := by
  obtain ⟨h⟩ := h
  simpa using yields_instruction h r

/-- Behind a text stands markup, since no text follows it. -/
theorem head?_pieces (hnodes : ∀ s n, (s, some n) ∈ pieces → Spells s n)
    (hinstructions : ∀ s, (s, none) ∈ pieces → IsInstruction s)
    (hnext : ∀ n ∈ (pieces.filterMap Prod.snd).head?, n.isText = false) (r : List Char) :
    (pieces.flatMap Prod.fst ++ '<' :: r).head? = some '<' := by
  match pieces with
  | [] => rfl
  | (s, none) :: pieces =>
    rw [List.flatMap_cons, List.append_assoc]
    exact (hinstructions s List.mem_cons_self).head?_eq _
  | (s, some n) :: pieces =>
    rw [List.flatMap_cons, List.append_assoc]
    exact (hnodes s n List.mem_cons_self).head?_eq (hnext n rfl) _

/-- Pieces are read one after the other. -/
theorem yields_pieces (hnodes : ∀ s n, (s, some n) ∈ pieces → Spells s n)
    (hrecovers : ∀ s n, (s, some n) ∈ pieces → Recovers s n)
    (hinstructions : ∀ s, (s, none) ∈ pieces → IsInstruction s)
    (htexts : (pieces.filterMap Prod.snd).IsChain fun n m => (n.isText && m.isText) = false)
    (r : List Char) :
    Yields (pieces.flatMap Prod.fst ++ '<' :: r) (pieces.filterMap Prod.snd) ('<' :: r) := by
  induction pieces with
  | nil => exact Yields.refl _
  | cons p pieces ih =>
    have hnodes' := fun s n hm => hnodes s n (List.mem_cons_of_mem p hm)
    have hrecovers' := fun s n hm => hrecovers s n (List.mem_cons_of_mem p hm)
    have hinstructions' := fun s hm => hinstructions s (List.mem_cons_of_mem p hm)
    obtain ⟨s, _ | n⟩ := p
    · have hrest := ih hnodes' hrecovers' hinstructions' htexts
      rw [List.flatMap_cons, List.append_assoc]
      exact ((hinstructions s List.mem_cons_self).yields _).trans hrest
    · have hchain : (n :: pieces.filterMap Prod.snd).IsChain
          fun n m => (n.isText && m.isText) = false := htexts
      have hrest := ih hnodes' hrecovers' hinstructions' hchain.tail
      have hhead : n.isText = true →
          (pieces.flatMap Prod.fst ++ '<' :: r).head? = some '<' := by
        intro hn
        refine head?_pieces hnodes' hinstructions' ?_ r
        intro m hm
        have := (List.isChain_cons.1 hchain).1 m hm
        simpa [hn] using this
      rw [List.flatMap_cons, List.append_assoc]
      exact (hrecovers s n List.mem_cons_self _ hhead).trans hrest

/-- A text is recovered with all of its blanks. -/
theorem recovers_text {value : String} (hne : value ≠ "") (h : MentionsNoExpression value) :
    Recovers (escapeTextChars value.toList) (.text value) := by
  intro r hr
  obtain ⟨t, rfl⟩ : ∃ t, r = '<' :: t := List.head?_eq_some_iff.1 (hr rfl)
  have hs : escapeTextChars value.toList ≠ [] := by
    intro hs
    have hvalue := unescapeChars_escapeTextChars value.toList
    rw [hs, unescapeChars_nil] at hvalue
    exact hne (String.toList_inj.1 hvalue.symm)
  have hy := yields_text (isTextRun_escapeTextChars h) hs t
  rwa [unescapeChars_escapeTextChars, String.ofList_toList] at hy

/-- A literal node is recovered from each of its layouts. -/
theorem Spells.recovers (h : Spells s n) (hn : n.IsLiteral) : Recovers s n := by
  induction h with
  | text value =>
    cases hn with
    | text hne h => exact recovers_text hne h
  | cdata value =>
    cases hn with
    | cdata h =>
      intro r _
      simpa using yields_cdata h r
  | comment value =>
    cases hn with
    | comment h =>
      intro r _
      simpa using yields_comment h r
  | closed hattributes hgap =>
    cases hn with
    | element hname hl _ _ =>
      intro r _
      have hy := yields_closedTag hname (readStartTag_of_spells_closed hname hl hattributes hgap _ r)
      simpa using hy
  | @opened name attributes written gap gap' pieces hattributes hgap hgap' hnodes hinstructions ih =>
    cases hn with
    | element hname hl hchildren htexts =>
      intro r _
      have hrecovers : ∀ s n, (s, some n) ∈ pieces → Recovers s n := fun s n hm =>
        ih s n hm (hchildren n (List.mem_filterMap.2 ⟨_, hm, rfl⟩))
      have hy := yields_openedTag hname hgap'
        (readStartTag_of_spells_opened hname hl hattributes hgap _ _)
        (yields_pieces hnodes hrecovers hinstructions htexts ('/' :: (name.toList ++ (gap' ++ '>' :: r))))
      simpa using hy

/-! ## Documents -/

theorem skipMisc_append (h : IsMisc s) (r : List Char) : skipMisc (s ++ r) = skipMisc r := by
  induction h with
  | nil => rfl
  | @blank c s hc _ ih =>
    have hskip : skipBlanks (c :: s ++ r) = skipBlanks (s ++ r) :=
      skipBlanks_append (isBlankRun_cons.2 ⟨hc, isBlankRun_nil⟩) (s ++ r)
    rw [← ih, skipMisc, skipMisc, hskip]
  | @comment body s h _ ih =>
    have hitem : skipItem? (skipBlanks ('<' :: '!' :: '-' :: '-' ::
        (body ++ '-' :: '-' :: '>' :: (s ++ r)))) = some (.ok (s ++ r)) := by
      rw [skipBlanks_cons (by decide)]
      simp [skipItem?, readComment, readConstruct, splitAtFirst?_closing (by decide) h, Except.map]
    rw [← ih, ← skipMisc_of_skipItem? hitem]
    simp
  | @instruction i s hi _ ih =>
    obtain @⟨body, h⟩ := hi
    have hitem : skipItem? (skipBlanks ('<' :: '?' :: (body ++ '?' :: '>' :: (s ++ r)))) =
        some (.ok (s ++ r)) := by
      rw [skipBlanks_cons (by decide)]
      simp [skipItem?, readInstruction_append h, Except.map]
    rw [← ih, ← skipMisc_of_skipItem? hitem]
    simp

theorem dropMark_eq (h : s.head? ≠ some '\ufeff') : dropMark s = s := by
  unfold dropMark
  split
  · exact absurd rfl h
  · rfl

/-- What is no blank and no angle bracket does not come first. -/
theorem IsMisc.head?_append_ne {c : Char} (h : IsMisc s) (hblank : isBlank c = false)
    (hc : c ≠ '<') (hr : r.head? ≠ some c) : (s ++ r).head? ≠ some c := by
  cases h with
  | nil => exact hr
  | blank hc' _ =>
    intro hm
    obtain rfl := Option.some.inj hm
    rw [hblank] at hc'
    cases hc'
  | comment => simpa using hc.symm
  | instruction hi _ =>
    rw [List.append_assoc, hi.head?_eq]
    simpa using hc.symm

theorem IsMisc.head?_append (h : IsMisc s) (hr : r.head? = some '<') :
    (s ++ r).head? ≠ some '\ufeff' :=
  h.head?_append_ne (by decide) (by decide) (by simp [hr])

/-- The root is recovered from each of its layouts. -/
theorem Spells.readRoot {root : Element} (h : Spells s root.node) (hroot : root.node.IsLiteral)
    (r : List Char) : ∃ t, s ++ r = '<' :: t ∧ skipItem? (s ++ r) = none ∧
      readRoot t = .ok (root, r) := by
  obtain ⟨name, attributes, children⟩ := root
  obtain @⟨_, _, _, hname, hl, hchildren, htexts⟩ := hroot
  cases h with
  | @closed _ _ written gap hattributes hgap =>
    refine ⟨name.toList ++ (written ++ (gap ++ '/' :: '>' :: r)), by simp, ?_, ?_⟩
    · simpa using skipItem?_name hname (written ++ (gap ++ '/' :: '>' :: r))
    · exact readRoot_closedTag (readStartTag_of_spells_closed hname hl hattributes hgap _ r)
  | @opened _ _ written gap gap' pieces hattributes hgap hgap' hnodes hinstructions =>
    have hrecovers : ∀ s n, (s, some n) ∈ pieces → Recovers s n := fun s n hm =>
      (hnodes s n hm).recovers (hchildren n (List.mem_filterMap.2 ⟨_, hm, rfl⟩))
    have hy := yields_pieces hnodes hrecovers hinstructions htexts
      ('/' :: (name.toList ++ (gap' ++ '>' :: r)))
    refine ⟨name.toList ++ (written ++ (gap ++ '>' :: (pieces.flatMap Prod.fst ++
      '<' :: '/' :: (name.toList ++ (gap' ++ '>' :: r))))), by simp, ?_, ?_⟩
    · simpa using skipItem?_name hname (written ++ (gap ++ '>' :: (pieces.flatMap Prod.fst ++
        '<' :: '/' :: (name.toList ++ (gap' ++ '>' :: r)))))
    · exact readRoot_openedTag hname hgap'
        (readStartTag_of_spells_opened hname hl hattributes hgap _ _) hy

/-- The reader accepts every layout of a tree and recovers the tree. -/
theorem parse_of_spellsDocument {document : String} {root : Element}
    (h : SpellsDocument document.toList root) (hroot : root.node.IsLiteral) :
    parse document = .ok root := by
  generalize hchars : document.toList = cs at h
  obtain @⟨mark, before, s, after, _, hmark, hbefore, hs, hafter⟩ := h
  obtain ⟨t, ht, hitem, hread⟩ := hs.readRoot hroot after
  have hhead : (s ++ after).head? = some '<' := by rw [ht]; rfl
  have hdrop : dropMark (mark ++ (before ++ (s ++ after))) = before ++ (s ++ after) := by
    rcases hmark with rfl | rfl
    · exact dropMark_eq (hbefore.head?_append hhead)
    · rfl
  have hskip : skipBlanks (s ++ after) = s ++ after := by
    rw [ht, skipBlanks_cons (by decide)]
  have hfront : skipMisc (dropMark document.toList) = .ok ('<' :: t) := by
    rw [hchars, hdrop, skipMisc_append hbefore,
      skipMisc_of_skipItem?_eq_none (by rw [hskip, hitem]), hskip, ht]
  have hend : skipMisc after = .ok [] := by
    rw [← List.append_nil after, skipMisc_append hafter, skipMisc_nil]
  rw [parse, readDocument_of_readRoot hfront hread hend]

/-- A tree with a value to escape, blanks in a text, an empty element, a section and a comment. -/
def spelledRoot : Element :=
  ⟨"policies", [("a", "x<'y'"), ("b", "")],
    [.text " t & ", .element "set:x" [] [], .cdata "]]", .element "_" [] [.text "\n"], .comment "-"]⟩

/-- The content of the tree, with an instruction between two children. -/
def spelledPieces : List (List Char × Option Node) :=
  [(" t &amp; ".toList, some (.text " t & ")), ("<set:x/>".toList, some (.element "set:x" [] [])),
    ("<?p??>".toList, none), ("<![CDATA[]]]]>".toList, some (.cdata "]]")),
    ("<_>\n</_ >".toList, some (.element "_" [] [.text "\n"])),
    ("<!----->".toList, some (.comment "-"))]

/-- The tree behind a byte order mark, with instructions, quotes of both kinds and blanks. -/
def spelledDocument : String :=
  "\ufeff<?xml?>\n<!-- x --><policies a = 'x&lt;&apos;y&apos;' b=\"\" > t &amp; " ++
  "<set:x/><?p??><![CDATA[]]]]><_>\n</_ ><!-----></policies > <?end?>"

theorem isLiteral_spelledRoot : spelledRoot.node.IsLiteral := by
  refine .element (by decide) ⟨by decide, by decide, by decide⟩ ?_ (by decide)
  intro n hn
  simp only [spelledRoot, List.mem_cons, List.not_mem_nil, or_false] at hn
  rcases hn with rfl | rfl | rfl | rfl | rfl
  · exact .text (by decide) (by decide)
  · exact .element (by decide) ⟨by decide, by decide, by decide⟩ (by simp) (by decide)
  · exact .cdata (by decide)
  · refine .element (by decide) ⟨by decide, by decide, by decide⟩ ?_ (by decide)
    intro n hn
    rw [List.mem_singleton.1 hn]
    exact .text (by decide) (by decide)
  · exact .comment (by decide)

theorem spells_spelledPieces : ∀ s n, (s, some n) ∈ spelledPieces → Spells s n := by
  intro s n h
  simp only [spelledPieces, List.mem_cons, Prod.mk.injEq, Option.some.injEq, List.not_mem_nil,
    reduceCtorEq, and_false, or_false, false_or] at h
  rcases h with ⟨rfl, rfl⟩ | ⟨rfl, rfl⟩ | ⟨rfl, rfl⟩ | ⟨rfl, rfl⟩ | ⟨rfl, rfl⟩
  · exact .text " t & "
  · exact @Spells.closed "set:x" _ _ _ .nil isBlankRun_nil
  · exact .cdata "]]"
  · exact @Spells.opened "_" [] [] [] [' '] [(['\n'], some (.text "\n"))] .nil isBlankRun_nil
      isBlankRun_space (by simpa [textForm] using Spells.text "\n") (by simp)
  · exact .comment "-"

theorem spellsDocument_spelledRoot : SpellsDocument spelledDocument.toList spelledRoot := by
  have hb := @SpellsAttributes.cons [' '] [] [] [] '"' "b" "" [] isBlankRun_space (by simp)
    isBlankRun_nil isBlankRun_nil (.inl rfl) .nil
  have hattributes := @SpellsAttributes.cons [' '] [' '] [' '] _ '\'' "a" "x<'y'" _
    isBlankRun_space (by simp) isBlankRun_space isBlankRun_space (.inr rfl) hb
  have hinstruction : ∀ s, (s, none) ∈ spelledPieces → IsInstruction s := by
    intro s h
    have : s = ['<', '?', 'p', '?', '?', '>'] := by simpa [spelledPieces] using h
    rw [this]
    exact @IsInstruction.mk ['p', '?'] (by decide)
  have hroot := @Spells.opened "policies" _ _ [' '] [' '] spelledPieces hattributes
    isBlankRun_space isBlankRun_space spells_spelledPieces hinstruction
  have hcomment : IsMisc "\n<!-- x -->".toList :=
    .blank (by decide) (@IsMisc.comment [' ', 'x', ' '] [] (by decide) .nil)
  have hbefore := IsMisc.instruction (@IsInstruction.mk ['x', 'm', 'l'] (by decide)) hcomment
  have hafter := @IsMisc.blank ' ' _ (by decide)
    (.instruction (@IsInstruction.mk ['e', 'n', 'd'] (by decide)) .nil)
  have hdocument := @SpellsDocument.mk ['\ufeff'] _ _ _ spelledRoot (.inr rfl) hbefore hroot hafter
  convert hdocument using 1
  decide +kernel

theorem parse_of_spellsDocument_spelledRoot :
    (SpellsDocument spelledDocument.toList spelledRoot ∧ spelledRoot.node.IsLiteral) ∧
      parse spelledDocument = .ok spelledRoot :=
  ⟨⟨spellsDocument_spelledRoot, isLiteral_spelledRoot⟩,
    parse_of_spellsDocument spellsDocument_spelledRoot isLiteral_spelledRoot⟩

end GatewayPolicy.Xml
