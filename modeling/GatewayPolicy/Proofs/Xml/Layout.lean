import GatewayPolicy.Proofs.Text.Reindent
import GatewayPolicy.Proofs.Xml.Serialization
/-!
# Layout, laws

A deeper tree has the same lines with more spaces in front. If nothing in a clean tree holds a line
feed, its lines can be told apart again, so its text can be moved to another depth line by line.
-/

namespace GatewayPolicy.Xml

open Text

variable {n : Node} {ns : List Node} {s l name : String} {attributes : Attributes} {e : Element}

/-! ## Depth -/

theorem indentation_add (width depth extra : Nat) :
    indentation width (depth + extra) = indentation width extra ++ indentation width depth := by
  rw [← String.toList_inj]
  simp [Nat.mul_add, Nat.add_comm]

mutual

/-- A deeper node has the same lines with more spaces in front. -/
theorem nodeLines_add (width depth extra : Nat) (n : Node) :
    nodeLines width (depth + extra) n =
      (nodeLines width depth n).map (indentation width extra ++ ·) := by
  match n with
  | .element name attributes children =>
    have ih := childLines_add width (depth + 1) extra children
    rw [Nat.add_right_comm] at ih
    rw [nodeLines, nodeLines]
    by_cases hblank : children.all Node.isBlank = true
    · simp [hblank, indentation_add, String.append_assoc]
    · by_cases hchars : children.all Node.isCharacters = true
      · simp [hblank, hchars, indentation_add, String.append_assoc]
      · rw [ih]
        simp [hblank, hchars, indentation_add, String.append_assoc]
  | .text s =>
    rw [nodeLines, nodeLines]
    by_cases hs : isBlankText s = true
    · simp [hs]
    · simp [hs, indentation_add, String.append_assoc]
  | .cdata s => simp [nodeLines, indentation_add, String.append_assoc]
  | .comment s => simp [nodeLines, indentation_add, String.append_assoc]

theorem childLines_add (width depth extra : Nat) (ns : List Node) :
    childLines width (depth + extra) ns =
      (childLines width depth ns).map (indentation width extra ++ ·) := by
  match ns with
  | [] => simp [childLines]
  | n :: ns =>
    rw [childLines, childLines, List.map_append, nodeLines_add width depth extra n,
      childLines_add width depth extra ns]

end

/-! ## Lines -/

/-- A node that holds no line feed at any depth, except around its texts. -/
inductive Node.IsUnbroken : Node → Prop
  /-- An element. -/
  | element {name : String} {attributes : Attributes} {children : List Node}
      (hvalues : ∀ a ∈ attributes, '\n' ∉ a.2.toList)
      (hchildren : ∀ n ∈ children, Node.IsUnbroken n) :
      Node.IsUnbroken (.element name attributes children)
  /-- A text. -/
  | text {s : String} (h : '\n' ∉ (trim s).toList) : Node.IsUnbroken (.text s)
  /-- A CDATA section. -/
  | cdata {s : String} (h : '\n' ∉ s.toList) : Node.IsUnbroken (.cdata s)
  /-- A comment. -/
  | comment {s : String} (h : '\n' ∉ s.toList) : Node.IsUnbroken (.comment s)

/-- An element that holds no line feed at any depth, except around its texts. -/
def Element.IsUnbroken (e : Element) : Prop := e.node.IsUnbroken

/-- A line may end in an angle bracket. -/
theorem isLine_append_bracket {cs : List Char} (h : '\n' ∉ cs) : IsLine (cs ++ ['>']) :=
  ⟨by simp, by simp [h], by simp [isBlank]⟩

theorem isLine_append {ws cs : List Char} (hws : '\n' ∉ ws) (h : IsLine cs) : IsLine (ws ++ cs) := by
  obtain ⟨hne, hmem, hr⟩ := h
  refine ⟨by simp [hne], by simp [hws, hmem], ?_⟩
  rwa [List.getLast?_append_of_ne_nil _ hne]

theorem lineFeed_notMem_of_isName (h : IsName name) : '\n' ∉ name.toList := by
  intro hm
  have hc := isNameChar_of_isName h _ hm
  simp [isNameChar, isBlank] at hc

theorem lineFeed_notMem_attributeText (h : '\n' ∉ s.toList) :
    '\n' ∉ (attributeText s).toList := by
  unfold attributeText
  split
  · exact h
  · rw [toList_escape]
    exact fun hm => h (mem_of_mem_escapeChars (by decide) (by decide) hm)

theorem lineFeed_notMem_contentText (h : '\n' ∉ s.toList) : '\n' ∉ (contentText s).toList := by
  unfold contentText
  split
  · exact h
  · rw [toList_escapeText]
    intro hm
    obtain ⟨c, hc, hmem⟩ := List.mem_flatMap.1 hm
    rcases textForm_eq c with hform | ⟨-, hform⟩
    · rw [hform] at hmem
      exact h (mem_of_mem_escapeChars (by decide) (by decide) (List.mem_flatMap.2 ⟨c, hc, hmem⟩))
    · rw [hform, List.mem_singleton] at hmem
      exact h (hmem ▸ hc)

/-- A written character ends in itself or in the semicolon of its reference. -/
theorem exists_textForm (c : Char) : ∃ cs d, textForm c = cs ++ [d] ∧ (d = c ∨ d = ';') := by
  unfold textForm
  split
  · exact ⟨['&', 'a', 'm', 'p'], ';', rfl, .inr rfl⟩
  · exact ⟨['&', 'l', 't'], ';', rfl, .inr rfl⟩
  · exact ⟨['&', 'g', 't'], ';', rfl, .inr rfl⟩
  · exact ⟨[], c, rfl, .inl rfl⟩

/-- What is written for a visible text ends visibly. -/
theorem exists_append_contentText (hs : isBlankText s = false) :
    ∃ cs d, (contentText (trim s)).toList = cs ++ [d] ∧ isBlank d = false := by
  have hvisible : trimChars s.toList ≠ [] := by
    rw [ne_eq, trimChars_eq_nil_iff, ← isBlankText_iff, hs]
    simp
  obtain ⟨cs, c, hcs⟩ : ∃ cs c, trimChars s.toList = cs ++ [c] :=
    ⟨_, _, (List.dropLast_append_getLast hvisible).symm⟩
  have hc : isBlank c = false := isBlank_of_trimChars_eq_append hcs
  unfold contentText
  split
  · exact ⟨cs, c, by rw [toList_trim, hcs], hc⟩
  · obtain ⟨form, d, hform, hd⟩ := exists_textForm c
    refine ⟨escapeTextChars cs ++ form, d, ?_, ?_⟩
    · rw [toList_escapeText, toList_trim, hcs, escapeTextChars_append, escapeTextChars_cons, hform]
      simp
    · rcases hd with rfl | rfl
      · exact hc
      · decide

/-- A visible text without line feeds can stand on a line. -/
theorem isLine_contentText (h : '\n' ∉ (trim s).toList) (hs : isBlankText s = false) :
    IsLine (contentText (trim s)).toList := by
  have hmem := lineFeed_notMem_contentText h
  obtain ⟨rest, d, heq, hd⟩ := exists_append_contentText hs
  rw [heq] at hmem ⊢
  exact ⟨by simp, hmem, by simpa using hd⟩

theorem lineFeed_notMem_attributeChars
    (h : ∀ a ∈ attributes, '\n' ∉ a.1.toList ∧ '\n' ∉ a.2.toList) :
    '\n' ∉ attributeChars attributes := by
  rw [attributeChars, List.mem_flatMap]
  rintro ⟨a, ha, hm⟩
  obtain ⟨hkey, hvalue⟩ := h a ha
  simp [hkey, hvalue] at hm

theorem lineFeed_notMem_openTag (hname : IsName name) (hattributes : AreCleanAttributes attributes)
    (hvalues : ∀ a ∈ attributes, '\n' ∉ a.2.toList) :
    '\n' ∉ (openTag name attributes).toList := by
  have hwritten : '\n' ∉ attributeChars (writtenAttributes attributes) := by
    refine lineFeed_notMem_attributeChars fun a ha => ?_
    obtain ⟨b, hb, rfl⟩ := List.mem_map.1 ha
    exact ⟨lineFeed_notMem_of_isName (hattributes.names b hb),
      lineFeed_notMem_attributeText (hvalues b hb)⟩
  simp [toList_openTag, lineFeed_notMem_of_isName hname, hwritten]

theorem lineFeed_notMem_inlineText (h : n.IsUnbroken) : '\n' ∉ (inlineText n).toList := by
  cases h with
  | element => simp [inlineText]
  | text h => exact lineFeed_notMem_contentText h
  | cdata h => simp [inlineText, cdataText, h]
  | comment => simp [inlineText]

theorem lineFeed_notMem_indentation (width depth : Nat) :
    '\n' ∉ (indentation width depth).toList := by
  rw [toList_indentation, List.mem_replicate]
  simp

theorem isLine_endTag (hname : IsName name) (width depth : Nat) :
    IsLine (indentation width depth ++ endTag name).toList := by
  have hpad := lineFeed_notMem_indentation width depth
  have hend := lineFeed_notMem_of_isName hname
  have hline : IsLine ((indentation width depth).toList ++ '<' :: '/' :: name.toList ++ ['>']) :=
    isLine_append_bracket (by simp [hend])
  simpa [toList_endTag] using hline

/-- A line that a start tag begins and an angle bracket ends. -/
theorem isLine_openTag (hname : IsName name) (hattributes : AreCleanAttributes attributes)
    (hvalues : ∀ a ∈ attributes, '\n' ∉ a.2.toList) (width depth : Nat) {cs : List Char}
    (hcs : '\n' ∉ cs) :
    IsLine ((indentation width depth).toList ++ (openTag name attributes).toList ++ cs ++
      ['>']) := by
  have hpad := lineFeed_notMem_indentation width depth
  have hopen := lineFeed_notMem_openTag hname hattributes hvalues
  exact isLine_append_bracket (by simp [hopen, hcs])

theorem isLine_of_mem_nodeLines_text (h : '\n' ∉ (trim s).toList) (width depth : Nat) :
    ∀ l ∈ nodeLines width depth (.text s), IsLine l.toList := by
  intro l hl
  rw [nodeLines] at hl
  split at hl
  · simp at hl
  · rename_i hs
    rw [List.mem_singleton] at hl
    have hline := isLine_contentText h (by simpa using hs)
    rw [hl, String.toList_append]
    exact isLine_append (lineFeed_notMem_indentation width depth) hline

theorem isLine_of_mem_nodeLines_cdata (h : '\n' ∉ s.toList) (width depth : Nat) :
    ∀ l ∈ nodeLines width depth (.cdata s), IsLine l.toList := by
  intro l hl
  rw [nodeLines, List.mem_singleton] at hl
  have hline : IsLine ((indentation width depth).toList ++ "<![CDATA[".toList ++ s.toList ++
      [']', ']'] ++ ['>']) :=
    isLine_append_bracket (by simp [h])
  rw [hl]
  simpa [cdataText] using hline

theorem isLine_of_mem_nodeLines_comment (h : '\n' ∉ s.toList) (width depth : Nat) :
    ∀ l ∈ nodeLines width depth (.comment s), IsLine l.toList := by
  intro l hl
  rw [nodeLines, List.mem_singleton] at hl
  have hline : IsLine ((indentation width depth).toList ++ "<!--".toList ++ s.toList ++
      ['-', '-'] ++ ['>']) :=
    isLine_append_bracket (by simp [h])
  rw [hl]
  simpa [commentText] using hline

mutual

/-- The lines of an unbroken clean node can be told apart. -/
theorem isLine_of_mem_nodeLines (width depth : Nat) (n : Node) (hclean : n.IsClean)
    (hunbroken : n.IsUnbroken) : ∀ l ∈ nodeLines width depth n, IsLine l.toList := by
  match n with
  | .element name attributes children =>
    cases hclean with
    | element hname hattributes hchildren htexts =>
      cases hunbroken with
      | element hvalues hunbroken =>
        have hline (cs : List Char) (hcs : '\n' ∉ cs) :=
          isLine_openTag hname hattributes hvalues width depth hcs
        intro l hl
        rw [nodeLines] at hl
        -- The three layouts: one tag, everything between two tags on one line, lines in between.
        split at hl
        · rw [List.mem_singleton.1 hl]
          simpa using hline [' ', '/'] (by simp)
        · split at hl
          · have htexts : ∀ n ∈ children, '\n' ∉ (inlineText n).toList :=
              fun n hn => lineFeed_notMem_inlineText (hunbroken n hn)
            have hinline := hline ('>' :: (String.join (children.map inlineText)).toList ++
              '<' :: '/' :: name.toList)
              (by simpa [lineFeed_notMem_of_isName hname] using htexts)
            rw [List.mem_singleton.1 hl]
            simpa [toList_endTag] using hinline
          · rw [List.mem_cons, List.mem_append, List.mem_singleton] at hl
            rcases hl with rfl | hl | rfl
            · simpa using hline [] (by simp)
            · exact isLine_of_mem_childLines width (depth + 1) children hchildren hunbroken l hl
            · exact isLine_endTag hname width depth
  | .text s =>
    cases hunbroken with
    | text h => exact isLine_of_mem_nodeLines_text h width depth
  | .cdata s =>
    cases hunbroken with
    | cdata h => exact isLine_of_mem_nodeLines_cdata h width depth
  | .comment s =>
    cases hunbroken with
    | comment h => exact isLine_of_mem_nodeLines_comment h width depth

theorem isLine_of_mem_childLines (width depth : Nat) (ns : List Node) (hclean : ∀ n ∈ ns, n.IsClean)
    (hunbroken : ∀ n ∈ ns, n.IsUnbroken) : ∀ l ∈ childLines width depth ns, IsLine l.toList := by
  match ns with
  | [] => simp [childLines]
  | n :: ns =>
    obtain ⟨hn, hns⟩ := List.forall_mem_cons.1 hclean
    obtain ⟨hu, hus⟩ := List.forall_mem_cons.1 hunbroken
    intro l hl
    rw [childLines, List.mem_append] at hl
    rcases hl with hl | hl
    · exact isLine_of_mem_nodeLines width depth n hn hu l hl
    · exact isLine_of_mem_childLines width depth ns hns hus l hl

end

/-- The text of an unbroken clean element can be moved to another depth line by line. -/
theorem map_lines_serialize (hclean : e.IsClean) (hunbroken : e.IsUnbroken) (width depth : Nat) :
    (lines (e.serialize width)).map (indentation width depth ++ ·) =
      nodeLines width depth e.node := by
  have hlines := isLine_of_mem_nodeLines width 0 e.node hclean hunbroken
  rw [Element.serialize, lines_unlines hlines, ← nodeLines_add, Nat.zero_add]

theorem head?_nodeLines (e : Element) (width : Nat) :
    ∃ l ls, nodeLines width 0 e.node = l :: ls ∧ l.toList.head? = some '<' := by
  rw [Element.node, nodeLines]
  split
  · exact ⟨_, _, rfl, by simp [openTag, indentation]⟩
  · split
    · exact ⟨_, _, rfl, by simp [openTag, indentation]⟩
    · exact ⟨_, _, rfl, by simp [openTag, indentation]⟩

/-- The text of an unbroken clean element has no indentation to take away. -/
theorem reindent_serialize (hclean : e.IsClean) (hunbroken : e.IsUnbroken) (width : Nat) :
    reindent (e.serialize width) = nodeLines width 0 e.node := by
  have hlines := isLine_of_mem_nodeLines width 0 e.node hclean hunbroken
  obtain ⟨l, ls, heq, hfirst⟩ := head?_nodeLines e width
  rw [Element.serialize, heq, reindent_unlines (heq ▸ hlines) (by rw [hfirst]; decide)]

theorem unlines_reindent_serialize (hclean : e.IsClean) (hunbroken : e.IsUnbroken) (width : Nat) :
    unlines (reindent (e.serialize width)) = e.serialize width := by
  rw [reindent_serialize hclean hunbroken, Element.serialize]

end GatewayPolicy.Xml
