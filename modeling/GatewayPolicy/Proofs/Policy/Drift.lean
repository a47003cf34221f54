import GatewayPolicy.Proofs.Policy.Regeneration
/-!
# Line feeds drift

Each line of an item is indented when a document is written, also where the line is inside of a
text, and the reader takes these blanks for a part of the text. So a body of two lines is not kept:
each time the document is read and written again, its second line moves to the right by two levels,
and no number of saves makes the document stable.
-/

namespace GatewayPolicy

open Text Xml

variable {settings : Settings} {a b : String}

/-! ## Bodies of two lines -/

/-- Two lines that can be a body: they end visibly, the first one starts visibly, and none mentions
an expression. -/
structure IsBody (a b : String) : Prop where
  /-- The first line. -/
  first : IsLine a.toList
  /-- The second line. -/
  second : IsLine b.toList
  /-- There are no blanks in front. -/
  start : skipBlanks a.toList = a.toList
  /-- There is no at sign in the first line. -/
  plain : '@' ∉ a.toList
  /-- There is no at sign in the second line. -/
  plain' : '@' ∉ b.toList

/-- The policy with a body of two lines. -/
def bodyElement (a b : String) : Element := ⟨"set-body", [], [.text (unlines [a, b])]⟩

theorem isPlainly_bodyElement (a b : String) : IsPlainly .setBody (bodyElement a b) :=
  ⟨rfl, ⟨by simp [bodyElement], by simp [bodyElement]⟩, by simp [bodyElement], rfl,
    by simp [bodyElement],
    .text (some _) fun hno => by simp [textParameter?, Template.policyId] at hno⟩

theorem toList_unlines_pair (a b : String) :
    (unlines [a, b]).toList = a.toList ++ '\n' :: b.toList := by
  rw [toList_unlines_cons]
  simp

namespace IsBody

theorem indent (h : IsBody a b) (width depth : Nat) : IsBody a (indentation width depth ++ b) := by
  refine ⟨h.first, ?_, h.start, h.plain, ?_⟩
  · rw [String.toList_append]
    exact isLine_append (lineFeed_notMem_indentation width depth) h.second
  · rw [String.toList_append, List.mem_append, toList_indentation, List.mem_replicate]
    simp [h.plain']

theorem trim_eq (h : IsBody a b) : trim (unlines [a, b]) = unlines [a, b] := by
  obtain ⟨c, cs, hcs⟩ := List.exists_cons_of_ne_nil h.first.ne_nil
  have hc : isBlank c = false := isBlank_of_skipBlanks_eq_cons (h.start.trans hcs)
  obtain ⟨rest, d, hd⟩ : ∃ rest d, b.toList = rest ++ [d] :=
    ⟨_, _, (List.dropLast_concat_getLast h.second.ne_nil).symm⟩
  have hvisible : isBlank d = false := by
    have hlast := h.second.visible
    rw [hd] at hlast
    simpa using hlast
  have hends : (unlines [a, b]).toList = (c :: (cs ++ '\n' :: rest)) ++ [d] := by
    rw [toList_unlines_pair, hcs, hd]
    simp
  rw [← String.toList_inj, toList_trim, hends, trimChars, List.cons_append, skipBlanks_cons hc,
    ← List.cons_append, dropEndBlanks_append_singleton hvisible]

theorem isExpression_eq (h : IsBody a b) : isExpression (unlines [a, b]) = false := by
  rw [isExpression, Bool.eq_false_iff]
  intro hhead
  have hat : '@' ∈ (unlines [a, b]).toList := List.mem_of_head? (by simpa using hhead)
  rw [toList_unlines_pair] at hat
  simp [h.plain, h.plain'] at hat

theorem isCleanText (h : IsBody a b) : IsCleanText (unlines [a, b]) := by
  refine .inl ⟨h.isExpression_eq, fun bracket hm => ?_⟩
  have hat : '@' ∈ (unlines [a, b]).toList := hm.subset List.mem_cons_self
  rw [toList_unlines_pair] at hat
  simp [h.plain, h.plain'] at hat

theorem isClean_bodyElement (h : IsBody a b) : (bodyElement a b).IsClean := by
  refine .element (show IsName "set-body" by decide)
    ⟨by simp [bodyElement], by simp [bodyElement], by simp [bodyElement]⟩
    ?_ (haveSeparateTexts_of_pairwise (List.pairwise_singleton _ _))
  exact List.forall_mem_singleton.2 (.text (.inr (by rw [h.trim_eq]; exact h.isCleanText)))

/-! ## What is written -/

theorem isBlank_text (h : IsBody a b) : (Node.text (unlines [a, b])).isBlank = false := by
  rw [Bool.eq_false_iff]
  intro hblank
  have hempty : (unlines [a, b]).toList = [] := by
    rw [← h.trim_eq, trim_eq_empty_iff.2 hblank]
    rfl
  rw [toList_unlines_pair] at hempty
  simp at hempty

theorem toList_serialize (h : IsBody a b) (width : Nat) :
    ((bodyElement a b).serialize width).toList = "<set-body>".toList ++ escapeTextChars a.toList ++
      '\n' :: (escapeTextChars b.toList ++ "</set-body>".toList) := by
  have hbreak : escapeTextChars ['\n'] = ['\n'] := by decide
  have hcontent : (contentText (trim (unlines [a, b]))).toList =
      escapeTextChars a.toList ++ '\n' :: escapeTextChars b.toList := by
    rw [h.trim_eq, contentText, h.isExpression_eq, if_neg (by simp), toList_escapeText,
      toList_unlines_pair, ← List.singleton_append, escapeTextChars_append, escapeTextChars_append,
      hbreak, List.singleton_append]
  have hlines : nodeLines width 0 (bodyElement a b).node =
      [indentation width 0 ++ openTag "set-body" [] ++ ">" ++
        String.join [contentText (trim (unlines [a, b]))] ++ endTag "set-body"] := by
    rw [Element.node, bodyElement, nodeLines]
    simp [h.isBlank_text, Node.isCharacters, inlineText]
  have hstart : (openTag "set-body" []).toList ++ ['>'] = "<set-body>".toList := by decide
  have hend : (endTag "set-body").toList = "</set-body>".toList := by decide
  rw [Element.serialize, hlines, toList_unlines_cons, ← hstart, ← hend]
  simp [hcontent]

/-- The lines of the policy. -/
def writtenLines (a b : String) : List String :=
  ["<set-body>" ++ escapeText a, escapeText b ++ "</set-body>"]

theorem serialize_eq (h : IsBody a b) (width : Nat) :
    (bodyElement a b).serialize width = unlines (writtenLines a b) := by
  rw [← String.toList_inj, h.toList_serialize, writtenLines, toList_unlines_pair]
  simp

/-- A line without an at sign is written with references. -/
theorem contentText_of_notMem {l : String} (hat : '@' ∉ l.toList) :
    contentText l = escapeText l := by
  have hexpression : isExpression l = false := by
    rw [isExpression, Bool.eq_false_iff]
    exact fun hhead => hat (List.mem_of_head? (by simpa using hhead))
  exact if_neg (by simp [hexpression])

theorem isLine_of_mem_writtenLines (h : IsBody a b) : ∀ l ∈ writtenLines a b, IsLine l.toList := by
  have htrim : trim a = a := by
    rw [← String.toList_inj, toList_trim, trimChars, h.start, h.first.dropEndBlanks_eq]
  have hvisible : isBlankText a = false := by
    rw [Bool.eq_false_iff]
    intro hblank
    refine h.first.ne_nil ?_
    rw [← htrim, trim_eq_empty_iff.2 hblank]
    rfl
  have hfirst : IsLine (escapeText a).toList := by
    have hline := isLine_contentText (s := a) (by rw [htrim]; exact h.first.notMem) hvisible
    rwa [htrim, contentText_of_notMem h.plain] at hline
  have hsecond : '\n' ∉ (escapeText b).toList := by
    rw [← contentText_of_notMem h.plain']
    exact lineFeed_notMem_contentText h.second.notMem
  rw [writtenLines, List.forall_mem_cons, List.forall_mem_singleton]
  constructor
  · rw [String.toList_append]
    exact isLine_append (by decide) hfirst
  · have hend : "</set-body>".toList = "</set-body".toList ++ ['>'] := by decide
    rw [String.toList_append, hend, ← List.append_assoc]
    refine isLine_append_bracket fun hm => ?_
    rcases List.mem_append.1 hm with hm | hm
    · exact hsecond hm
    · simp at hm

theorem escapeTextChars_replicate (n : Nat) :
    escapeTextChars (List.replicate n ' ') = List.replicate n ' ' := by
  induction n with
  | zero => rfl
  | succ n ih =>
    rw [List.replicate_succ, escapeTextChars_cons, ih]
    rfl

/-- The policy is written as one whose second line has moved. -/
theorem isWrittenAs (h : IsBody a b) {i : Item} (hrender : ({ settings } : Writer).renderItem i =
    (bodyElement a b).serialize settings.indentWidth) :
    IsWrittenAs { settings } i
      (bodyElement a (indentation settings.indentWidth 2 ++ b)).node := by
  have hindent := h.indent settings.indentWidth 2
  have hread := readsAsElement_serialize hindent.isClean_bodyElement settings.indentWidth
  refine ⟨rfl, _, hread.inside, ?_⟩
  rw [Writer.itemLines, hrender, h.serialize_eq, lines_unlines h.isLine_of_mem_writtenLines,
    map_padLine h.isLine_of_mem_writtenLines, hindent.toList_serialize, writtenLines]
  simp [lineGap, escapeTextChars_replicate]

end IsBody

/-! ## Documents -/

/-- The section with a body of two lines. -/
def bodySection (settings : Settings) (a b : String) : Section where
  includeBase := some false
  items := [simpleItem settings "inbound-0" 0 (bodyElement a b)]

/-- The model with a body of two lines. -/
def bodyModel (settings : Settings) (a b : String) : Model where
  scope := settings.defaultScope
  sections := { inbound := some (bodySection settings a b) }

/-- The document with a body of two lines. -/
def bodyDocument (settings : Settings) (a b : String) : String :=
  (bodyModel settings a b).toXml settings

theorem sortedItems_bodySection (settings : Settings) (a b : String) :
    (bodySection settings a b).sortedItems =
      [simpleItem settings "inbound-0" 0 (bodyElement a b)] :=
  List.mergeSort_singleton _

theorem renderItem_bodyElement (settings : Settings) (id : String) (order : Int) (a b : String) :
    ({ settings } : Writer).renderItem (simpleItem settings id order (bodyElement a b)) =
      (bodyElement a b).serialize settings.indentWidth :=
  (isPlainly_bodyElement a b).renderItem_simpleItem (by decide) settings id order

/-- The nodes that the sections of the model are written as. -/
def bodyNodes (settings : Settings) (a b : String) (kind : SectionKind) : List Node :=
  if kind = .inbound then [(bodyElement a (indentation settings.indentWidth 2 ++ b)).node]
  else absentNodes kind

theorem sectionIsWrittenAs_bodyNodes (settings : Settings) (h : IsBody a b) (kind : SectionKind) :
    SectionIsWrittenAs { settings } kind ((bodyModel settings a b).sections.get? kind)
      (bodyNodes settings a b kind) := by
  cases kind with
  | inbound =>
    have hitems : List.Forall₂ (IsWrittenAs { settings }) (bodySection settings a b).sortedItems
        (bodyNodes settings a b .inbound) := by
      rw [sortedItems_bodySection]
      exact .cons (h.isWrittenAs (renderItem_bodyElement settings _ _ a b)) .nil
    exact .present hitems (haveSeparateTexts_of_pairwise (List.pairwise_singleton _ _))
  | backend => exact .forwarding rfl
  | outbound => exact .empty (by decide)
  | onError => exact .empty (by decide)

/-- What is read back of the section holds the policy with its second line moved. -/
theorem sectionLines_inbound (settings : Settings) {e : Element}
    (htidy : tidyNodes e.children = tidyNodes [(bodyElement a b).node]) :
    ({ settings } : Writer).sectionLines .inbound (some (readSection settings .inbound e)) =
      ({ settings } : Writer).sectionLines .inbound
        ((bodyModel settings a b).sections.get? .inbound) := by
  have hread : List.Forall₂ (fun (_ : Unit) n => IsReadAs settings n fun id order i =>
      i = simpleItem settings id order (bodyElement a b)) [()] [(bodyElement a b).node] :=
    .cons ((isPlainly_bodyElement a b).isReadAs settings) .nil
  obtain ⟨hbase, hitems⟩ := readSection_of_isReadAs (b := false) htidy
    (List.forall_mem_singleton.2 rfl) hread .inbound
  have hitem : (readSection settings .inbound e).items =
      [simpleItem settings "inbound-0" 0 (bodyElement a b)] := by
    generalize (readSection settings .inbound e).items = items at hitems
    cases hitems with
    | cons hi hrest =>
      cases hrest
      rw [hi]
      rfl
  have hsection : readSection settings .inbound e = bodySection settings a b := by
    generalize readSection settings .inbound e = s at hbase hitem
    cases s
    simp_all [bodySection]
  rw [hsection]
  rfl

/-- Reading the document and writing it again moves the second line by two levels. -/
theorem exists_ofXml_bodyDocument (settings : Settings) (h : IsBody a b) :
    ∃ m, Model.ofXml settings (bodyDocument settings a b) = .ok m ∧
      m.toXml settings = bodyDocument settings a (indentation settings.indentWidth 2 ++ b) := by
  obtain ⟨sections, hread, hsections⟩ :=
    exists_ofXml_write fun kind => (sectionIsWrittenAs_bodyNodes settings h kind).readsAs
  refine ⟨_, hread, toXml_eq_of_sectionLines_eq fun kind => ?_⟩
  obtain ⟨e, htidy, hget⟩ := hsections kind
  rw [hget]
  cases kind with
  | inbound => exact sectionLines_inbound settings htidy
  | _ =>
    have habsent {P : Element → Prop} : ∀ e, (none : Option Element) = some e → P e := by simp
    exact sectionLines_readSection habsent habsent _ htidy

/-- The document tells how far its second line has moved. -/
theorem eq_of_bodyDocument_eq {b' : String} (h : IsBody a b) (h' : IsBody a b')
    (heq : bodyDocument settings a b = bodyDocument settings a b') : b = b' := by
  obtain ⟨root, hparse, -, hchildren⟩ :=
    exists_parse_write fun kind => (sectionIsWrittenAs_bodyNodes settings h kind).readsAs
  obtain ⟨root', hparse', -, hchildren'⟩ :=
    exists_parse_write fun kind => (sectionIsWrittenAs_bodyNodes settings h' kind).readsAs
  have hroot : root = root' :=
    Except.ok.inj (hparse.symm.trans ((congrArg parse heq).trans hparse'))
  rw [hroot, hchildren'] at hchildren
  have hinbound := tidyNodes_children_of_tidy_eq (List.cons.inj hchildren).1
  have hnodes : [(bodyElement a (indentation settings.indentWidth 2 ++ b')).node.tidy] =
      [(bodyElement a (indentation settings.indentWidth 2 ++ b)).node.tidy] := hinbound
  have hbody := h.indent settings.indentWidth 2
  have hbody' := h'.indent settings.indentWidth 2
  simp only [Element.node, bodyElement, Node.tidy, tidyNodes_cons hbody.isBlank_text,
    tidyNodes_cons hbody'.isBlank_text, tidyNodes_nil, hbody.trim_eq, hbody'.trim_eq] at hnodes
  have hlines : unlines [a, indentation settings.indentWidth 2 ++ b'] =
      unlines [a, indentation settings.indentWidth 2 ++ b] := by
    simpa using hnodes
  have hchars := congrArg String.toList hlines.symm
  rw [← String.toList_inj]
  simpa [toList_unlines_pair] using hchars

/-! ## Saving again and again -/

/-- The document after it was read and written `n` times. -/
def saved (settings : Settings) : Nat → String → Except Error String
  | 0, document => .ok document
  | n + 1, document => do
    let m ← Model.ofXml settings document
    saved settings n (m.toXml settings)

/-- Each time the document is saved, the second line moves by two levels. -/
theorem saved_bodyDocument (h : IsBody a b) (n : Nat) :
    saved settings n (bodyDocument settings a b) =
      .ok (bodyDocument settings a (indentation settings.indentWidth (2 * n) ++ b)) := by
  -- The second line differs from save to save, so the induction is over all of them.
  induction n generalizing b with
  | zero => simp [saved, indentation]
  | succ n ih =>
    obtain ⟨m, hread, hwrite⟩ := exists_ofXml_bodyDocument settings h
    have hmoved : indentation settings.indentWidth (2 * n) ++
        (indentation settings.indentWidth 2 ++ b) =
        indentation settings.indentWidth (2 * (n + 1)) ++ b := by
      rw [← String.append_assoc, ← indentation_add, Nat.mul_succ, Nat.add_comm]
    rw [saved, hread, ← hmoved, ← ih (h.indent settings.indentWidth 2), ← hwrite]
    rfl

/-- No number of saves makes the document stable, unless lines are not indented. -/
theorem saved_succ_ne (h : IsBody a b) (hwidth : 0 < settings.indentWidth) (n : Nat) :
    saved settings (n + 1) (bodyDocument settings a b) ≠
      saved settings n (bodyDocument settings a b) := by
  rw [saved_bodyDocument h, saved_bodyDocument h]
  intro heq
  have hline := eq_of_bodyDocument_eq (h.indent _ _) (h.indent _ _) (Except.ok.inj heq)
  have hlength := congrArg (·.toList.length) hline
  simp [Nat.mul_succ] at hlength
  omega

end GatewayPolicy
