import GatewayPolicy.Proofs.Xml.Tags
import GatewayPolicy.Xml.Document
/-!
# Content, read node by node

What a stretch of a document contributes to the tree does not depend on the elements around it: it
adds nodes to the innermost open element. The stretches compose, and an element is what its content
yields between its tags.
-/

namespace GatewayPolicy.Xml

open Text

variable {s t r rest gap : List Char} {ns ms : List Node} {c : Char} {name : String}
  {attributes : Attributes}

/-! ## Tokens -/

/-- A mark is found right behind a text if it occurs neither in the text nor across its end. -/
theorem splitAtFirst?_append {mark : List Char} (hmark : mark ≠ [])
    (h : ¬ mark <:+: s ++ mark.dropLast) (r : List Char) :
    splitAtFirst? mark (s ++ (mark ++ r)) = some (s, r) := by
  induction s with
  | nil =>
    obtain ⟨x, xs, rfl⟩ := List.exists_cons_of_ne_nil hmark
    have hprefix : (x :: xs).isPrefixOf (x :: (xs ++ r)) = true :=
      List.isPrefixOf_iff_prefix.2 (List.prefix_append (x :: xs) r)
    rw [List.nil_append, List.cons_append, splitAtFirst?, if_pos hprefix, ← List.cons_append,
      List.drop_left]
  | cons c s ih =>
    have hs : ¬ mark <:+: s ++ mark.dropLast := fun hs => h (hs.trans (List.suffix_cons c _).isInfix)
    have hprefix : mark.isPrefixOf (c :: (s ++ (mark ++ r))) = false := by
      rw [Bool.eq_false_iff]
      intro hp
      -- The occurrence is no longer than the text and all but the last character of the mark.
      have hshort : c :: (s ++ mark.dropLast) <+: c :: (s ++ (mark ++ r)) := by
        refine (List.prefix_cons_inj c).2 ((List.prefix_append_right_inj s).2 ?_)
        exact (List.dropLast_prefix mark).trans (List.prefix_append mark r)
      have hlength : mark.length ≤ (c :: (s ++ mark.dropLast)).length := by
        simp only [List.length_cons, List.length_append, List.length_dropLast]
        omega
      exact h (List.prefix_of_prefix_length_le (List.isPrefixOf_iff_prefix.1 hp) hshort
        hlength).isInfix
    rw [List.cons_append, splitAtFirst?, hprefix, ih hs]
    rfl

/-- A mark of two equal characters and an angle bracket is found right behind a text without it, even
if the text ends in characters of the mark. -/
theorem splitAtFirst?_closing {x : Char} (hx : x ≠ '>') (h : ¬ [x, x, '>'] <:+: s)
    (r : List Char) : splitAtFirst? [x, x, '>'] (s ++ x :: x :: '>' :: r) = some (s, r) := by
  refine splitAtFirst?_append (by simp) ?_ r
  have step {t : List Char} (ht : ¬ [x, x, '>'] <:+: t) : ¬ [x, x, '>'] <:+: t ++ [x] := by
    intro hi
    rcases List.infix_concat_iff.1 hi with hi | hi
    · have hlast := hi.getLast (by simp)
      simp only [List.getLast_cons_cons, List.getLast_singleton, List.getLast_append_singleton]
        at hlast
      exact hx hlast.symm
    · exact ht hi
  simpa using step (step h)

theorem readToken_comment (h : ¬ ['-', '-', '>'] <:+: s) (r : List Char) :
    readToken ('<' :: '!' :: '-' :: '-' :: (s ++ '-' :: '-' :: '>' :: r)) =
      .ok (.comment (.ofList s), r) := by
  simp [readToken, readComment, readConstruct, splitAtFirst?_closing (by decide) h]

theorem readToken_cdata (h : ¬ [']', ']', '>'] <:+: s) (r : List Char) :
    readToken ('<' :: '!' :: '[' :: 'C' :: 'D' :: 'A' :: 'T' :: 'A' :: '[' ::
      (s ++ ']' :: ']' :: '>' :: r)) = .ok (.cdata (.ofList s), r) := by
  simp [readToken, readCdata, readConstruct, splitAtFirst?_closing (by decide) h]

theorem readInstruction_append (h : ¬ ['?', '>'] <:+: '?' :: s) (r : List Char) :
    readInstruction ('<' :: '?' :: (s ++ '?' :: '>' :: r)) = .ok ('<' :: '?' :: s, r) := by
  have hmark : ¬ ['?', '>'] <:+: '<' :: '?' :: s ++ ['?', '>'].dropLast := by
    intro hi
    rcases List.infix_concat_iff.1 hi with hi | hi
    · have hlast := hi.getLast (by simp)
      simp only [List.getLast_cons_cons, List.getLast_singleton, List.getLast_append_singleton]
        at hlast
      simp at hlast
    · rcases List.infix_cons_iff.1 hi with hi | hi
      · simp at hi
      · exact h hi
  have hsplit := splitAtFirst?_append (by simp) hmark r
  simp only [List.cons_append, List.nil_append] at hsplit
  rw [readInstruction, readConstruct, hsplit]

theorem readToken_instruction (h : ¬ ['?', '>'] <:+: '?' :: s) (r : List Char) :
    readToken ('<' :: '?' :: (s ++ '?' :: '>' :: r)) = .ok (.instruction, r) := by
  simp [readToken, readInstruction_append h]

theorem readToken_endTag (hn : IsName name) (hgap : IsBlankRun gap) (r : List Char) :
    readToken ('<' :: '/' :: (name.toList ++ (gap ++ '>' :: r))) = .ok (.endTag name, r) := by
  simp [readToken, readEndTag_append hn hgap]

/-- An angle bracket in front of a name starts a start tag. -/
theorem readToken_name (hn : IsName name) (rest : List Char) :
    readToken ('<' :: (name.toList ++ rest)) =
      match readStartTag ('<' :: (name.toList ++ rest)) (name.toList ++ rest) with
      | .error f => .error f
      | .ok (tag, r) => .ok (.startTag tag, r) := by
  obtain ⟨c, cs, hc, hstart, hchar⟩ := hn.exists_cons
  rw [hc, List.cons_append]
  conv => lhs; unfold readToken
  split
  · rename_i heq
    obtain ⟨rfl, -⟩ := List.cons.inj (List.cons.inj heq).2
    simp [isNameChar] at hchar
  · rename_i heq
    obtain ⟨rfl, -⟩ := List.cons.inj (List.cons.inj heq).2
    exact absurd hstart (by decide)
  · rename_i heq
    obtain ⟨rfl, -⟩ := List.cons.inj (List.cons.inj heq).2
    exact absurd hstart (by decide)
  · rename_i heq
    obtain ⟨rfl, -⟩ := List.cons.inj (List.cons.inj heq).2
    exact absurd hstart (by decide)
  · rename_i heq
    obtain ⟨-, rfl⟩ := List.cons.inj heq
    rfl
  · rename_i heq
    exact absurd rfl (heq _)

/-- Anything but an angle bracket starts a text. -/
theorem readToken_cons (hc : c ≠ '<') (s : List Char) :
    readToken (c :: s) =
      .ok (.text (.ofList (unescapeChars (readText (c :: s)).1)), (readText (c :: s)).2) := by
  have hne : ∀ u, c :: s ≠ '<' :: u := fun u heq => hc (List.cons.inj heq).1
  unfold readToken
  split
  · exact absurd ‹_› (hne _)
  · exact absurd ‹_› (hne _)
  · exact absurd ‹_› (hne _)
  · exact absurd ‹_› (hne _)
  · exact absurd ‹_› (hne _)
  · rfl

/-- Characters that are read as text up to the markup behind them are a token. -/
theorem readToken_of_readText (h : readText (s ++ '<' :: r) = (s, '<' :: r)) (hs : s ≠ []) :
    readToken (s ++ '<' :: r) = .ok (.text (.ofList (unescapeChars s)), '<' :: r) := by
  obtain ⟨c, s, rfl⟩ := List.exists_cons_of_ne_nil hs
  have hc : c ≠ '<' := by
    rintro rfl
    rw [List.cons_append, readText_bracket] at h
    exact hs (Prod.mk.inj h).1.symm
  rw [List.cons_append, readToken_cons hc, ← List.cons_append, h]

/-! ## Steps of the reader -/

/-- Adds nodes to an open element, at the end. -/
def OpenElement.pushAll (e : OpenElement) (ns : List Node) : OpenElement :=
  { e with children := ns.reverse ++ e.children }

@[simp] theorem OpenElement.pushAll_nil (e : OpenElement) : e.pushAll [] = e := rfl

@[simp] theorem OpenElement.pushAll_pushAll (e : OpenElement) (ns ms : List Node) :
    (e.pushAll ns).pushAll ms = e.pushAll (ns ++ ms) := by
  simp [OpenElement.pushAll]

/-- The input goes on from `s` to `r`, and the innermost open element gets the nodes `ns`, whatever
elements are open. -/
def Yields (s : List Char) (ns : List Node) (r : List Char) : Prop :=
  ∀ top around, readContent top around s = readContent (top.pushAll ns) around r

theorem Yields.refl (s : List Char) : Yields s [] s := fun _ _ => rfl

theorem Yields.trans (h : Yields s ns r) (h' : Yields r ms t) : Yields s (ns ++ ms) t := by
  intro top around
  rw [h top around, h' (top.pushAll ns) around, OpenElement.pushAll_pushAll]

theorem yields_of_readText (h : readText (s ++ '<' :: r) = (s, '<' :: r)) (hs : s ≠ []) :
    Yields (s ++ '<' :: r) [.text (.ofList (unescapeChars s))] ('<' :: r) := by
  intro top around
  have ht := readToken_of_readText h hs
  obtain ⟨c, s, rfl⟩ := List.exists_cons_of_ne_nil hs
  conv => lhs; rw [List.cons_append, readContent]
  split <;> rename_i heq <;> rw [← List.cons_append, ht] at heq <;> cases heq
  rfl

/-- A run of text is read up to the markup behind it. -/
theorem yields_text (h : isTextRun s = true) (hs : s ≠ []) (r : List Char) :
    Yields (s ++ '<' :: r) [.text (.ofList (unescapeChars s))] ('<' :: r) :=
  yields_of_readText (readText_append h r) hs

theorem yields_comment (h : ¬ ['-', '-', '>'] <:+: s) (r : List Char) :
    Yields ('<' :: '!' :: '-' :: '-' :: (s ++ '-' :: '-' :: '>' :: r))
      [.comment (.ofList s)] r := by
  intro top around
  have ht := readToken_comment h r
  conv => lhs; rw [readContent]
  split <;> rename_i heq <;> rw [ht] at heq <;> cases heq
  rfl

theorem yields_cdata (h : ¬ [']', ']', '>'] <:+: s) (r : List Char) :
    Yields ('<' :: '!' :: '[' :: 'C' :: 'D' :: 'A' :: 'T' :: 'A' :: '[' ::
      (s ++ ']' :: ']' :: '>' :: r)) [.cdata (.ofList s)] r := by
  intro top around
  have ht := readToken_cdata h r
  conv => lhs; rw [readContent]
  split <;> rename_i heq <;> rw [ht] at heq <;> cases heq
  rfl

/-- A processing instruction adds nothing. -/
theorem yields_instruction (h : ¬ ['?', '>'] <:+: '?' :: s) (r : List Char) :
    Yields ('<' :: '?' :: (s ++ '?' :: '>' :: r)) [] r := by
  intro top around
  have ht := readToken_instruction h r
  conv => lhs; rw [readContent]
  split <;> rename_i heq <;> rw [ht] at heq <;> cases heq
  rfl

/-- A tag that is closed adds an element without children. -/
theorem yields_closedTag (hn : IsName name)
    (h : readStartTag ('<' :: (name.toList ++ s)) (name.toList ++ s) =
      .ok (⟨name, attributes, true⟩, r)) :
    Yields ('<' :: (name.toList ++ s)) [.element name attributes []] r := by
  intro top around
  have ht := readToken_name hn s
  rw [h] at ht
  conv => lhs; rw [readContent]
  split <;> rename_i heq <;> rw [ht] at heq <;> cases heq
  rfl

theorem yields_closed {raw : Attributes} (hn : IsName name) (h : AreReadable raw)
    (r : List Char) :
    Yields ('<' :: (name.toList ++ (attributeChars raw ++ ' ' :: '/' :: '>' :: r)))
      [.element name (readRaw raw) []] r :=
  yields_closedTag hn (readStartTag_closed hn h _ r)

/-- An end tag closes the innermost open element. -/
theorem readContent_endTag (hn : IsName name) (hgap : IsBlankRun gap) (top parent : OpenElement)
    (around : List OpenElement) (htop : top.name = name) (r : List Char) :
    readContent top (parent :: around) ('<' :: '/' :: (name.toList ++ (gap ++ '>' :: r))) =
      readContent (parent.push top.close.node) around r := by
  have ht := readToken_endTag hn hgap r
  conv => lhs; rw [readContent]
  split <;> rename_i heq <;> rw [ht] at heq <;> cases heq
  rw [if_pos htop.symm]

/-- The end tag of the outermost element ends the content. -/
theorem readContent_endTag_root (hn : IsName name) (hgap : IsBlankRun gap) (top : OpenElement)
    (htop : top.name = name) (r : List Char) :
    readContent top [] ('<' :: '/' :: (name.toList ++ (gap ++ '>' :: r))) = .ok (top.close, r) := by
  have ht := readToken_endTag hn hgap r
  conv => lhs; rw [readContent]
  split <;> rename_i heq <;> rw [ht] at heq <;> cases heq
  rw [if_pos htop.symm]

/-- Tags around content add an element with what the content yields. -/
theorem yields_openedTag (hn : IsName name) (hgap : IsBlankRun gap)
    (h : readStartTag ('<' :: (name.toList ++ s)) (name.toList ++ s) =
      .ok (⟨name, attributes, false⟩, t))
    (hs : Yields t ns ('<' :: '/' :: (name.toList ++ (gap ++ '>' :: r)))) :
    Yields ('<' :: (name.toList ++ s)) [.element name attributes ns] r := by
  intro top around
  have ht := readToken_name hn s
  rw [h] at ht
  conv => lhs; rw [readContent]
  split <;> rename_i heq <;> rw [ht] at heq <;> cases heq
  rw [if_neg Bool.false_ne_true, hs, readContent_endTag hn hgap _ _ _ rfl]
  simp [OpenElement.pushAll, OpenElement.push, OpenElement.close, StartTag.opened, Element.node]

theorem yields_element {raw : Attributes} (hn : IsName name) (h : AreReadable raw)
    (hs : Yields s ns ('<' :: '/' :: (name.toList ++ '>' :: r))) :
    Yields ('<' :: (name.toList ++ (attributeChars raw ++ '>' :: s)))
      [.element name (readRaw raw) ns] r :=
  yields_openedTag hn isBlankRun_nil (readStartTag_opened hn h _ s) hs

/-! ## Documents -/

/-- Nothing that may stand around the root starts like a tag. -/
theorem skipItem?_name (hn : IsName name) (rest : List Char) :
    skipItem? ('<' :: (name.toList ++ rest)) = none := by
  obtain ⟨c, cs, hc, hstart, -⟩ := hn.exists_cons
  rw [hc, List.cons_append]
  unfold skipItem?
  split
  · rename_i heq
    obtain ⟨rfl, -⟩ := List.cons.inj (List.cons.inj heq).2
    exact absurd hstart (by decide)
  · rename_i heq
    obtain ⟨rfl, -⟩ := List.cons.inj (List.cons.inj heq).2
    exact absurd hstart (by decide)
  · rw [if_neg]
    intro hp
    obtain ⟨u, hu⟩ := List.isPrefixOf_iff_prefix.1 hp
    obtain ⟨rfl, -⟩ := List.cons.inj (List.cons.inj hu).2
    exact absurd hstart (by decide)

theorem skipMisc_of_skipItem?_eq_none (h : skipItem? (skipBlanks s) = none) :
    skipMisc s = .ok (skipBlanks s) := by
  rw [skipMisc]
  split
  · rfl
  · rename_i heq
    rw [h] at heq
    simp at heq
  · rename_i heq
    rw [h] at heq
    simp at heq

theorem skipMisc_of_skipItem? (h : skipItem? (skipBlanks s) = some (.ok r)) :
    skipMisc s = skipMisc r := by
  conv => lhs; rw [skipMisc]
  split <;> rename_i heq <;> rw [h] at heq <;> cases heq
  rfl

/-- A document that starts with a name behind an angle bracket has nothing in front of its root. -/
theorem skipMisc_name (hn : IsName name) (rest : List Char) :
    skipMisc ('<' :: (name.toList ++ rest)) = .ok ('<' :: (name.toList ++ rest)) := by
  have hskip : skipBlanks ('<' :: (name.toList ++ rest)) = '<' :: (name.toList ++ rest) :=
    skipBlanks_cons (by decide) _
  rw [skipMisc_of_skipItem?_eq_none (by rw [hskip, skipItem?_name hn]), hskip]

theorem skipMisc_nil : skipMisc [] = .ok [] :=
  skipMisc_of_skipItem?_eq_none (by simp [skipBlanks, skipItem?, doctypeMark])

theorem readRoot_closedTag (h : readStartTag ('<' :: s) s = .ok (⟨name, attributes, true⟩, r)) :
    readRoot s = .ok (⟨name, attributes, []⟩, r) := by
  unfold readRoot
  rw [h]
  rfl

theorem readRoot_openedTag (hn : IsName name) (hgap : IsBlankRun gap)
    (h : readStartTag ('<' :: s) s = .ok (⟨name, attributes, false⟩, t))
    (hs : Yields t ns ('<' :: '/' :: (name.toList ++ (gap ++ '>' :: r)))) :
    readRoot s = .ok (⟨name, attributes, ns⟩, r) := by
  unfold readRoot
  rw [h]
  dsimp only
  rw [if_neg Bool.false_ne_true, hs, readContent_endTag_root hn hgap _ rfl]
  simp [OpenElement.pushAll, OpenElement.close, StartTag.opened]

/-- A document is its root and what may stand around it. -/
theorem readDocument_eq_ok_iff {e : Element} : readDocument t = .ok e ↔
    ∃ s r, skipMisc (dropMark t) = .ok ('<' :: s) ∧ readRoot s = .ok (e, r) ∧
      skipMisc r = .ok [] := by
  constructor
  · intro h
    unfold readDocument at h
    split at h
    · simp at h
    · rename_i hbefore
      split at h
      · simp at h
      · rename_i hroot
        split at h
        · simp at h
        · rename_i hafter
          obtain rfl := Except.ok.inj h
          exact ⟨_, _, hbefore, hroot, hafter⟩
        · simp at h
    · simp at h
  · rintro ⟨s, r, hbefore, hroot, hafter⟩
    simp only [readDocument, hbefore, hroot, hafter]

theorem parse_eq_ok_iff {document : String} {e : Element} :
    parse document = .ok e ↔ readDocument document.toList = .ok e := by
  unfold parse
  cases readDocument document.toList <;> simp

theorem readDocument_of_readRoot {e : Element} (hbefore : skipMisc (dropMark t) = .ok ('<' :: s))
    (hroot : readRoot s = .ok (e, r)) (hafter : skipMisc r = .ok []) : readDocument t = .ok e :=
  readDocument_eq_ok_iff.2 ⟨s, r, hbefore, hroot, hafter⟩

theorem readDocument_element {raw : Attributes} (hn : IsName name) (h : AreReadable raw)
    (hs : Yields s ns ('<' :: '/' :: (name.toList ++ ['>']))) :
    readDocument ('<' :: (name.toList ++ (attributeChars raw ++ '>' :: s))) =
      .ok ⟨name, readRaw raw, ns⟩ :=
  readDocument_of_readRoot (skipMisc_name hn _)
    (readRoot_openedTag hn isBlankRun_nil (readStartTag_opened hn h _ s) hs) skipMisc_nil

theorem readDocument_closed {raw : Attributes} (hn : IsName name) (h : AreReadable raw) :
    readDocument ('<' :: (name.toList ++ (attributeChars raw ++ [' ', '/', '>']))) =
      .ok ⟨name, readRaw raw, []⟩ :=
  readDocument_of_readRoot (skipMisc_name hn _)
    (readRoot_closedTag (readStartTag_closed hn h _ [])) skipMisc_nil

end GatewayPolicy.Xml
