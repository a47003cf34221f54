import GatewayPolicy.Proofs.Xml.Lookahead
import GatewayPolicy.Proofs.Xml.Roots
import GatewayPolicy.Proofs.Xml.Spelling
/-!
# What follows the root

Blanks, comments and processing instructions behind the root are skipped, so they do not show in the
tree. But the reader looks for the end of an expression in the whole document, also behind the root.
An expression that is opened in a value or a text and not closed is read as it is, up to the quote or
the markup; if a closing bracket follows in a comment behind the root, the value or the text goes on
to it. So the tree stays the same exactly if what follows completes no expression.
-/

namespace GatewayPolicy.Xml

open Text

variable {cs r r' s : List Char} {e e' : Element} {top : OpenElement} {around : List OpenElement}
  {n m : Node} {p : Place}

/-! ## Open elements grow -/

/-- The element can be what becomes of the outermost open element: each open element keeps its name,
its attributes and the children read so far, and gets more children behind them. -/
def GrowsInto : OpenElement → List OpenElement → Element → Prop
  | top, [], e =>
    e.name = top.name ∧ e.attributes = top.attributes ∧ top.children.reverse <+: e.children
  | top, parent :: around, e =>
    ∃ children, top.children.reverse <+: children ∧
      GrowsInto (parent.push (.element top.name top.attributes children)) around e

theorem GrowsInto.of_push (h : GrowsInto (top.push n) around e) : GrowsInto top around e := by
  have hprefix : top.children.reverse <+: (top.push n).children.reverse := by
    simp [OpenElement.push]
  cases around with
  | nil =>
    obtain ⟨hname, hattributes, hchildren⟩ := h
    exact ⟨hname, hattributes, hprefix.trans hchildren⟩
  | cons parent around =>
    obtain ⟨children, hchildren, h⟩ := h
    exact ⟨children, hprefix.trans hchildren, h⟩

/-- What is read is what the open elements have grown into. -/
theorem growsInto_of_readContent (h : readContent top around cs = .ok (e, r)) :
    GrowsInto top around e := by
  fun_induction readContent top around cs with
  | case1 => simp at h
  | case2 => simp at h
  | case3 top around c rest tag r' ht hclosed ih => exact (ih h).of_push
  | case4 top around c rest tag r' ht hopened ih =>
    obtain ⟨_, -, hgrows⟩ := ih h
    exact hgrows.of_push
  | case5 top c rest r' ht =>
    obtain ⟨rfl, -⟩ := Prod.mk.inj (Except.ok.inj h)
    exact ⟨rfl, rfl, List.prefix_rfl⟩
  | case6 top c rest r' parent around ht ih => exact ⟨_, List.prefix_rfl, ih h⟩
  | case7 => simp at h
  | case8 top around c rest s r' ht ih => exact (ih h).of_push
  | case9 top around c rest s r' ht ih => exact (ih h).of_push
  | case10 top around c rest r' ht ih => exact ih h
  | case11 top around c rest s r' ht ih => exact (ih h).of_push

/-- Open elements with different next children grow into different elements. -/
theorem GrowsInto.unique (h : GrowsInto (top.push n) around e)
    (h' : GrowsInto (top.push m) around e) : n = m := by
  -- The next child stands right behind the children that both have.
  have next {ns : List Node} {top : OpenElement} {n m : Node}
      (hn : (top.push n).children.reverse <+: ns) (hm : (top.push m).children.reverse <+: ns) :
      n = m := by
    have hlength : (top.push n).children.reverse.length = (top.push m).children.reverse.length := by
      simp [OpenElement.push]
    have heq := (List.prefix_of_prefix_length_le hn hm hlength.le).eq_of_length hlength
    exact (List.cons.inj (List.reverse_injective heq)).1
  induction around generalizing top n m with
  | nil => exact next h.2.2 h'.2.2
  | cons parent around ih =>
    obtain ⟨children, hchildren, h⟩ := h
    obtain ⟨children', hchildren', h'⟩ := h'
    obtain ⟨-, -, rfl⟩ := Node.element.inj (ih h h')
    exact next hchildren hchildren'

/-- The open element, if `s` follows the document. -/
def OpenElement.extend (s : List Char) (e : OpenElement) : OpenElement :=
  { e with start := e.start ++ s }

theorem growsInto_extend :
    GrowsInto (top.extend s) (around.map (.extend s)) e ↔ GrowsInto top around e := by
  induction around generalizing top with
  | nil => rfl
  | cons parent around ih =>
    exact exists_congr fun children => and_congr_right fun _ =>
      @ih (parent.push (.element top.name top.attributes children))

theorem growsInto_push_extend :
    GrowsInto ((top.extend s).push n) (around.map (.extend s)) e ↔
      GrowsInto (top.push n) around e := by
  change GrowsInto ((top.push n).extend s) _ e ↔ _
  exact growsInto_extend

/-! ## Content -/

/-- The state of the reader, if `s` follows the document. -/
def ContentState.extend (s : List Char) (state : ContentState) : ContentState :=
  ⟨state.top.extend s, state.around.map (.extend s), state.input ++ s⟩

/-- An expression in the next token is completed by `s`. -/
def CompletesToken (s : List Char) (state : ContentState) : Prop :=
  ∃ p, LooksInToken state.input p ∧ p.IsCompletedBy s

variable {state state' : ContentState}

theorem contentPass_extend {t : Token} (hpass : contentPass state = .goesOn state')
    (hread : readToken state.input = .ok (t, state'.input))
    (hread' : readToken (state.input ++ s) = .ok (t, state'.input ++ s)) :
    contentPass (state.extend s) = .goesOn (state'.extend s) := by
  obtain ⟨top, around, cs⟩ := state
  obtain ⟨top', around', r⟩ := state'
  cases cs with
  | nil => cases hpass
  | cons c rest =>
    rw [List.cons_append] at hread'
    simp only [contentPass, hread] at hpass
    simp only [contentPass, ContentState.extend, List.cons_append, hread']
    cases t with
    | startTag tag =>
      dsimp only at hpass ⊢
      split at hpass
      · cases hpass
        rw [if_pos ‹_›]
        rfl
      · cases hpass
        rw [if_neg ‹_›]
        rfl
    | endTag name =>
      dsimp only at hpass
      split at hpass
      · cases around with
        | nil => cases hpass
        | cons parent around =>
          cases hpass
          exact if_pos ‹_›
      · cases hpass
    | comment v =>
      cases hpass
      rfl
    | cdata v =>
      cases hpass
      rfl
    | instruction =>
      cases hpass
      rfl
    | text v =>
      cases hpass
      rfl

/-- Content ends with the end tag of the outermost element. -/
theorem contentPass_eq_ends_ok_iff : contentPass state = .ends (.ok (e, r)) ↔
    state.input ≠ [] ∧ readToken state.input = .ok (.endTag state.top.name, r) ∧
      state.around = [] ∧ state.top.close = e := by
  obtain ⟨top, around, cs⟩ := state
  cases cs with
  | nil => simp [contentPass]
  | cons c rest =>
    simp only [contentPass]
    constructor
    · intro h
      split at h
      · cases h
      · split at h <;> cases h
      · rename_i hread
        split at h
        · rename_i hname
          split at h
          · cases h
            exact ⟨by simp, hname ▸ hread, rfl, rfl⟩
          · cases h
        · cases h
      all_goals cases h
    · rintro ⟨-, hread, rfl, rfl⟩
      simp only [hread, if_true]

theorem input_ne_nil_of_runs {k : Nat} (h : Runs contentPass state k (.ok (e, r))) :
    state.input ≠ [] := by
  cases h with
  | ends hpass => exact (contentPass_eq_ends_ok_iff.1 hpass).1
  | goesOn hpass _ => exact (exists_readToken_of_contentPass hpass).choose_spec.1

theorem areInStep_content (s : List Char) (e : Element) (r : List Char) :
    AreInStep contentPass contentPass (.extend s) (CompletesToken s) (.ok (e, r))
      (.ok (e, r ++ s)) where
  goesOn {state state' _} hpass hrun hopen := by
    obtain ⟨t, -, hread⟩ := exists_readToken_of_contentPass hpass
    have hread' := readToken_append_right hread (fun _ _ => input_ne_nil_of_runs hrun)
      fun p hp hc => hopen ⟨p, hp, hc⟩
    exact contentPass_extend hpass hread hread'
  ends {state} hpass hopen := by
    obtain ⟨hne, hread, haround, hclose⟩ := contentPass_eq_ends_ok_iff.1 hpass
    have hread' := readToken_append_right hread (by simp) fun p hp hc => hopen ⟨p, hp, hc⟩
    refine contentPass_eq_ends_ok_iff.2 ⟨by simp [ContentState.extend, hne], hread', ?_, hclose⟩
    simp [ContentState.extend, haround]

theorem readContent_append_right (h : readContent top around cs = .ok (e, r))
    (hopen : ∀ state, Reaches contentPass ⟨top, around, cs⟩ state → ¬ CompletesToken s state) :
    readContent (top.extend s) (around.map (.extend s)) (cs ++ s) = .ok (e, r ++ s) :=
  (areInStep_content s e r).eq isSafeLoop_content repeats_content hopen h

/-- A text that is read becomes part of the tree. -/
theorem growsInto_of_readToken_text {v : String} (h : readContent top around cs = .ok (e, r))
    (hread : readToken cs = .ok (.text v, r')) : GrowsInto (top.push (.text v)) around e := by
  have hpass := repeats_content ⟨top, around, cs⟩
  cases cs with
  | nil => simp [readContent] at h
  | cons c rest =>
    simp only [h, contentPass, hread] at hpass
    exact growsInto_of_readContent hpass.symm

/-- A start tag that is read becomes the tag of an element of the tree. -/
theorem exists_growsInto_of_readToken_startTag {tag : StartTag}
    (h : readContent top around cs = .ok (e, r)) (hread : readToken cs = .ok (.startTag tag, r')) :
    ∃ children, GrowsInto (top.push (.element tag.name tag.attributes children)) around e := by
  have hpass := repeats_content ⟨top, around, cs⟩
  cases cs with
  | nil => simp [readContent] at h
  | cons c rest =>
    simp only [h, contentPass, hread] at hpass
    split at hpass
    · rename_i heq
      split at heq <;> cases heq
    · rename_i heq
      split at heq
      · cases heq
        exact ⟨_, growsInto_of_readContent hpass.symm⟩
      · cases heq
        obtain ⟨children, -, hgrows⟩ := growsInto_of_readContent hpass.symm
        exact ⟨children, hgrows⟩

theorem exists_readToken_of_readContent (h : readContent top around cs = .ok (e, r)) :
    ∃ t r', readToken cs = .ok (t, r') ∧ ∀ v, t = .text v → r' ≠ [] := by
  obtain ⟨k, -, hrun⟩ := isSafeLoop_content.runs ⟨top, around, cs⟩
  rw [h] at hrun
  cases hrun with
  | ends hpass =>
    obtain ⟨-, hread, -, -⟩ := contentPass_eq_ends_ok_iff.1 hpass
    exact ⟨_, _, hread, by simp⟩
  | goesOn hpass hr =>
    obtain ⟨t, -, hread⟩ := exists_readToken_of_contentPass hpass
    exact ⟨t, _, hread, fun _ _ => input_ne_nil_of_runs hr⟩

/-- Different start tags or texts become different trees. -/
theorem ne_of_startsOther {t t' : Token} {ds r₁ r₂ : List Char} (h : t.StartsOther t')
    (hread : readToken cs = .ok (t, r₁)) (hcontent : readContent top around cs = .ok (e, r))
    (hread' : readToken ds = .ok (t', r₂))
    (hcontent' : readContent (top.extend s) (around.map (.extend s)) ds = .ok (e', r')) :
    e' ≠ e := by
  rintro rfl
  cases h with
  | tag hne =>
    obtain ⟨_, hgrows⟩ := exists_growsInto_of_readToken_startTag hcontent hread
    obtain ⟨_, hgrows'⟩ := exists_growsInto_of_readToken_startTag hcontent' hread'
    have hsame := hgrows.unique (growsInto_push_extend.1 hgrows')
    exact hne (Node.element.inj hsame).2.1.symm
  | text hne =>
    have hgrows := growsInto_of_readToken_text hcontent hread
    have hgrows' := growsInto_of_readToken_text hcontent' hread'
    have hsame := hgrows.unique (growsInto_push_extend.1 hgrows')
    exact hne (Node.text.inj hsame).symm

theorem ne_of_readContent_append (h : readContent top around cs = .ok (e, r))
    (hopen : ∃ state, Reaches contentPass ⟨top, around, cs⟩ state ∧ CompletesToken s state)
    (h' : readContent (top.extend s) (around.map (.extend s)) (cs ++ s) = .ok (e', r')) :
    e' ≠ e := by
  -- Up to some token both readers do the same, and there they read different ones.
  obtain ⟨state, hcompletes, ⟨_, hrun⟩, hsame⟩ :=
    (areInStep_content s e r).exists_parts isSafeLoop_content repeats_content hopen h
  have hcontent := repeats_content.eq_of_runs hrun
  have hcontent' := hsame.symm.trans h'
  obtain ⟨t, r₁, hread, htext⟩ := exists_readToken_of_readContent hcontent
  obtain ⟨t', r₂, hread', -⟩ := exists_readToken_of_readContent hcontent'
  exact ne_of_startsOther (startsOther_of_readToken_append hread htext hcompletes hread') hread
    hcontent hread' hcontent'

/-! ## The root -/

/-- In an element the reader asks in its start tag and, if that opens it, in its content. -/
inductive LooksInRoot : List Char → Place → Prop
  | tag {cs : List Char} {p : Place} (h : LooksInTag cs p) : LooksInRoot cs p
  | content {cs r : List Char} {tag : StartTag} {state : ContentState} {p : Place}
      (htag : readStartTag ('<' :: cs) cs = .ok (tag, r)) (hopened : tag.closed = false)
      (hreach : Reaches contentPass ⟨tag.opened ('<' :: cs), [], r⟩ state)
      (h : LooksInToken state.input p) : LooksInRoot cs p

theorem readRoot_append_right (h : readRoot cs = .ok (e, r))
    (hopen : ∀ p, LooksInRoot cs p → ¬ p.IsCompletedBy s) :
    readRoot (cs ++ s) = .ok (e, r ++ s) := by
  unfold readRoot at h
  split at h
  · simp at h
  · rename_i tag r₁ htag
    have htag' := readStartTag_append_right htag fun p hp => hopen p (.tag hp)
    unfold readRoot
    simp only [htag']
    split at h
    · obtain ⟨rfl, rfl⟩ := Prod.mk.inj (Except.ok.inj h)
      rw [if_pos ‹_›]
    · rename_i hopened
      rw [if_neg hopened]
      change readContent ((tag.opened ('<' :: cs)).extend s) ([].map (.extend s)) (r₁ ++ s) = _
      refine readContent_append_right h ?_
      rintro state hreach ⟨p, hp, hcompleted⟩
      exact hopen p (.content htag (by simpa using hopened) hreach hp) hcompleted

theorem ne_of_readRoot_append (h : readRoot cs = .ok (e, r))
    (hopen : ∃ p, LooksInRoot cs p ∧ p.IsCompletedBy s)
    (h' : readRoot (cs ++ s) = .ok (e', r')) : e' ≠ e := by
  obtain ⟨tag, r₁, htag, -, hattributes⟩ := tag_eq_of_readRoot h
  -- A value in the start tag comes first: if one is completed, the content does not matter.
  by_cases hintag : ∃ p, LooksInTag cs p ∧ p.IsCompletedBy s
  · obtain ⟨tag', _, htag', -, hattributes'⟩ := tag_eq_of_readRoot h'
    rintro rfl
    exact ne_of_readStartTag_append htag hintag htag' (hattributes'.symm.trans hattributes)
  · have htag' := readStartTag_append_right htag fun p hp hc => hintag ⟨p, hp, hc⟩
    obtain ⟨p, hlooks, hcompleted⟩ := hopen
    cases hlooks with
    | tag hp => exact absurd ⟨p, hp, hcompleted⟩ hintag
    | content htag₁ hopened hreach hp =>
      rw [htag] at htag₁
      obtain ⟨rfl, rfl⟩ := Prod.mk.inj (Except.ok.inj htag₁)
      unfold readRoot at h h'
      simp only [htag, htag', hopened] at h h'
      exact ne_of_readContent_append h ⟨_, hreach, p, hp, hcompleted⟩ h'

/-! ## The document -/

/-- In a document the reader asks in the root. -/
def LooksIn (document : List Char) (p : Place) : Prop :=
  ∃ cs, skipMisc (dropMark document) = .ok ('<' :: cs) ∧ LooksInRoot cs p

theorem dropMark_append (h : cs ≠ []) (s : List Char) : dropMark (cs ++ s) = dropMark cs ++ s := by
  obtain ⟨c, cs, rfl⟩ := List.exists_cons_of_ne_nil h
  by_cases hc : c = '\ufeff'
  · subst hc
    rfl
  · rw [dropMark_eq (by simpa using hc), List.cons_append, dropMark_eq (by simpa using hc)]
    rfl

/-- What stands in front of the root is skipped, whatever follows the root. -/
theorem skipMisc_dropMark_append (hbefore : skipMisc (dropMark cs) = .ok ('<' :: r))
    (hroot : readRoot r = .ok (e, r')) (s : List Char) :
    skipMisc (dropMark (cs ++ s)) = .ok ('<' :: (r ++ s)) := by
  have hne : cs ≠ [] := by
    rintro rfl
    simp [dropMark, skipMisc_nil] at hbefore
  obtain ⟨tag, r₁, htag, -⟩ := tag_eq_of_readRoot hroot
  obtain ⟨r₂, hname, -⟩ := readStartTag_eq_ok_iff.1 htag
  rw [dropMark_append hne, skipMisc_append_right hbefore, ← readName_split hname, List.cons_append,
    List.append_assoc, skipMisc_name (isName_of_readName hname)]

variable {document trailer : String}

theorem parse_append (h : parse document = .ok e) (htrailer : IsMisc trailer.toList)
    (hopen : ∀ p, LooksIn document.toList p → ¬ p.IsCompletedBy trailer.toList) :
    parse (document ++ trailer) = .ok e := by
  obtain ⟨cs, r, hbefore, hroot, hafter⟩ := readDocument_eq_ok_iff.1 (parse_eq_ok_iff.1 h)
  have hroot' := readRoot_append_right hroot fun p hp => hopen p ⟨cs, hbefore, hp⟩
  have hend : skipMisc (r ++ trailer.toList) = .ok [] := by
    rw [skipMisc_append_right hafter, List.nil_append, ← List.append_nil trailer.toList,
      skipMisc_append htrailer, skipMisc_nil]
  rw [parse_eq_ok_iff, String.toList_append]
  exact readDocument_of_readRoot (skipMisc_dropMark_append hbefore hroot _) hroot' hend

theorem not_isCompletedBy_of_parse_append (h : parse document = .ok e)
    (h' : parse (document ++ trailer) = .ok e) (hlooks : LooksIn document.toList p) :
    ¬ p.IsCompletedBy trailer.toList := by
  intro hcompleted
  obtain ⟨cs, r, hbefore, hroot, -⟩ := readDocument_eq_ok_iff.1 (parse_eq_ok_iff.1 h)
  rw [parse_eq_ok_iff, String.toList_append] at h'
  obtain ⟨_, r', hbefore', hroot', -⟩ := readDocument_eq_ok_iff.1 h'
  rw [skipMisc_dropMark_append hbefore hroot] at hbefore'
  obtain ⟨-, rfl⟩ := List.cons.inj (Except.ok.inj hbefore')
  obtain ⟨_, hbefore', hlooks⟩ := hlooks
  rw [hbefore] at hbefore'
  obtain ⟨-, rfl⟩ := List.cons.inj (Except.ok.inj hbefore')
  exact ne_of_readRoot_append hroot ⟨p, hlooks, hcompleted⟩ hroot' rfl

/-- What follows the root leaves the tree as it is if it completes no expression, and only then. -/
theorem parse_append_iff (h : parse document = .ok e) (htrailer : IsMisc trailer.toList) :
    parse (document ++ trailer) = .ok e ↔
      ∀ p, LooksIn document.toList p → ¬ p.IsCompletedBy trailer.toList :=
  ⟨fun h' _ hlooks => not_isCompletedBy_of_parse_append h h' hlooks, parse_append h htrailer⟩

/-- A document with a value that opens an expression and does not close it. -/
def openValue : String := "<a b='@(x'/>"

theorem parse_openValue : parse openValue = .ok ⟨"a", [("b", "@(x")], []⟩ := by
  with_unfolding_all rfl

/-- A bracket of the other kind completes nothing. -/
theorem parse_append_iff_openValue :
    (parse openValue = .ok ⟨"a", [("b", "@(x")], []⟩ ∧ IsMisc "<!-- \x7d -->".toList) ∧
      parse (openValue ++ "<!-- \x7d -->") = .ok ⟨"a", [("b", "@(x")], []⟩ ∧
      ∀ p, LooksIn openValue.toList p → ¬ p.IsCompletedBy "<!-- \x7d -->".toList := by
  have hmisc : IsMisc "<!-- \x7d -->".toList :=
    @IsMisc.comment [' ', '\x7d', ' '] [] (by decide) .nil
  have hread : parse (openValue ++ "<!-- \x7d -->") = .ok ⟨"a", [("b", "@(x")], []⟩ := by
    with_unfolding_all rfl
  exact ⟨⟨parse_openValue, hmisc⟩, hread, (parse_append_iff parse_openValue hmisc).1 hread⟩

/-- The place behind the quote, where the reader looks for the closing bracket. -/
theorem looksIn_openValue : LooksIn openValue.toList (.value '\'' "@(x'/>".toList) := by
  have hname : readName "a b='@(x'/>".toList = .ok ("a", " b='@(x'/>".toList) := by
    with_unfolding_all rfl
  have hkey : readName "b='@(x'/>".toList = .ok ("b", "='@(x'/>".toList) := by
    with_unfolding_all rfl
  refine ⟨"a b='@(x'/>".toList, by with_unfolding_all rfl, .tag (.mk hname .refl ?_)⟩
  exact ⟨⟨hkey, rfl, rfl, .inr rfl⟩⟩

/-- A comment behind the root can change the tree: here it holds the closing bracket, a quote and an
end of the tag. -/
theorem not_parse_append : ¬ ∀ (document trailer : String) (e : Element), parse document = .ok e →
    IsMisc trailer.toList → parse (document ++ trailer) = .ok e := by
  intro h
  have hmisc : IsMisc "<!--)'/><!---->".toList :=
    @IsMisc.comment [')', '\'', '/', '>', '<', '!', '-', '-'] [] (by decide) .nil
  have hread := h openValue "<!--)'/><!---->" _ parse_openValue hmisc
  exact not_isCompletedBy_of_parse_append parse_openValue hread looksIn_openValue (by decide)

/-- The value goes on into the comment. -/
example : parse (openValue ++ "<!--)'/><!---->") = .ok ⟨"a", [("b", "@(x'/><!--)")], []⟩ := by
  with_unfolding_all rfl

end GatewayPolicy.Xml
