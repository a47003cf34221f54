import GatewayPolicy.Proofs.Text.Padding
import GatewayPolicy.Proofs.Xml.Layout
/-!
# Elements inside of an indented document

The lines of an item get more spaces when the item is put into a document, and so do the lines inside
of its values and texts. What stands in the document is the element with padded values and texts. It
is clean if the element is: padding makes no expression, no mark and no reference, and breaks none.
-/

namespace GatewayPolicy.Xml

open Text

variable {k : Nat} {cs rest : List Char} {c : Char} {s : String} {b : Bracket} {mode : ScanMode}
  {inner : Nat}

/-- The characters of some spaces. -/
abbrev spaces (k : Nat) : List Char := List.replicate k ' '

/-- A value or a text with `k` spaces in front of all its lines but the first. -/
def padText (k : Nat) (s : String) : String := .ofList (padLines (spaces k) s.toList)

@[simp] theorem toList_padText (k : Nat) (s : String) :
    (padText k s).toList = padLines (spaces k) s.toList := by
  rw [padText, String.toList_ofList]

theorem trim_padText (k : Nat) (s : String) : trim (padText k s) = padText k (trim s) := by
  rw [← String.toList_inj, toList_trim, toList_padText, toList_padText, toList_trim,
    trimChars_padLines (isBlankRun_replicate k)]

theorem padText_of_notMem (h : '\n' ∉ s.toList) (k : Nat) : padText k s = s := by
  rw [padText, padLines_of_notMem h, String.ofList_toList]

theorem isBlankText_padText (k : Nat) (s : String) :
    isBlankText (padText k s) = isBlankText s := by
  have hempty (t : String) : padText k t = "" ↔ t = "" := by
    rw [← String.toList_inj, ← String.toList_inj, toList_padText, String.toList_empty]
    constructor
    · intro h
      by_contra hne
      exact padLines_ne_nil hne h
    · intro h
      rw [h, padLines_nil]
  rw [Bool.eq_iff_iff, ← trim_eq_empty_iff, ← trim_eq_empty_iff, trim_padText, hempty]

theorem isExpression_padText (k : Nat) (s : String) :
    isExpression (padText k s) = isExpression s := by
  rw [isExpression, isExpression, toList_padText]
  fun_cases padLines (spaces k) s.toList with
  | case1 => rfl
  | case2 cs =>
    rw [padLines_lineFeed]
    rfl
  | case3 cs => rfl
  | case4 c cs hr hc => rfl

/-! ## Written values and texts -/

theorem eq_of_isLineEnd (h : isLineEnd c = true) : c = '\n' ∨ c = '\r' := by
  simpa [isLineEnd] using h

theorem flatMap_spaces {f : Char → List Char} (h : f ' ' = [' ']) (k : Nat) :
    (spaces k).flatMap f = spaces k := by
  induction k with
  | zero => rfl
  | succ k ih => rw [spaces, List.replicate_succ, List.flatMap_cons, h, ih, List.singleton_append]

theorem padLines_escapeChars (k : Nat) (cs : List Char) :
    padLines (spaces k) (escapeChars cs) = escapeChars (padLines (spaces k) cs) := by
  refine padLines_flatMap ?_ ?_ (flatMap_spaces rfl k) cs
  · intro c hc
    rcases eq_of_isLineEnd hc with rfl | rfl
    · rfl
    · rfl
  · intro c hc
    unfold attributeForm
    split
    all_goals simp [isLineEnd] at hc ⊢
    exact hc

theorem padLines_escapeTextChars (k : Nat) (cs : List Char) :
    padLines (spaces k) (escapeTextChars cs) = escapeTextChars (padLines (spaces k) cs) := by
  refine padLines_flatMap ?_ ?_ (flatMap_spaces rfl k) cs
  · intro c hc
    rcases eq_of_isLineEnd hc with rfl | rfl
    · rfl
    · rfl
  · intro c hc
    unfold textForm
    split
    all_goals simp [isLineEnd] at hc ⊢
    exact hc

theorem attributeText_padText (k : Nat) (s : String) :
    attributeText (padText k s) = padText k (attributeText s) := by
  rw [attributeText, attributeText, isExpression_padText]
  split
  · rfl
  · rw [← String.toList_inj, toList_escape, toList_padText, toList_padText, toList_escape,
      padLines_escapeChars]

theorem contentText_padText (k : Nat) (s : String) :
    contentText (padText k s) = padText k (contentText s) := by
  rw [contentText, contentText, isExpression_padText]
  split
  · rfl
  · rw [← String.toList_inj, toList_escapeText, toList_padText, toList_padText, toList_escapeText,
      padLines_escapeTextChars]

/-! ## Expressions -/

/-- Where the scanner stands behind a blank: a backslash takes the blank with it. -/
def ScanMode.behindBlank : ScanMode → ScanMode
  | .escaped => .literal
  | mode => mode

theorem ScanMode.behindBlank_behindBlank (mode : ScanMode) :
    mode.behindBlank.behindBlank = mode.behindBlank := by
  cases mode <;> rfl

theorem scanStep_of_isBlank (hc : isBlank c = true) (b : Bracket) (mode : ScanMode) (inner : Nat) :
    scanStep b mode inner c = some (mode.behindBlank, inner) := by
  have hne {d : Char} (hd : isBlank d = false) : c ≠ d := by
    rintro rfl
    simp [hc] at hd
  cases mode with
  | escaped => rfl
  | literal => rw [scanStep, if_neg (hne (by decide)), if_neg (hne (by decide))]; rfl
  | code =>
    have hopening : c ≠ b.opening := hne (by cases b <;> decide)
    have hclosing : c ≠ b.closing := hne (by cases b <;> decide)
    rw [scanStep, if_neg (hne (by decide)), if_neg hopening, if_neg hclosing]
    rfl

/-- The expression ends with the input. -/
def ClosesAtEnd (b : Bracket) (mode : ScanMode) (inner : Nat) (cs : List Char) : Prop :=
  scanToClosing b mode inner cs = some (cs, [])

theorem closesAtEnd_cons : ClosesAtEnd b mode inner (c :: cs) ↔
    (scanStep b mode inner c = none ∧ cs = []) ∨
      ∃ mode' inner', scanStep b mode inner c = some (mode', inner') ∧
        ClosesAtEnd b mode' inner' cs := by
  unfold ClosesAtEnd
  rw [scanToClosing]
  cases hstep : scanStep b mode inner c with
  | none =>
    constructor
    · intro h
      obtain ⟨-, rfl⟩ := Prod.mk.inj (Option.some.inj h)
      exact .inl ⟨rfl, rfl⟩
    · rintro (⟨-, rfl⟩ | ⟨_, _, h, -⟩)
      · rfl
      · simp at h
  | some p =>
    obtain ⟨mode', inner'⟩ := p
    constructor
    · intro h
      obtain ⟨⟨e, r⟩, hscan, heq⟩ := Option.map_eq_some_iff.1 h
      obtain ⟨hcons, rfl⟩ := Prod.mk.inj heq
      rw [(List.cons.inj hcons).2] at hscan
      exact .inr ⟨mode', inner', rfl, hscan⟩
    · rintro (⟨h, -⟩ | ⟨mode'', inner'', h, hscan⟩)
      · simp at h
      · obtain ⟨rfl, rfl⟩ := Prod.mk.inj (Option.some.inj h)
        dsimp only
        rw [hscan, Option.map_some]

theorem closesAtEnd_blank (hc : isBlank c = true) :
    ClosesAtEnd b mode inner (c :: cs) ↔ ClosesAtEnd b mode.behindBlank inner cs := by
  rw [closesAtEnd_cons, scanStep_of_isBlank hc]
  constructor
  · rintro (⟨h, -⟩ | ⟨mode', inner', h, hcs⟩)
    · simp at h
    · obtain ⟨rfl, rfl⟩ := Prod.mk.inj (Option.some.inj h)
      exact hcs
  · exact fun h => .inr ⟨_, _, rfl, h⟩

theorem closesAtEnd_blanks {ws : List Char} (h : IsBlankRun ws) :
    ClosesAtEnd b mode.behindBlank inner (ws ++ cs) ↔ ClosesAtEnd b mode.behindBlank inner cs := by
  induction ws with
  | nil => rfl
  | cons c ws ih =>
    obtain ⟨hc, hws⟩ := isBlankRun_cons.1 h
    rw [List.cons_append, closesAtEnd_blank hc, ScanMode.behindBlank_behindBlank, ih hws]

/-- Padding does not move the end of an expression. -/
theorem ClosesAtEnd.padLines (h : ClosesAtEnd b mode inner cs) (k : Nat) :
    ClosesAtEnd b mode inner (padLines (spaces k) cs) := by
  fun_induction Text.padLines (spaces k) cs generalizing mode inner with
  | case1 => exact h
  | case2 cs ih =>
    refine ih ?_
    rw [closesAtEnd_blank (by decide), closesAtEnd_blank (by decide),
      ScanMode.behindBlank_behindBlank] at h
    rwa [closesAtEnd_blank (by decide)]
  | case3 cs ih =>
    rw [closesAtEnd_blank (by decide)] at h ⊢
    rw [closesAtEnd_blanks (isBlankRun_ite_startsEmptyLine (isBlankRun_replicate k) cs)]
    exact ih h
  | case4 c cs hr hc ih =>
    rw [closesAtEnd_cons] at h ⊢
    rcases h with ⟨hstep, rfl⟩ | ⟨mode', inner', hstep, h⟩
    · exact .inl ⟨hstep, rfl⟩
    · exact .inr ⟨mode', inner', hstep, ih h⟩

/-! ## References -/

theorem readReference?_padLines (h : readReference? cs = none) (k : Nat) :
    readReference? (padLines (spaces k) cs) = none := by
  have hspace {ds : List Char} (hds : ';' ∉ ds) : ';' ∉ padLines (spaces k) ds := by
    intro hm
    rcases mem_of_mem_padLines hm with hm | hm
    · exact hds hm
    · simp at hm
  by_cases hs : ';' ∈ cs
  · obtain ⟨name, rest, rfl, hname⟩ := List.eq_append_cons_of_mem hs
    rw [padLines_append_cons (by decide), readReference?_append_semicolon (hspace hname)]
    by_cases hline : '\n' ∈ name
    · rw [decode?_eq_none (by decide) (lineFeed_mem_padLines hline _)]
      simp
    · rw [padLines_of_notMem hline]
      rw [readReference?_append_semicolon hname] at h
      split
      · rename_i hlength
        rw [if_pos hlength, Option.map_eq_none_iff] at h
        rw [h]
        rfl
      · rfl
  · exact readReference?_eq_none (hspace hs)

/-- A text that holds no reference holds none when it is padded. -/
theorem unescapeChars_padLines (h : unescapeChars cs = cs) (k : Nat) :
    unescapeChars (padLines (spaces k) cs) = padLines (spaces k) cs := by
  -- Reading a reference makes a text shorter.
  have hcons {c : Char} {cs : List Char} (h : unescapeChars (c :: cs) = c :: cs) :
      unescapeChars cs = cs ∧ (c = '&' → readReference? cs = none) := by
    by_cases hc : c = '&'
    · subst hc
      cases href : readReference? cs with
      | none =>
        rw [unescapeChars_ampersand href] at h
        exact ⟨(List.cons.inj h).2, fun _ => rfl⟩
      | some p =>
        obtain ⟨d, rest⟩ := p
        rw [unescapeChars_reference href] at h
        have hle := length_unescapeChars_le rest
        have hlt := length_of_readReference? href
        rw [(List.cons.inj h).2] at hle
        omega
    · rw [unescapeChars_cons hc] at h
      exact ⟨(List.cons.inj h).2, fun heq => absurd heq hc⟩
  fun_induction padLines (spaces k) cs with
  | case1 => exact unescapeChars_nil
  | case2 cs ih => exact ih (hcons h).1
  | case3 cs ih =>
    have hrun := isBlankRun_ite_startsEmptyLine (isBlankRun_replicate k) cs
    rw [unescapeChars_cons (by decide),
      unescapeChars_append_of_notMem (hrun.notMem (by decide)), ih (hcons h).1]
  | case4 c cs hr hc ih =>
    obtain ⟨hcs, href⟩ := hcons h
    by_cases hamp : c = '&'
    · subst hamp
      rw [unescapeChars_ampersand (readReference?_padLines (href rfl) k), ih hcs]
    · rw [unescapeChars_cons hamp, ih hcs]

/-! ## Clean values and texts -/

theorem IsCompleteExpression.padText (h : IsCompleteExpression s) (k : Nat) :
    IsCompleteExpression (padText k s) := by
  obtain ⟨hscan, hself⟩ := h
  obtain ⟨b, cs, e, hs, he, hclose⟩ := exists_of_scanExpression? hscan
  rw [hs] at he
  obtain rfl : cs = e := (List.cons.inj (List.cons.inj he).2).2
  have hclose : ClosesAtEnd b .code 0 cs := hclose
  have hopening : isLineEnd b.opening = false := by cases b <;> decide
  have hpadded : (Xml.padText k s).toList = '@' :: b.opening :: padLines (spaces k) cs := by
    rw [toList_padText, hs, padLines_cons (by decide), padLines_cons hopening]
  constructor
  · rw [hpadded, scanExpression?_cons, hclose.padLines k]
    rfl
  · rw [unescape] at hself
    have hchars : unescapeChars s.toList = s.toList := by
      rw [← String.toList_inj, String.toList_ofList] at hself
      exact hself
    rw [unescape, toList_padText, unescapeChars_padLines hchars, Xml.padText]

theorem MentionsNoExpression.padText (h : MentionsNoExpression s) (k : Nat) :
    MentionsNoExpression (padText k s) := by
  intro b hb
  rw [toList_padText] at hb
  refine h b (infix_of_infix_padLines ?_ (isBlankRun_replicate k) hb)
  cases b <;> simp [Bracket.opening, isBlank]

theorem IsCleanValue.padText (h : IsCleanValue s) (k : Nat) : IsCleanValue (padText k s) := by
  rcases h with h | h
  · exact .inl ((isExpression_padText k s).trans h)
  · exact .inr (h.padText k)

theorem IsCleanText.padText (h : IsCleanText s) (k : Nat) : IsCleanText (padText k s) := by
  rcases h with ⟨h, hmention⟩ | h
  · exact .inl ⟨(isExpression_padText k s).trans h, hmention.padText k⟩
  · exact .inr (h.padText k)

/-! ## Trees -/

mutual

/-- The node with padded values and texts. -/
def Node.padded (k : Nat) : Node → Node
  | .element name attributes children =>
    .element name (attributes.map fun a => (a.1, padText k a.2)) (paddedNodes k children)
  | .text s => .text (padText k s)
  | .cdata s => .cdata (padText k s)
  | .comment s => .comment (padText k s)

/-- The nodes with padded values and texts. -/
def paddedNodes (k : Nat) : List Node → List Node
  | [] => []
  | n :: ns => n.padded k :: paddedNodes k ns

end

/-- The element with padded values and texts. -/
def Element.padded (k : Nat) (e : Element) : Element :=
  ⟨e.name, e.attributes.map fun a => (a.1, padText k a.2), paddedNodes k e.children⟩

variable {n : Node} {ns : List Node} {e : Element} {name : String} {attributes : Attributes}

theorem paddedNodes_eq (k : Nat) (ns : List Node) : paddedNodes k ns = ns.map (Node.padded k) := by
  induction ns with
  | nil => rfl
  | cons n ns ih => rw [paddedNodes, ih, List.map_cons]

theorem node_padded (k : Nat) (e : Element) : (e.padded k).node = e.node.padded k := by
  rw [Element.node, Element.node, Node.padded]
  rfl

@[simp] theorem isBlank_padded (k : Nat) (n : Node) : (n.padded k).isBlank = n.isBlank := by
  cases n with
  | text s => exact isBlankText_padText k s
  | _ => rfl

@[simp] theorem isText_padded (k : Nat) (n : Node) : (n.padded k).isText = n.isText := by
  cases n <;> rfl

@[simp] theorem isCharacters_padded (k : Nat) (n : Node) :
    (n.padded k).isCharacters = n.isCharacters := by
  cases n <;> rfl

theorem all_paddedNodes {p : Node → Bool} (hp : ∀ n, p (Node.padded k n) = p n) (ns : List Node) :
    (paddedNodes k ns).all p = ns.all p := by
  rw [paddedNodes_eq, List.all_map]
  exact congrArg ns.all (funext hp)

theorem visibleNodes_paddedNodes (k : Nat) (ns : List Node) :
    visibleNodes (paddedNodes k ns) = (visibleNodes ns).map (Node.padded k) := by
  rw [paddedNodes_eq, visibleNodes, visibleNodes, List.filter_map]
  simp only [Function.comp_def, isBlank_padded]

theorem HaveSeparateTexts.padded (h : HaveSeparateTexts ns) (k : Nat) :
    HaveSeparateTexts (paddedNodes k ns) := by
  rw [HaveSeparateTexts] at h
  rw [HaveSeparateTexts, visibleNodes_paddedNodes, List.isChain_map]
  simpa only [isText_padded] using h

theorem AreCleanAttributes.padded (h : AreCleanAttributes attributes) (k : Nat) :
    AreCleanAttributes (attributes.map fun a => (a.1, padText k a.2)) := by
  refine ⟨?_, ?_, ?_⟩
  · intro a ha
    obtain ⟨b, hb, rfl⟩ := List.mem_map.1 ha
    exact h.names b hb
  · rw [List.map_map]
    exact h.distinct
  · intro a ha
    obtain ⟨b, hb, rfl⟩ := List.mem_map.1 ha
    exact (h.values b hb).padText k

/-- A clean node stays clean. -/
theorem Node.IsClean.padded (h : n.IsClean) (k : Nat) : (n.padded k).IsClean := by
  induction h with
  | element hname hattributes hchildren htexts ih =>
    refine .element hname (hattributes.padded k) ?_ (htexts.padded k)
    intro n hn
    rw [paddedNodes_eq] at hn
    obtain ⟨m, hm, rfl⟩ := List.mem_map.1 hn
    exact ih m hm
  | @text s h =>
    refine .text ?_
    rw [isBlankText_padText, trim_padText]
    exact h.imp_right fun h => h.padText k
  | cdata h =>
    refine .cdata fun hm => h ?_
    refine infix_of_infix_padLines (by simp [Text.isBlank]) (isBlankRun_replicate k) ?_
    rwa [toList_padText] at hm
  | comment h =>
    refine .comment fun hm => h ?_
    refine infix_of_infix_padLines (by simp [Text.isBlank]) (isBlankRun_replicate k) ?_
    rwa [toList_padText] at hm

/-! ## Lines -/

theorem isLineEnd_of_isName (h : IsName name) : ∀ c ∈ name.toList, isLineEnd c = false :=
  fun c hc => isLineEnd_of_isBlank (isBlank_of_isNameChar (isNameChar_of_isName h c hc))

theorem isLineEnd_of_mem_spaces (h : c ∈ spaces k) : isLineEnd c = false := by
  rw [List.eq_of_mem_replicate h]
  decide

theorem padLines_attributeChars (h : ∀ a ∈ attributes, IsName a.1) (k : Nat) (rest : List Char) :
    padLines (spaces k) (attributeChars attributes ++ rest) =
      attributeChars (attributes.map fun a => (a.1, padText k a.2)) ++ padLines (spaces k) rest := by
  induction attributes with
  | nil => rfl
  | cons a attributes ih =>
    obtain ⟨ha, hattributes⟩ := List.forall_mem_cons.1 h
    have hkey : ∀ c ∈ ' ' :: (a.1.toList ++ ['=', '"']), isLineEnd c = false := by
      intro c hc
      simp only [List.mem_cons, List.mem_append, List.not_mem_nil, or_false] at hc
      rcases hc with rfl | hc | rfl | rfl
      · decide
      · exact isLineEnd_of_isName ha c hc
      · decide
      · decide
    have heq (value : List Char) (more : Attributes) (rest : List Char) :
        attributeChars ((a.1, String.ofList value) :: more) ++ rest =
          (' ' :: (a.1.toList ++ ['=', '"'])) ++ (value ++ '"' :: (attributeChars more ++ rest)) := by
      simp [attributeChars]
    have hcons := heq a.2.toList attributes rest
    rw [String.ofList_toList] at hcons
    rw [List.map_cons, padText, heq, hcons, padLines_append hkey, padLines_append_cons (by decide),
      ih hattributes]

theorem padLines_indentation (width depth k : Nat) (rest : List Char) :
    padLines (spaces k) ((indentation width depth).toList ++ rest) =
      (indentation width depth).toList ++ padLines (spaces k) rest := by
  rw [toList_indentation]
  exact padLines_append (fun c hc => isLineEnd_of_mem_spaces hc) _ _

theorem padLines_openTag (hname : IsName name) (hattributes : ∀ a ∈ attributes, IsName a.1)
    (k : Nat) (rest : List Char) :
    padLines (spaces k) ((openTag name attributes).toList ++ rest) =
      (openTag name (attributes.map fun a => (a.1, padText k a.2))).toList ++
        padLines (spaces k) rest := by
  have hwritten : writtenAttributes (attributes.map fun a => (a.1, padText k a.2)) =
      (writtenAttributes attributes).map fun a => (a.1, padText k a.2) := by
    rw [writtenAttributes, writtenAttributes, List.map_map, List.map_map]
    refine List.map_congr_left fun a _ => ?_
    simp only [Function.comp_def, attributeText_padText]
  have hkeys : ∀ a ∈ writtenAttributes attributes, IsName a.1 := by
    intro a ha
    obtain ⟨b, hb, rfl⟩ := List.mem_map.1 ha
    exact hattributes b hb
  rw [toList_openTag, toList_openTag, hwritten, List.cons_append, List.append_assoc,
    padLines_cons (by decide), padLines_append (isLineEnd_of_isName hname),
    padLines_attributeChars hkeys]
  simp

theorem padLines_endTag (hname : IsName name) (k : Nat) (rest : List Char) :
    padLines (spaces k) ((endTag name).toList ++ rest) =
      (endTag name).toList ++ padLines (spaces k) rest := by
  refine padLines_append ?_ _ _
  rw [toList_endTag]
  intro c hc
  simp only [List.mem_cons, List.mem_append, List.not_mem_nil, or_false] at hc
  rcases hc with rfl | rfl | hc | rfl
  · decide
  · decide
  · exact isLineEnd_of_isName hname c hc
  · decide

theorem contentText_of_isBlankText (h : isBlankText s = true) : contentText (trim s) = "" := by
  rw [trim_eq_empty_iff.2 h]
  rfl

theorem padLines_append_of_getLast? (h : ∀ c ∈ cs.getLast?, isLineEnd c = false)
    (pad rest : List Char) : padLines pad (cs ++ rest) = padLines pad cs ++ padLines pad rest := by
  cases hcs : cs.getLast? with
  | none => rw [List.getLast?_eq_none_iff.1 hcs, List.nil_append, padLines_nil, List.nil_append]
  | some c =>
    obtain ⟨ds, rfl⟩ := List.getLast?_eq_some_iff.1 hcs
    have hc : isLineEnd c = false := h c hcs
    rw [List.append_assoc, List.singleton_append, padLines_append_cons hc, padLines_append_cons hc]
    simp

theorem isLineEnd_of_mem_getLast?_inlineText (h : c ∈ (inlineText n).toList.getLast?) :
    isLineEnd c = false := by
  cases n with
  | text s =>
    rw [inlineText] at h
    cases hs : isBlankText s with
    | true =>
      rw [contentText_of_isBlankText hs] at h
      simp at h
    | false =>
      obtain ⟨cs, d, heq, hd⟩ := exists_append_contentText hs
      rw [heq, List.getLast?_concat] at h
      obtain rfl := Option.some.inj h
      exact isLineEnd_of_isBlank hd
  | cdata s =>
    have hend : (inlineText (.cdata s)).toList =
        "<![CDATA[".toList ++ s.toList ++ [']', ']'] ++ ['>'] := by
      simp [inlineText, cdataText]
    rw [hend, List.getLast?_concat] at h
    obtain rfl := Option.some.inj h
    decide
  | _ => simp [inlineText] at h

theorem padText_cdataText (k : Nat) (s : String) :
    cdataText (padText k s) = padText k (cdataText s) := by
  have hcut := padLines_append_cons (show isLineEnd ']' = false by decide) (spaces k) s.toList
    [']', '>']
  rw [cdataText, cdataText, ← String.toList_inj]
  simp [padLines_cons, isLineEnd, hcut]

theorem padText_commentText (k : Nat) (s : String) :
    commentText (padText k s) = padText k (commentText s) := by
  have hcut := padLines_append_cons (show isLineEnd '-' = false by decide) (spaces k) s.toList
    ['-', '>']
  rw [commentText, commentText, ← String.toList_inj]
  simp [padLines_cons, isLineEnd, hcut]

theorem inlineText_padded (k : Nat) (n : Node) :
    inlineText (n.padded k) = padText k (inlineText n) := by
  cases n with
  | element name attributes children => rfl
  | text s => rw [Node.padded, inlineText, inlineText, trim_padText, contentText_padText]
  | cdata s => exact padText_cdataText k s
  | comment s => rfl

theorem padLines_join_inlineText (k : Nat) (ns : List Node) (rest : List Char) :
    padLines (spaces k) ((String.join (ns.map inlineText)).toList ++ rest) =
      (String.join ((paddedNodes k ns).map inlineText)).toList ++ padLines (spaces k) rest := by
  induction ns with
  | nil => simp [paddedNodes]
  | cons n ns ih =>
    rw [paddedNodes, List.map_cons, List.map_cons, String.join_cons, String.join_cons,
      String.toList_append, String.toList_append, List.append_assoc,
      padLines_append_of_getLast? fun c hc => isLineEnd_of_mem_getLast?_inlineText hc, ih,
      inlineText_padded, toList_padText, List.append_assoc]

theorem padText_indentation (width depth k : Nat) (s : String) :
    padText k (indentation width depth ++ s) = indentation width depth ++ padText k s := by
  rw [← String.toList_inj]
  simp only [toList_padText, String.toList_append]
  rw [padLines_indentation]

theorem padText_openTag (hname : IsName name) (hattributes : ∀ a ∈ attributes, IsName a.1)
    (width depth k : Nat) (tail : String) :
    padText k (indentation width depth ++ openTag name attributes ++ tail) =
      indentation width depth ++ openTag name (attributes.map fun a => (a.1, padText k a.2)) ++
        padText k tail := by
  have hopen := padLines_openTag hname hattributes k tail.toList
  rw [String.append_assoc, padText_indentation, String.append_assoc, ← String.toList_inj]
  simp [hopen]

theorem padText_endTag (hname : IsName name) (k : Nat) : padText k (endTag name) = endTag name := by
  have hend := padLines_endTag hname k []
  rw [List.append_nil, padLines_nil, List.append_nil] at hend
  rw [← String.toList_inj, toList_padText, hend]

/-- Character data between tags, on one line with them. -/
theorem padText_inline (hname : IsName name) (k : Nat) (ns : List Node) :
    padText k (">" ++ String.join (ns.map inlineText) ++ endTag name) =
      ">" ++ String.join ((paddedNodes k ns).map inlineText) ++ endTag name := by
  have hend := congrArg String.toList (padText_endTag hname k)
  rw [toList_padText] at hend
  rw [← String.toList_inj, toList_padText, String.toList_append, String.toList_append,
    List.append_assoc, padLines_append (by simp [isLineEnd]), padLines_join_inlineText, hend]
  simp

mutual

/-- Padding the lines of a node is padding its values and texts. -/
theorem nodeLines_padded (width depth k : Nat) (n : Node) (h : n.IsClean) :
    nodeLines width depth (n.padded k) = (nodeLines width depth n).map (padText k) := by
  match n with
  | .element name attributes children =>
    cases h with
    | element hname hattributes hchildren _ =>
      have hopen := padText_openTag hname hattributes.names width depth k
      rw [Node.padded, nodeLines, nodeLines, all_paddedNodes (isBlank_padded k),
        all_paddedNodes (isCharacters_padded k)]
      split
      · have hslash : padText k " />" = " />" := padText_of_notMem (by decide) k
        rw [List.map_singleton, hopen, hslash]
      · have hbracket : padText k ">" = ">" := padText_of_notMem (by decide) k
        split
        · have hinline := hopen (">" ++ String.join (children.map inlineText) ++ endTag name)
          rw [padText_inline hname] at hinline
          simp only [← String.append_assoc] at hinline
          rw [List.map_singleton, hinline]
        · rw [childLines_padded width (depth + 1) k children hchildren, List.map_cons,
            List.map_append, List.map_singleton, hopen, hbracket, padText_indentation,
            padText_endTag hname]
  | .text s =>
    rw [Node.padded, nodeLines, nodeLines, isBlankText_padText]
    split
    · rfl
    · rw [List.map_singleton, padText_indentation, trim_padText, contentText_padText]
  | .cdata s =>
    rw [Node.padded, nodeLines, nodeLines, List.map_singleton, padText_indentation,
      padText_cdataText]
  | .comment s =>
    rw [Node.padded, nodeLines, nodeLines, List.map_singleton, padText_indentation,
      padText_commentText]

theorem childLines_padded (width depth k : Nat) (ns : List Node) (h : ∀ n ∈ ns, n.IsClean) :
    childLines width depth (paddedNodes k ns) = (childLines width depth ns).map (padText k) := by
  match ns with
  | [] => rfl
  | n :: ns =>
    obtain ⟨hn, hns⟩ := List.forall_mem_cons.1 h
    rw [paddedNodes, childLines, childLines, List.map_append, nodeLines_padded width depth k n hn,
      childLines_padded width depth k ns hns]

end

/-! ## Firm lines -/

/-- A line that neither starts nor ends in a line end, so it stays whole when more lines are put in
front of it and behind it. -/
structure IsFirm (cs : List Char) : Prop where
  ne_nil : cs ≠ []
  head : ∀ c ∈ cs.head?, isLineEnd c = false
  last : ∀ c ∈ cs.getLast?, isLineEnd c = false

/-- Lines of a document are padded one by one. -/
theorem padLines_lineChars {ls : List String} (h : ∀ l ∈ ls, IsFirm l.toList) (k : Nat)
    (rest : List Char) :
    padLines (spaces k) (lineChars ls ++ rest) =
      (ls.flatMap fun l => '\n' :: (spaces k ++ (padText k l).toList)) ++
        padLines (spaces k) rest := by
  induction ls with
  | nil => rfl
  | cons l ls ih =>
    obtain ⟨hl, hls⟩ := List.forall_mem_cons.1 h
    obtain ⟨c, cs, hcs⟩ := List.exists_cons_of_ne_nil hl.ne_nil
    have hc : isLineEnd c = false := hl.head c (by rw [hcs]; rfl)
    have hstart : startsEmptyLine (l.toList ++ (lineChars ls ++ rest)) = false := by
      rw [hcs, List.cons_append, startsEmptyLine_cons hc]
    rw [lineChars_cons, List.cons_append, List.append_assoc, padLines_lineFeed, hstart,
      if_neg (by simp), padLines_append_of_getLast? hl.last, ih hls, List.flatMap_cons,
      toList_padText]
    simp

theorem isFirm_brackets (cs : List Char) : IsFirm ('<' :: (cs ++ ['>'])) := by
  refine ⟨by simp, ?_, ?_⟩
  · intro c hc
    obtain rfl : '<' = c := Option.some.inj hc
    decide
  · intro c hc
    rw [← List.cons_append, List.getLast?_concat] at hc
    obtain rfl := Option.some.inj hc
    decide

theorem IsFirm.indentation (h : IsFirm s.toList) (width depth : Nat) :
    IsFirm (indentation width depth ++ s).toList := by
  rw [String.toList_append, toList_indentation]
  refine ⟨by simp [h.ne_nil], ?_, ?_⟩
  · cases hn : width * depth with
    | zero => exact h.head
    | succ n =>
      intro c hc
      obtain rfl : ' ' = c := Option.some.inj hc
      decide
  · rw [List.getLast?_append_of_ne_nil _ h.ne_nil]
    exact h.last

theorem exists_cons_contentText (hs : isBlankText s = false) :
    ∃ c cs, (contentText (trim s)).toList = c :: cs ∧ isBlank c = false := by
  have hvisible : trimChars s.toList ≠ [] := by
    rw [ne_eq, trimChars_eq_nil_iff, ← isBlankText_iff, hs]
    simp
  obtain ⟨c, cs, hcs⟩ := List.exists_cons_of_ne_nil hvisible
  have hc : isBlank c = false := isBlank_of_trimChars_eq_cons hcs
  unfold contentText
  split
  · exact ⟨c, cs, by rw [toList_trim, hcs], hc⟩
  · rw [toList_escapeText, toList_trim, hcs, escapeTextChars_cons]
    unfold textForm
    split
    · exact ⟨_, _, rfl, by decide⟩
    · exact ⟨_, _, rfl, by decide⟩
    · exact ⟨_, _, rfl, by decide⟩
    · exact ⟨_, _, rfl, hc⟩

theorem isFirm_contentText (hs : isBlankText s = false) : IsFirm (contentText (trim s)).toList := by
  obtain ⟨c, cs, hcons, hc⟩ := exists_cons_contentText hs
  obtain ⟨ds, d, hconcat, hd⟩ := exists_append_contentText hs
  refine ⟨by simp [hcons], ?_, ?_⟩
  · intro c' hc'
    rw [hcons] at hc'
    obtain rfl := Option.some.inj hc'
    exact isLineEnd_of_isBlank hc
  · intro d' hd'
    rw [hconcat, List.getLast?_concat] at hd'
    obtain rfl := Option.some.inj hd'
    exact isLineEnd_of_isBlank hd

/-- A line that starts with a tag and ends in an angle bracket. -/
theorem isFirm_openTag (name : String) (attributes : Attributes) (width depth : Nat) {tail : String}
    {t : List Char} (htail : tail.toList = t ++ ['>']) :
    IsFirm (indentation width depth ++ openTag name attributes ++ tail).toList := by
  rw [String.append_assoc]
  refine IsFirm.indentation ?_ width depth
  rw [String.toList_append, toList_openTag, htail, List.cons_append, ← List.append_assoc]
  exact isFirm_brackets _

mutual

/-- The lines of a node stay whole in a document. -/
theorem isFirm_of_mem_nodeLines (width depth : Nat) (n : Node) :
    ∀ l ∈ nodeLines width depth n, IsFirm l.toList := by
  intro l hl
  match n with
  | .element name attributes children =>
    rw [nodeLines] at hl
    split at hl
    · rw [List.mem_singleton.1 hl]
      exact isFirm_openTag name attributes width depth (t := [' ', '/']) rfl
    · split at hl
      · rw [List.mem_singleton.1 hl, String.append_assoc, String.append_assoc]
        refine isFirm_openTag name attributes width depth (t :=
          '>' :: ((String.join (children.map inlineText)).toList ++ '<' :: '/' :: name.toList)) ?_
        simp [toList_endTag]
      · rw [List.mem_cons, List.mem_append, List.mem_singleton] at hl
        rcases hl with rfl | hl | rfl
        · exact isFirm_openTag name attributes width depth (t := []) rfl
        · exact isFirm_of_mem_childLines width (depth + 1) children l hl
        · refine IsFirm.indentation ?_ width depth
          rw [toList_endTag, ← List.cons_append]
          exact isFirm_brackets _
  | .text s =>
    rw [nodeLines] at hl
    split at hl
    · simp at hl
    · rename_i hs
      rw [List.mem_singleton.1 hl]
      exact (isFirm_contentText (by simpa using hs)).indentation width depth
  | .cdata s =>
    rw [nodeLines, List.mem_singleton] at hl
    have hline : (cdataText s).toList =
        '<' :: ("![CDATA[".toList ++ s.toList ++ [']', ']'] ++ ['>']) := by
      simp [cdataText]
    rw [hl]
    refine IsFirm.indentation ?_ width depth
    rw [hline]
    exact isFirm_brackets _
  | .comment s =>
    rw [nodeLines, List.mem_singleton] at hl
    have hline : (commentText s).toList =
        '<' :: ("!--".toList ++ s.toList ++ ['-', '-'] ++ ['>']) := by
      simp [commentText]
    rw [hl]
    refine IsFirm.indentation ?_ width depth
    rw [hline]
    exact isFirm_brackets _

theorem isFirm_of_mem_childLines (width depth : Nat) (ns : List Node) :
    ∀ l ∈ childLines width depth ns, IsFirm l.toList := by
  intro l hl
  match ns with
  | [] => simp [childLines] at hl
  | n :: ns =>
    rw [childLines, List.mem_append] at hl
    rcases hl with hl | hl
    · exact isFirm_of_mem_nodeLines width depth n l hl
    · exact isFirm_of_mem_childLines width depth ns l hl

end

/-- The lines of clean nodes, put deeper with the lines inside of them, are the lines of nodes with
padded values and texts. -/
theorem padLines_lineChars_childLines (h : ∀ n ∈ ns, n.IsClean) (width depth extra : Nat)
    (rest : List Char) :
    padLines (spaces (width * extra)) (lineChars (childLines width depth ns) ++ rest) =
      lineChars (childLines width (depth + extra) (paddedNodes (width * extra) ns)) ++
        padLines (spaces (width * extra)) rest := by
  rw [padLines_lineChars (isFirm_of_mem_childLines width depth ns), childLines_add,
    childLines_padded width depth _ ns h, lineChars, List.flatMap_map, List.flatMap_map]
  simp

/-- The text of a clean element, put at a depth with the lines inside of it, is the element with
padded values and texts at that depth. -/
theorem padLines_lineChars_nodeLines (h : e.IsClean) (width depth : Nat) :
    padLines (spaces (width * depth)) (lineChars (nodeLines width 0 e.node)) =
      lineChars (nodeLines width depth (e.padded (width * depth)).node) := by
  have hsingle (d : Nat) (n : Node) : childLines width d [n] = nodeLines width d n := by
    rw [childLines, childLines, List.append_nil]
  have hlines := padLines_lineChars_childLines (List.forall_mem_singleton.2 h) width 0 depth []
  rw [hsingle, List.append_nil, padLines_nil, List.append_nil, Nat.zero_add, paddedNodes,
    paddedNodes, hsingle, ← node_padded] at hlines
  exact hlines

end GatewayPolicy.Xml
