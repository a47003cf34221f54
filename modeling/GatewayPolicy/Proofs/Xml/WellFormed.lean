import GatewayPolicy.Proofs.Xml.Content
import GatewayPolicy.Proofs.Xml.Cursor
/-!
# What the reader returns

Whatever the document is, the tree that is read from it is well formed: names are names, no attribute
is repeated, comments and CDATA sections do not hold their closing marks, and no text is empty. Each
of these is an invariant of the reader: it holds of what the elements that are still open have so
far.
-/

namespace GatewayPolicy.Xml

open Text

/-- Attributes with names as keys, none of them repeated. -/
structure AreWellFormed (attributes : Attributes) : Prop where
  /-- The keys are names. -/
  names : ∀ a ∈ attributes, IsName a.1
  /-- No key is repeated. -/
  distinct : (attributes.map Prod.fst).Nodup

/-- A node that can be read from a document. -/
inductive Node.IsWellFormed : Node → Prop
  /-- An element. -/
  | element {name : String} {attributes : Attributes} {children : List Node} (hname : IsName name)
      (hattributes : AreWellFormed attributes) (hchildren : ∀ n ∈ children, Node.IsWellFormed n) :
      Node.IsWellFormed (.element name attributes children)
  /-- A text. -/
  | text (s : String) : Node.IsWellFormed (.text s)
  /-- A CDATA section without its closing mark. -/
  | cdata {s : String} (h : ¬ [']', ']', '>'] <:+: s.toList) : Node.IsWellFormed (.cdata s)
  /-- A comment without its closing mark. -/
  | comment {s : String} (h : ¬ ['-', '-', '>'] <:+: s.toList) : Node.IsWellFormed (.comment s)

/-- An element that can be read from a document. -/
def Element.IsWellFormed (e : Element) : Prop := e.node.IsWellFormed

variable {cs r rest start : List Char} {name : String} {e : Element} {tag : StartTag}

/-! ## Tokens -/

theorem isName_of_readName (h : readName cs = .ok (name, r)) : IsName name := by
  unfold readName at h
  dsimp only at h
  split at h
  · rename_i hstart
    obtain ⟨rfl, -⟩ := Prod.mk.inj (Except.ok.inj h)
    refine ⟨?_, ?_⟩
    · rw [String.toList_ofList]
      exact hstart
    · rw [String.toList_ofList]
      exact List.all_takeWhile
  · simp at h

theorem isName_of_readAttribute {a : String × String} (h : readAttribute cs = .ok (a, r)) :
    IsName a.1 := by
  unfold readAttribute at h
  split at h
  · simp at h
  · rename_i hname
    split at h
    · split at h
      · simp at h
      · obtain ⟨rfl, -⟩ := Prod.mk.inj (Except.ok.inj h)
        exact isName_of_readName hname
    · simp at h

/-- Reading attributes keeps those that were read before well formed. -/
theorem areWellFormed_of_readAttributes {before : Attributes} {a : Attributes × Bool}
    (hbefore : AreWellFormed before) (h : readAttributes start name before cs = .ok (a, r)) :
    AreWellFormed a.1 := by
  fun_induction readAttributes start name before cs generalizing a with
  | case1 before cs rest hs =>
    obtain ⟨rfl, -⟩ := Prod.mk.inj (Except.ok.inj h)
    exact hbefore
  | case2 before cs rest hs =>
    obtain ⟨rfl, -⟩ := Prod.mk.inj (Except.ok.inj h)
    exact hbefore
  | case3 => simp at h
  | case4 => simp at h
  | case5 => simp at h
  | case6 before cs a' rest ha hdup _ _ _ ih =>
    refine ih ⟨?_, ?_⟩ h
    · intro b hb
      rcases List.mem_append.1 hb with hb | hb
      · exact hbefore.names b hb
      · rw [List.mem_singleton.1 hb]
        exact isName_of_readAttribute ha
    · rw [List.map_append, List.map_singleton]
      refine List.nodup_append.2 ⟨hbefore.distinct, by simp, ?_⟩
      intro k hk k' hk' heq
      rw [List.mem_singleton] at hk'
      obtain ⟨b, hb, rfl⟩ := List.mem_map.1 hk
      refine hdup (List.any_eq_true.2 ⟨b, hb, ?_⟩)
      rw [heq, hk']
      simp

theorem wellFormed_of_readStartTag (h : readStartTag start cs = .ok (tag, r)) :
    IsName tag.name ∧ AreWellFormed tag.attributes := by
  unfold readStartTag at h
  split at h
  · simp at h
  · rename_i hname
    split at h
    · simp at h
    · rename_i hattributes
      obtain ⟨rfl, -⟩ := Prod.mk.inj (Except.ok.inj h)
      exact ⟨isName_of_readName hname,
        areWellFormed_of_readAttributes ⟨by simp, by simp⟩ hattributes⟩

theorem prefix_of_splitAtFirst? {pattern before after : List Char}
    (h : splitAtFirst? pattern cs = some (before, after)) : before <+: cs := by
  induction cs generalizing before with
  | nil => simp [splitAtFirst?] at h
  | cons c cs ih =>
    unfold splitAtFirst? at h
    split at h
    · obtain ⟨rfl, -⟩ := Prod.mk.inj (Option.some.inj h)
      exact List.nil_prefix
    · obtain ⟨⟨b, a⟩, hsplit, heq⟩ := Option.map_eq_some_iff.1 h
      obtain ⟨rfl, rfl⟩ := Prod.mk.inj heq
      exact (List.prefix_cons_inj c).2 (ih hsplit)

/-- A text is split in front of the first occurrence of a pattern. -/
theorem not_infix_of_splitAtFirst? {pattern before after : List Char} (hp : pattern ≠ [])
    (h : splitAtFirst? pattern cs = some (before, after)) : ¬ pattern <:+: before := by
  induction cs generalizing before with
  | nil => simp [splitAtFirst?] at h
  | cons c cs ih =>
    unfold splitAtFirst? at h
    split at h
    · obtain ⟨rfl, -⟩ := Prod.mk.inj (Option.some.inj h)
      intro hi
      exact hp (List.infix_nil.1 hi)
    · rename_i hprefix
      obtain ⟨⟨b, a⟩, hsplit, heq⟩ := Option.map_eq_some_iff.1 h
      obtain ⟨rfl, rfl⟩ := Prod.mk.inj heq
      intro hi
      rcases List.infix_cons_iff.1 hi with hi | hi
      · have hb : c :: b <+: c :: cs := (List.prefix_cons_inj c).2 (prefix_of_splitAtFirst? hsplit)
        exact hprefix (List.isPrefixOf_iff_prefix.2 (hi.trans hb))
      · exact ih hsplit hi

/-! ## Content -/

/-- What a token adds to the tree is well formed. -/
def Token.IsWellFormed : Token → Prop
  | .startTag tag => IsName tag.name ∧ AreWellFormed tag.attributes
  | .comment s => (Node.comment s).IsWellFormed
  | .cdata s => (Node.cdata s).IsWellFormed
  | _ => True

theorem not_infix_of_readConstruct {construct : Construct} {mark before after : List Char}
    (hm : mark ≠ []) (h : readConstruct construct mark cs = .ok (before, after)) :
    ¬ mark <:+: before := by
  unfold readConstruct at h
  split at h
  · rename_i parts hparts
    obtain rfl := Except.ok.inj h
    exact not_infix_of_splitAtFirst? hm hparts
  · simp at h

theorem isWellFormed_of_readToken {t : Token} (h : readToken cs = .ok (t, r)) :
    t.IsWellFormed := by
  unfold readToken at h
  split at h
  · split at h
    · simp at h
    · obtain ⟨rfl, -⟩ := Prod.mk.inj (Except.ok.inj h)
      trivial
  · split at h
    · simp at h
    · rename_i hread
      obtain ⟨rfl, -⟩ := Prod.mk.inj (Except.ok.inj h)
      refine .comment ?_
      rw [String.toList_ofList]
      exact not_infix_of_readConstruct (by simp) hread
  · split at h
    · simp at h
    · rename_i hread
      obtain ⟨rfl, -⟩ := Prod.mk.inj (Except.ok.inj h)
      refine .cdata ?_
      rw [String.toList_ofList]
      exact not_infix_of_readConstruct (by simp) hread
  · split at h
    · simp at h
    · obtain ⟨rfl, -⟩ := Prod.mk.inj (Except.ok.inj h)
      trivial
  · split at h
    · simp at h
    · rename_i hread
      obtain ⟨rfl, -⟩ := Prod.mk.inj (Except.ok.inj h)
      exact wellFormed_of_readStartTag hread
  · obtain ⟨rfl, -⟩ := Prod.mk.inj (Except.ok.inj h)
    trivial

/-- What a token by itself adds to the tree. -/
def Token.leaf? : Token → Option Node
  | .comment s => some (.comment s)
  | .cdata s => some (.cdata s)
  | .text s => some (.text s)
  | _ => none

/-- A property of nodes that reading establishes, from the leaves of the tree to its root. -/
structure IsEstablished (P : Node → Prop) : Prop where
  /-- What a token by itself adds has the property. -/
  leaf : ∀ {cs r : List Char} {t : Token} {n : Node}, cs ≠ [] → readToken cs = .ok (t, r) →
    t.leaf? = some n → P n
  /-- An element has the property if its children have it. -/
  element : ∀ {name : String} {attributes : Attributes} {children : List Node}, IsName name →
    AreWellFormed attributes → (∀ n ∈ children, P n) → P (.element name attributes children)

/-- An open element with a well-formed tag whose children so far have the property. -/
structure OpenElement.Keeps (P : Node → Prop) (e : OpenElement) : Prop where
  /-- The name is a name. -/
  name : IsName e.name
  /-- The attributes are well formed. -/
  attributes : AreWellFormed e.attributes
  /-- The children read so far have the property. -/
  children : ∀ n ∈ e.children, P n

section

variable {P : Node → Prop} {top : OpenElement} {n : Node}

theorem OpenElement.Keeps.push (h : top.Keeps P) (hn : P n) : (top.push n).Keeps P :=
  ⟨h.name, h.attributes, List.forall_mem_cons.2 ⟨hn, h.children⟩⟩

theorem IsEstablished.close (hP : IsEstablished P) (h : top.Keeps P) : P top.close.node :=
  hP.element h.name h.attributes fun n hn => h.children n (List.mem_reverse.1 hn)

/-- The open elements keep the property, and the outermost of them has it once it is closed. -/
theorem IsEstablished.of_readContent (hP : IsEstablished P) {around : List OpenElement}
    (htop : top.Keeps P) (haround : ∀ p ∈ around, p.Keeps P)
    (h : readContent top around cs = .ok (e, r)) : P e.node := by
  fun_induction readContent top around cs with
  | case1 => simp at h
  | case2 => simp at h
  | case3 top around c rest tag r' ht hclosed ih =>
    obtain ⟨hname, hattributes⟩ := isWellFormed_of_readToken ht
    exact ih (htop.push (hP.element hname hattributes (by simp [StartTag.element]))) haround h
  | case4 top around c rest tag r' ht hopened ih =>
    obtain ⟨hname, hattributes⟩ := isWellFormed_of_readToken ht
    exact ih ⟨hname, hattributes, by simp [StartTag.opened]⟩
      (List.forall_mem_cons.2 ⟨htop, haround⟩) h
  | case5 top c rest r' ht =>
    obtain ⟨rfl, -⟩ := Prod.mk.inj (Except.ok.inj h)
    exact hP.close htop
  | case6 top c rest r' parent around ht ih =>
    obtain ⟨hparent, haround⟩ := List.forall_mem_cons.1 haround
    exact ih (hparent.push (hP.close htop)) haround h
  | case7 => simp at h
  | case8 top around c rest s r' ht ih =>
    exact ih (htop.push (hP.leaf (List.cons_ne_nil c rest) ht rfl)) haround h
  | case9 top around c rest s r' ht ih =>
    exact ih (htop.push (hP.leaf (List.cons_ne_nil c rest) ht rfl)) haround h
  | case10 top around c rest r' ht ih => exact ih htop haround h
  | case11 top around c rest s r' ht ih =>
    exact ih (htop.push (hP.leaf (List.cons_ne_nil c rest) ht rfl)) haround h

theorem IsEstablished.of_readRoot (hP : IsEstablished P) (h : readRoot rest = .ok (e, r)) :
    P e.node := by
  unfold readRoot at h
  split at h
  · simp at h
  · rename_i hread
    obtain ⟨hname, hattributes⟩ := wellFormed_of_readStartTag hread
    split at h
    · obtain ⟨rfl, -⟩ := Prod.mk.inj (Except.ok.inj h)
      exact hP.element hname hattributes (by simp [StartTag.element])
    · exact hP.of_readContent ⟨hname, hattributes, by simp [StartTag.opened]⟩ (by simp) h

theorem IsEstablished.of_parse (hP : IsEstablished P) {document : String}
    (h : parse document = .ok e) : P e.node := by
  obtain ⟨_, _, -, hroot, -⟩ := readDocument_eq_ok_iff.1 (parse_eq_ok_iff.1 h)
  exact hP.of_readRoot hroot

end

theorem isEstablished_isWellFormed : IsEstablished Node.IsWellFormed where
  leaf := by
    intro cs r t n _ hread hleaf
    have ht := isWellFormed_of_readToken hread
    cases t with
    | comment s =>
      obtain rfl := Option.some.inj hleaf
      exact ht
    | cdata s =>
      obtain rfl := Option.some.inj hleaf
      exact ht
    | text s =>
      obtain rfl := Option.some.inj hleaf
      exact .text s
    | startTag => simp [Token.leaf?] at hleaf
    | endTag => simp [Token.leaf?] at hleaf
    | instruction => simp [Token.leaf?] at hleaf
  element := fun hname hattributes hchildren => .element hname hattributes hchildren

/-- A document is read as a well-formed tree, if it is read at all. -/
theorem isWellFormed_of_parse {document : String} (h : parse document = .ok e) :
    e.IsWellFormed :=
  isEstablished_isWellFormed.of_parse h

/-! ## Elements at any depth -/

/-- A node is the other node or stands inside of it, at any depth. -/
inductive Node.Holds : Node → Node → Prop
  /-- The node itself. -/
  | self (n : Node) : Node.Holds n n
  /-- A node inside of a child. -/
  | child {name : String} {attributes : Attributes} {children : List Node} {n m : Node}
      (hn : n ∈ children) (h : Node.Holds n m) : Node.Holds (.element name attributes children) m

theorem Node.Holds.isWellFormed {n m : Node} (h : n.Holds m) (hn : n.IsWellFormed) :
    m.IsWellFormed := by
  induction h with
  | self => exact hn
  | child hmem _ ih =>
    cases hn with
    | element _ _ hchildren => exact ih (hchildren _ hmem)

theorem Node.Holds.trans {n m k : Node} (h : n.Holds m) (hm : m.Holds k) : n.Holds k := by
  induction h with
  | self => exact hm
  | child hn _ ih => exact .child hn (ih hm)

/-- Decoding references does not make a text empty. -/
theorem unescapeChars_ne_nil (h : cs ≠ []) : unescapeChars cs ≠ [] := by
  obtain ⟨c, cs, rfl⟩ := List.exists_cons_of_ne_nil h
  rw [unescapeChars]
  split
  · split <;> simp
  · simp

theorem readText_ne_nil {c : Char} (hc : c ≠ '<') (cs : List Char) :
    (readText (c :: cs)).1 ≠ [] := by
  intro h
  have hsplit := readText_split (c :: cs)
  have hlt : (readText (c :: cs)).2.length < (c :: cs).length := length_readText_lt hc
  rw [h, List.nil_append] at hsplit
  rw [hsplit] at hlt
  omega

/-- No text starts with an angle bracket. -/
theorem ne_bracket_of_readToken {c : Char} {value : String}
    (h : readToken (c :: cs) = .ok (.text value, r)) : c ≠ '<' := by
  rintro rfl
  unfold readToken at h
  split at h
  · split at h <;> simp at h
  · split at h <;> simp at h
  · split at h <;> simp at h
  · split at h <;> simp at h
  · split at h <;> simp at h
  · rename_i hne
    exact hne cs rfl

/-- A text that is read has at least one character. -/
theorem ne_empty_of_readToken {value : String} (hcs : cs ≠ [])
    (h : readToken cs = .ok (.text value, r)) : value ≠ "" := by
  obtain ⟨c, cs, rfl⟩ := List.exists_cons_of_ne_nil hcs
  have hc := ne_bracket_of_readToken h
  rw [readToken_cons hc] at h
  obtain ⟨heq, -⟩ := Prod.mk.inj (Except.ok.inj h)
  rw [← Token.text.inj heq]
  simpa using unescapeChars_ne_nil (readText_ne_nil hc cs)

theorem isEstablished_ne_empty :
    IsEstablished fun n => ∀ s, n.Holds (.text s) → s ≠ "" where
  leaf := by
    intro cs r t n hcs hread hleaf s hs
    cases t with
    | comment value =>
      obtain rfl := Option.some.inj hleaf
      cases hs
    | cdata value =>
      obtain rfl := Option.some.inj hleaf
      cases hs
    | text value =>
      obtain rfl := Option.some.inj hleaf
      cases hs
      exact ne_empty_of_readToken hcs hread
    | startTag => simp [Token.leaf?] at hleaf
    | endTag => simp [Token.leaf?] at hleaf
    | instruction => simp [Token.leaf?] at hleaf
  element := by
    intro name attributes children _ _ hchildren s hs
    cases hs with
    | child hn h => exact hchildren _ hn s h

/-- The parts of an element are as they can stand in a document. -/
structure Element.IsProper (e : Element) : Prop where
  /-- The name starts like a name and goes on like one. -/
  name : IsName e.name
  /-- So does every key. -/
  keys : ∀ a ∈ e.attributes, IsName a.1
  /-- No key is repeated. -/
  distinct : (e.attributes.map Prod.fst).Nodup
  /-- No text is empty. -/
  texts : ∀ s, .text s ∈ e.children → s ≠ ""
  /-- No CDATA section holds its closing mark. -/
  sections : ∀ s, .cdata s ∈ e.children → ¬ [']', ']', '>'] <:+: s.toList
  /-- No comment holds its closing mark. -/
  comments : ∀ s, .comment s ∈ e.children → ¬ ['-', '-', '>'] <:+: s.toList

/-- Every element of a tree that was read is proper, at any depth and whatever the document was. -/
theorem isProper_of_parse {document : String} {root e : Element}
    (h : parse document = .ok root) (he : root.node.Holds e.node) : e.IsProper := by
  have hwf : e.node.IsWellFormed := he.isWellFormed (isWellFormed_of_parse h)
  have htexts := isEstablished_ne_empty.of_parse h
  cases hwf with
  | element hname hattributes hchildren =>
    refine ⟨hname, hattributes.names, hattributes.distinct, fun s hs => ?_, fun s hs => ?_,
      fun s hs => ?_⟩
    · exact htexts s (he.trans (.child hs (.self _)))
    · cases hchildren _ hs with
      | cdata h => exact h
    · cases hchildren _ hs with
      | comment h => exact h

/-- An element inside of an element, with references, a section and a comment. -/
def innerElement : Element :=
  ⟨"_:é", [("a", "&"), ("b", "")], [.text "<", .cdata "]]", .comment "-"]⟩

theorem isProper_of_parse_innerElement :
    (parse "<x>\n<_:é a='&amp;' b=''>&lt;<![CDATA[]]]]><!-----></_:é ></x>" =
        .ok ⟨"x", [], [.text "\n", innerElement.node]⟩ ∧
      Node.Holds (.element "x" [] [.text "\n", innerElement.node]) innerElement.node) ∧
        innerElement.IsProper := by
  have hparse : parse "<x>\n<_:é a='&amp;' b=''>&lt;<![CDATA[]]]]><!-----></_:é ></x>" =
      .ok ⟨"x", [], [.text "\n", innerElement.node]⟩ := by
    with_unfolding_all rfl
  have hholds : Node.Holds (.element "x" [] [.text "\n", innerElement.node]) innerElement.node :=
    .child (by simp) (.self _)
  exact ⟨⟨hparse, hholds⟩, isProper_of_parse hparse hholds⟩

end GatewayPolicy.Xml
