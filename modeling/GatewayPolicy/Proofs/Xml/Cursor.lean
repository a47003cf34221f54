import GatewayPolicy.Proofs.Xml.Expressions
import GatewayPolicy.Xml.Document
/-!
# Where the reader stands

The reader goes through a document from the front to the end. Whatever it takes stands right behind
what it has read, and whatever it leaves is the end of the document. So each of its places lies
between two characters of the document, and so does the place of a fault.
-/

namespace GatewayPolicy.Xml

open Text

variable {document cs r piece raw start mark e : List Char} {name : String} {quote d : Char}
  {construct : Construct}

/-! ## Pieces -/

theorem skipBlanks_suffix (cs : List Char) : skipBlanks cs <:+ cs := List.dropWhile_suffix _

theorem readName_split (h : readName cs = .ok (name, r)) : name.toList ++ r = cs := by
  unfold readName at h
  dsimp only at h
  split at h
  · obtain ⟨rfl, rfl⟩ := Prod.mk.inj (Except.ok.inj h)
    rw [String.toList_ofList, List.takeWhile_append_dropWhile]
  · simp at h

theorem splitAtFirst?_split (h : splitAtFirst? mark cs = some (piece, r)) :
    piece ++ (mark ++ r) = cs := by
  induction cs generalizing piece with
  | nil => simp [splitAtFirst?] at h
  | cons c cs ih =>
    unfold splitAtFirst? at h
    split at h
    · rename_i hprefix
      obtain ⟨t, ht⟩ := List.isPrefixOf_iff_prefix.1 hprefix
      obtain ⟨rfl, rfl⟩ := Prod.mk.inj (Option.some.inj h)
      rw [← ht, List.drop_left, List.nil_append]
    · obtain ⟨⟨b, a⟩, hsplit, heq⟩ := Option.map_eq_some_iff.1 h
      obtain ⟨rfl, rfl⟩ := Prod.mk.inj heq
      rw [List.cons_append, ih hsplit]

theorem readConstruct_split (h : readConstruct construct mark cs = .ok (piece, r)) :
    piece ++ (mark ++ r) = cs := by
  unfold readConstruct at h
  split at h
  · rename_i hparts
    obtain rfl := Except.ok.inj h
    exact splitAtFirst?_split hparts
  · simp at h

theorem splitAtQuote?_split (h : splitAtQuote? quote cs = some (raw, r)) :
    raw ++ quote :: r = cs := by
  unfold splitAtQuote? at h
  split at h
  · rename_i hparts
    obtain rfl := Option.some.inj h
    exact (quotedExpression?_eq_some_iff.1 hparts).2
  · split at h
    · rename_i c rest hdrop
      have hc : c = quote := by
        have := List.head?_dropWhile_not (· != quote) cs
        simpa [hdrop] using this
      obtain ⟨rfl, rfl⟩ := Prod.mk.inj (Option.some.inj h)
      rw [← hc, ← hdrop, hc, List.takeWhile_append_dropWhile]
    · simp at h

theorem readText_split (cs : List Char) : (readText cs).1 ++ (readText cs).2 = cs := by
  fun_induction readText cs with
  | case1 => rfl
  | case2 => rfl
  | case3 c rest _ e after hs t r hr ih =>
    rw [hr] at ih
    rw [List.append_assoc, ih, scanExpression?_split hs]
  | case4 c rest _ _ t r hr ih =>
    rw [hr] at ih
    rw [List.cons_append, ih]

theorem readReference?_split (h : readReference? cs = some (d, r)) :
    cs.takeWhile (· != ';') ++ ';' :: r = cs := by
  unfold readReference? at h
  split at h
  · rename_i rest hrest
    dsimp only at h
    split at h
    · obtain ⟨d', -, heq⟩ := Option.map_eq_some_iff.1 h
      obtain ⟨-, rfl⟩ := Prod.mk.inj heq
      rw [← hrest, List.takeWhile_append_dropWhile]
    · simp at h
  · simp at h

/-- The reader takes a piece off the front of its input and leaves the rest: a name, what stands in
front of a closing mark, a raw attribute value, an expression, a run of text, or what stands between
the ampersand and the semicolon of a reference. -/
inductive Cuts : List Char → List Char → List Char → Prop
  /-- A name. -/
  | name {cs r : List Char} {name : String} (h : readName cs = .ok (name, r)) :
      Cuts cs name.toList r
  /-- A comment, a CDATA section or a processing instruction. -/
  | construct {cs piece r mark : List Char} {construct : Construct}
      (h : readConstruct construct mark cs = .ok (piece, r)) : Cuts cs piece r
  /-- A raw attribute value. -/
  | value {cs raw r : List Char} {quote : Char} (h : splitAtQuote? quote cs = some (raw, r)) :
      Cuts cs raw r
  /-- An expression. -/
  | expression {cs e r : List Char} (h : scanExpression? cs = some (e, r)) : Cuts cs e r
  /-- A run of text. -/
  | text (cs : List Char) : Cuts cs (readText cs).1 (readText cs).2
  /-- A reference. -/
  | reference {cs r : List Char} {c : Char} (h : readReference? cs = some (c, r)) :
      Cuts cs (cs.takeWhile (· != ';')) r

/-- Behind the piece stands at most the mark that ends it. -/
theorem Cuts.exists_append (h : Cuts cs piece r) : ∃ mark, cs = piece ++ (mark ++ r) := by
  cases h with
  | name h => exact ⟨[], (readName_split h).symm⟩
  | construct h => exact ⟨_, (readConstruct_split h).symm⟩
  | value h => exact ⟨[_], (splitAtQuote?_split h).symm⟩
  | expression h => exact ⟨[], (scanExpression?_split h).symm⟩
  | text => exact ⟨[], (readText_split cs).symm⟩
  | reference h => exact ⟨[';'], (readReference?_split h).symm⟩

/-! ## Places -/

/-- What a reader comes to stays inside of the document: what it leaves unread, or the place of the
fault, is an end of the document. -/
def StaysWithin {α : Type} (document : List Char) (left : α → List Char) : Except Failure α → Prop
  | .ok a => left a <:+ document
  | .error f => f.rest <:+ document

variable {α : Type} {left : α → List Char} {x : Except Failure α} {a : α} {f : Failure}

theorem StaysWithin.ok (h : StaysWithin document left x) (hx : x = .ok a) :
    left a <:+ document := by
  rw [hx] at h
  exact h

theorem StaysWithin.error (h : StaysWithin document left x) (hx : x = .error f) :
    f.rest <:+ document := by
  rw [hx] at h
  exact h

theorem suffix_of_skipBlanks_eq {c : Char} (hcs : cs <:+ document) (h : skipBlanks cs = c :: r) :
    r <:+ document := by
  have hr : c :: r <:+ cs := h ▸ skipBlanks_suffix cs
  exact ((List.suffix_cons c r).trans hr).trans hcs

theorem readName_staysWithin (hcs : cs <:+ document) :
    StaysWithin document Prod.snd (readName cs) := by
  unfold readName
  dsimp only
  split
  · exact (List.dropWhile_suffix _).trans hcs
  · exact hcs

theorem readConstruct_staysWithin (hcs : cs <:+ document) (construct : Construct)
    (mark : List Char) : StaysWithin document Prod.snd (readConstruct construct mark cs) := by
  unfold readConstruct
  split
  · rename_i parts hparts
    rw [← splitAtFirst?_split hparts, ← List.append_assoc] at hcs
    exact (List.suffix_append _ _).trans hcs
  · exact hcs

theorem readValue_staysWithin (hcs : cs <:+ document) :
    StaysWithin document Prod.snd (readValue cs) := by
  unfold readValue
  split
  · exact hcs
  · split
    · split
      · rename_i hsplit
        rw [← splitAtQuote?_split hsplit] at hcs
        exact ((List.suffix_cons _ _).trans (List.suffix_append _ _)).trans
          ((List.suffix_cons _ _).trans hcs)
      · exact hcs
    · exact hcs

theorem readAttribute_staysWithin (hcs : cs <:+ document) :
    StaysWithin document Prod.snd (readAttribute cs) := by
  unfold readAttribute
  split
  · rename_i hname
    exact (readName_staysWithin hcs).error hname
  · rename_i hname
    have hr := (readName_staysWithin hcs).ok hname
    split
    · rename_i hskip
      have hr' := suffix_of_skipBlanks_eq hr hskip
      have hvalue := readValue_staysWithin ((skipBlanks_suffix _).trans hr')
      split
      · rename_i hread
        exact hvalue.error hread
      · rename_i hread
        exact hvalue.ok hread
    · exact hcs

theorem readAttributes_staysWithin (hstart : start <:+ document) (hcs : cs <:+ document)
    (name : String) (before : Attributes) :
    StaysWithin document Prod.snd (readAttributes start name before cs) := by
  fun_induction readAttributes start name before cs with
  | case1 before cs rest hskip =>
    exact (List.suffix_cons _ _).trans (suffix_of_skipBlanks_eq hcs hskip)
  | case2 before cs rest hskip => exact suffix_of_skipBlanks_eq hcs hskip
  | case3 => exact hstart
  | case4 before cs f hread =>
    exact (readAttribute_staysWithin ((skipBlanks_suffix cs).trans hcs)).error hread
  | case5 before cs => exact (skipBlanks_suffix cs).trans hcs
  | case6 before cs a rest hread _ _ _ _ ih =>
    exact ih ((readAttribute_staysWithin ((skipBlanks_suffix cs).trans hcs)).ok hread)

theorem readStartTag_staysWithin (hstart : start <:+ document) (hcs : cs <:+ document) :
    StaysWithin document Prod.snd (readStartTag start cs) := by
  unfold readStartTag
  split
  · rename_i hname
    exact (readName_staysWithin hcs).error hname
  · rename_i name r hname
    have hr := (readName_staysWithin hcs).ok hname
    split
    · rename_i hread
      exact (readAttributes_staysWithin hstart hr name []).error hread
    · rename_i hread
      exact (readAttributes_staysWithin hstart hr name []).ok hread

theorem readEndTag_staysWithin (hstart : start <:+ document) (hcs : cs <:+ document) :
    StaysWithin document Prod.snd (readEndTag start cs) := by
  unfold readEndTag
  split
  · rename_i hname
    exact (readName_staysWithin hcs).error hname
  · rename_i hname
    have hr := (readName_staysWithin hcs).ok hname
    split
    · rename_i hskip
      exact suffix_of_skipBlanks_eq hr hskip
    · exact hstart

theorem readToken_staysWithin (hcs : cs <:+ document) :
    StaysWithin document Prod.snd (readToken cs) := by
  unfold readToken
  split
  · have hrest := ((List.suffix_cons _ _).trans (List.suffix_cons _ _)).trans hcs
    have hread := readEndTag_staysWithin hcs hrest
    split
    · exact hread.error ‹_›
    · exact hread.ok ‹_›
  · have hrest := (List.suffix_append ['<', '!', '-', '-'] _).trans hcs
    have hread := readConstruct_staysWithin hrest .comment ['-', '-', '>']
    split
    · exact hread.error ‹_›
    · exact hread.ok ‹_›
  · have hrest := (List.suffix_append ['<', '!', '[', 'C', 'D', 'A', 'T', 'A', '['] _).trans hcs
    have hread := readConstruct_staysWithin hrest .cdata [']', ']', '>']
    split
    · exact hread.error ‹_›
    · exact hread.ok ‹_›
  · have hread := readConstruct_staysWithin hcs .instruction ['?', '>']
    split
    · exact hread.error ‹_›
    · exact hread.ok ‹_›
  · have hread := readStartTag_staysWithin hcs ((List.suffix_cons _ _).trans hcs)
    split
    · exact hread.error ‹_›
    · exact hread.ok ‹_›
  · rw [← readText_split cs] at hcs
    exact (List.suffix_append _ _).trans hcs

theorem skipDoctype?_suffix {n : Nat} (h : skipDoctype? n cs = some r) : r <:+ cs := by
  induction cs generalizing n with
  | nil => simp [skipDoctype?] at h
  | cons c cs ih =>
    unfold skipDoctype? at h
    repeat' split at h
    · exact (ih h).trans (List.suffix_cons c cs)
    · exact (ih h).trans (List.suffix_cons c cs)
    · obtain rfl := Option.some.inj h
      exact List.suffix_cons c cs
    · exact (ih h).trans (List.suffix_cons c cs)

theorem skipItem?_staysWithin {y : Except Failure (List Char)} (hcs : cs <:+ document)
    (h : skipItem? cs = some y) : StaysWithin document id y := by
  have part {construct : Construct} {mark : List Char} {cs : List Char} (hcs : cs <:+ document) :
      StaysWithin document id ((readConstruct construct mark cs).map Prod.snd) := by
    have hread := readConstruct_staysWithin hcs construct mark
    cases hx : readConstruct construct mark cs with
    | error f => exact hread.error hx
    | ok a => exact hread.ok hx
  unfold skipItem? at h
  split at h
  · obtain rfl := Option.some.inj h
    exact part hcs
  · obtain rfl := Option.some.inj h
    exact part ((List.suffix_append ['<', '!', '-', '-'] _).trans hcs)
  · split at h
    · obtain rfl := Option.some.inj h
      split
      · rename_i hskip
        exact (skipDoctype?_suffix hskip).trans hcs
      · exact hcs
    · simp at h

theorem skipMisc_staysWithin (hcs : cs <:+ document) : StaysWithin document id (skipMisc cs) := by
  fun_induction skipMisc cs with
  | case1 cs => exact (skipBlanks_suffix cs).trans hcs
  | case2 cs f h => exact skipItem?_staysWithin ((skipBlanks_suffix cs).trans hcs) h
  | case3 cs rest h ih => exact ih (skipItem?_staysWithin ((skipBlanks_suffix cs).trans hcs) h)

/-- The places where the open elements start lie in the document, and stay there. -/
theorem readContent_staysWithin {top : OpenElement} {around : List OpenElement}
    (htop : top.start <:+ document) (haround : ∀ p ∈ around, p.start <:+ document)
    (hcs : cs <:+ document) : StaysWithin document Prod.snd (readContent top around cs) := by
  fun_induction readContent top around cs with
  | case1 => exact htop
  | case2 top around c rest f ht => exact (readToken_staysWithin hcs).error ht
  | case3 top around c rest tag r ht _ ih =>
    exact ih htop haround ((readToken_staysWithin hcs).ok ht)
  | case4 top around c rest tag r ht _ ih =>
    exact ih hcs (List.forall_mem_cons.2 ⟨htop, haround⟩) ((readToken_staysWithin hcs).ok ht)
  | case5 top c rest r ht => exact (readToken_staysWithin hcs).ok ht
  | case6 top c rest r parent around ht ih =>
    obtain ⟨hparent, haround⟩ := List.forall_mem_cons.1 haround
    exact ih hparent haround ((readToken_staysWithin hcs).ok ht)
  | case7 => exact hcs
  | case8 top around c rest s r ht ih =>
    exact ih htop haround ((readToken_staysWithin hcs).ok ht)
  | case9 top around c rest s r ht ih =>
    exact ih htop haround ((readToken_staysWithin hcs).ok ht)
  | case10 top around c rest r ht ih =>
    exact ih htop haround ((readToken_staysWithin hcs).ok ht)
  | case11 top around c rest s r ht ih =>
    exact ih htop haround ((readToken_staysWithin hcs).ok ht)

theorem readRoot_staysWithin {rest : List Char} (h : '<' :: rest <:+ document) :
    StaysWithin document Prod.snd (readRoot rest) := by
  have htag := readStartTag_staysWithin h ((List.suffix_cons '<' rest).trans h)
  unfold readRoot
  split
  · exact htag.error ‹_›
  · have hr := htag.ok ‹_›
    split
    · exact hr
    · exact readContent_staysWithin h (by simp) hr

theorem dropMark_suffix (cs : List Char) : dropMark cs <:+ cs := by
  unfold dropMark
  split
  · exact List.suffix_cons _ _
  · exact List.suffix_rfl

/-- A fault lies in the document. -/
theorem suffix_of_readDocument (h : readDocument cs = .error f) : f.rest <:+ cs := by
  have hbefore := skipMisc_staysWithin (dropMark_suffix cs)
  unfold readDocument at h
  split at h
  · obtain rfl := Except.error.inj h
    exact hbefore.error ‹_›
  · rename_i rest hmisc
    have hroot := readRoot_staysWithin (hbefore.ok hmisc)
    split at h
    · obtain rfl := Except.error.inj h
      exact hroot.error ‹_›
    · rename_i root r hread
      have hafter := skipMisc_staysWithin (hroot.ok hread)
      split at h
      · obtain rfl := Except.error.inj h
        exact hafter.error ‹_›
      · simp at h
      · obtain rfl := Except.error.inj h
        exact hafter.ok ‹_›
  · obtain rfl := Except.error.inj h
    exact hbefore.ok ‹_›

/-! ## Bytes -/

theorem utf8Length_append (cs ds : List Char) :
    utf8Length (cs ++ ds) = utf8Length cs + utf8Length ds := by
  induction cs with
  | nil => simp [utf8Length]
  | cons c cs ih =>
    simp only [List.cons_append, utf8Length, ih]
    omega

theorem utf8ByteSize_ofList (cs : List Char) :
    (String.ofList cs).utf8ByteSize = utf8Length cs := by
  induction cs with
  | nil => rfl
  | cons c cs ih =>
    rw [← List.singleton_append, String.ofList_append, String.utf8ByteSize_append, ih,
      ← String.singleton_eq_ofList, String.utf8ByteSize_singleton, List.singleton_append, utf8Length]

/-- A number of bytes after which a character of the document starts, or the document ends. -/
structure IsBoundary (document : String) (position : Nat) : Prop where
  /-- The position lies in the document. -/
  le : position ≤ document.utf8ByteSize
  /-- The position does not lie inside of a character. -/
  valid : String.Pos.Raw.IsValid document ⟨position⟩

/-- What can be read in front of the rest ends at a boundary. -/
theorem isBoundary_utf8Length {document : String} {front rest : List Char}
    (h : document.toList = front ++ rest) : IsBoundary document (utf8Length front) := by
  have hdocument : document = String.ofList front ++ String.ofList rest := by
    rw [← String.ofList_append, ← h, String.ofList_toList]
  have hfront : (⟨utf8Length front⟩ : String.Pos.Raw) = (String.ofList front).rawEndPos := by
    rw [← utf8ByteSize_ofList]
    rfl
  refine ⟨?_, String.Pos.Raw.isValid_iff_exists_append.2 ⟨_, _, hdocument, hfront⟩⟩
  rw [hdocument, String.utf8ByteSize_append, utf8ByteSize_ofList]
  omega

/-- The place of a fault is a boundary of the document. -/
theorem isBoundary_position {document : String} (h : f.rest <:+ document.toList) :
    IsBoundary document (f.position document.toList) := by
  obtain ⟨front, hfront⟩ := h
  have hposition : f.position document.toList = utf8Length front := by
    rw [Failure.position, ← hfront, utf8Length_append]
    omega
  rw [hposition]
  exact isBoundary_utf8Length hfront.symm

/-- Whatever is cut out of a document stands between two of its boundaries. -/
theorem Cuts.isBoundary {document : String} {front back : List Char} (h : Cuts cs piece r)
    (hdocument : document.toList = front ++ (cs ++ back)) :
    IsBoundary document (utf8Length front) ∧
      IsBoundary document (utf8Length front + utf8Length piece) := by
  obtain ⟨mark, rfl⟩ := h.exists_append
  have hpiece : document.toList = (front ++ piece) ++ (mark ++ r ++ back) := by
    simpa using hdocument
  refine ⟨isBoundary_utf8Length hdocument, ?_⟩
  rw [← utf8Length_append]
  exact isBoundary_utf8Length hpiece

end GatewayPolicy.Xml
