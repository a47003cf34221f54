import GatewayPolicy.Proofs.Xml.Expressions
import GatewayPolicy.Xml.Layout
/-!
# Tags, written and read

A start tag is a name, attributes with their values between double quotes, and an end. What stands
between the quotes is called raw: the value is what it reads as. A tag is read back if its names are
names, no attribute is repeated, and each raw value is quotable, which means that the reader finds
the closing quote.
-/

namespace GatewayPolicy.Xml

open Text

/-! ## Names -/

/-- The text can be the name of an element or attribute. -/
def IsName (s : String) : Prop := s.toList.head?.any isNameStart ∧ s.toList.all isNameChar

instance (s : String) : Decidable (IsName s) := inferInstanceAs (Decidable (_ ∧ _))

variable {name : String} {start rest cs : List Char} {c : Char}

theorem isNameChar_of_isName (h : IsName name) : ∀ c ∈ name.toList, isNameChar c = true :=
  fun c hc => List.all_eq_true.1 h.2 c hc

/-- A name starts with a character that can start a name and be part of one. -/
theorem IsName.exists_cons (h : IsName name) :
    ∃ c cs, name.toList = c :: cs ∧ isNameStart c = true ∧ isNameChar c = true := by
  cases hn : name.toList with
  | nil =>
    have := h.1
    simp [hn] at this
  | cons c cs =>
    refine ⟨c, cs, rfl, ?_, isNameChar_of_isName h c (by rw [hn]; exact List.mem_cons_self)⟩
    simpa [hn] using h.1

theorem isBlank_of_isNameChar (h : isNameChar c = true) : isBlank c = false := by
  unfold isNameChar at h
  cases hb : isBlank c with
  | false => rfl
  | true => simp [hb] at h

/-- Blanks end a name, and so does what ends it behind them. -/
theorem head?_blanks_append {ws : List Char} (hws : IsBlankRun ws)
    (hrest : rest.head?.all (!isNameChar ·) = true) :
    (ws ++ rest).head?.all (!isNameChar ·) = true := by
  cases ws with
  | nil => exact hrest
  | cons c ws =>
    have hc : isBlank c = true := (isBlankRun_cons.1 hws).1
    simp [isNameChar, hc]

/-- A name stands behind the blanks in front of it. -/
theorem skipBlanks_name {gap : List Char} (hgap : IsBlankRun gap) (h : IsName name)
    (rest : List Char) : skipBlanks (gap ++ (name.toList ++ rest)) = name.toList ++ rest := by
  obtain ⟨c, cs, hc, -, hchar⟩ := h.exists_cons
  rw [skipBlanks_append hgap, hc, List.cons_append, skipBlanks_cons (isBlank_of_isNameChar hchar)]

/-- A name is read up to the first character that no name has. -/
theorem readName_append (h : IsName name) (hrest : rest.head?.all (!isNameChar ·) = true) :
    readName (name.toList ++ rest) = .ok (name, rest) := by
  have hchars := isNameChar_of_isName h
  have htake : (name.toList ++ rest).takeWhile isNameChar = name.toList := by
    rw [List.takeWhile_append_of_pos hchars]
    cases rest with
    | nil => simp
    | cons c rest =>
      have : isNameChar c = false := by simpa using hrest
      simp [this]
  have hdrop : (name.toList ++ rest).dropWhile isNameChar = rest := by
    rw [List.dropWhile_append_of_pos hchars]
    cases rest with
    | nil => simp
    | cons c rest =>
      have : isNameChar c = false := by simpa using hrest
      simp [this]
  simp only [readName, htake, hdrop]
  rw [if_pos (by simpa using h.1), String.ofList_toList]

/-! ## Values -/

/-- The reader finds the characters between double quotes, whatever follows. -/
def IsQuotable (raw : List Char) : Prop :=
  ∀ rest, splitAtQuote? '"' (raw ++ '"' :: rest) = some (raw, rest)

variable {raw : List Char} {quote : Char}

theorem splitAtQuote?_of_notMem (h : quote ∉ raw)
    (hq : quotedExpression? quote (raw ++ quote :: rest) = none) :
    splitAtQuote? quote (raw ++ quote :: rest) = some (raw, rest) := by
  have hne : ∀ c ∈ raw, (c != quote) = true := by
    intro c hc
    have : c ≠ quote := fun hq => h (hq ▸ hc)
    simpa using this
  unfold splitAtQuote?
  rw [hq, List.dropWhile_append_of_pos hne, List.takeWhile_append_of_pos hne]
  simp

/-- A value that is no expression up to a quote ends at the first quote. -/
theorem notMem_of_splitAtQuote? (hnone : quotedExpression? quote cs = none)
    (h : splitAtQuote? quote cs = some (raw, rest)) : quote ∉ raw := by
  unfold splitAtQuote? at h
  rw [hnone] at h
  dsimp only at h
  split at h
  · obtain ⟨rfl, -⟩ := Prod.mk.inj (Option.some.inj h)
    intro hmem
    have := List.mem_takeWhile_imp hmem
    simp at this
  · simp at h

/-- Characters that hold no quote of the kind around them and open no expression end at the closing
quote. -/
theorem splitAtQuote?_literal (hquote : quote = '"' ∨ quote = '\'') (h : quote ∉ raw)
    (hopen : opensExpression raw = false) (rest : List Char) :
    splitAtQuote? quote (raw ++ quote :: rest) = some (raw, rest) := by
  refine splitAtQuote?_of_notMem h ?_
  have hopen' : opensExpression (raw ++ quote :: rest) = false := by
    rcases hquote with rfl | rfl
    · rw [opensExpression_append (by decide) (by decide), hopen]
    · rw [opensExpression_append (by decide) (by decide), hopen]
  unfold quotedExpression?
  rw [scanExpression?_eq_none hopen']

/-- Characters without a quote are quotable unless they open an expression. -/
theorem isQuotable_of_notMem (h : '"' ∉ raw) (hopen : opensExpression raw = false) :
    IsQuotable raw :=
  splitAtQuote?_literal (.inl rfl) h hopen

/-- A complete expression is quotable, whatever quotes it holds. -/
theorem isQuotable_of_scanExpression? (h : scanExpression? raw = some (raw, [])) :
    IsQuotable raw := by
  intro rest
  unfold splitAtQuote?
  rw [quotedExpression?_eq_some_iff.2 ⟨h, rfl⟩]

theorem readValue_append (hquote : quote = '"' ∨ quote = '\'')
    (h : splitAtQuote? quote (raw ++ quote :: rest) = some (raw, rest)) :
    readValue (quote :: (raw ++ quote :: rest)) = .ok (.ofList (unescapeChars raw), rest) := by
  unfold readValue
  rcases hquote with rfl | rfl
  · simp only [decide_true, Bool.true_or, if_true, h]
  · simp only [decide_true, Bool.or_true, if_true, h]

/-! ## Attributes -/

/-- The characters of attributes with the given raw values. -/
def attributeChars (raw : Attributes) : List Char :=
  raw.flatMap fun (key, value) => ' ' :: (key.toList ++ '=' :: '"' :: (value.toList ++ ['"']))

@[simp] theorem attributeChars_nil : attributeChars [] = [] := rfl

/-- The attributes that raw values stand for. -/
def readRaw (raw : Attributes) : Attributes := raw.map fun (key, value) => (key, unescape value)

/-- Attributes that are read back: their keys are names, no key is repeated, and the raw values are
quotable. -/
structure AreReadable (raw : Attributes) : Prop where
  /-- The keys are names. -/
  names : ∀ a ∈ raw, IsName a.1
  /-- No key is repeated. -/
  distinct : (raw.map Prod.fst).Nodup
  /-- The raw values are quotable. -/
  quotable : ∀ a ∈ raw, IsQuotable a.2.toList

theorem areReadable_nil : AreReadable [] := ⟨by simp, by simp, by simp⟩

theorem isBlankRun_space : IsBlankRun [' '] := isBlankRun_cons.2 ⟨by decide, isBlankRun_nil⟩

/-- An attribute is read with any blanks around its equals sign and either kind of quote. -/
theorem readAttribute_append {key : String} {before after : List Char} (hk : IsName key)
    (hbefore : IsBlankRun before) (hafter : IsBlankRun after) (hquote : quote = '"' ∨ quote = '\'')
    (h : splitAtQuote? quote (raw ++ quote :: rest) = some (raw, rest)) :
    readAttribute (key.toList ++ (before ++ '=' :: (after ++ quote :: (raw ++ quote :: rest)))) =
      .ok ((key, .ofList (unescapeChars raw)), rest) := by
  have hblank : isBlank quote = false := by rcases hquote with rfl | rfl <;> decide
  unfold readAttribute
  rw [readName_append hk (head?_blanks_append hbefore (by rfl))]
  simp only [skipBlanks_append hbefore, skipBlanks_cons (c := '=') (by decide)]
  rw [skipBlanks_append hafter, skipBlanks_cons hblank, readValue_append hquote h]

variable {gap : List Char} {before : Attributes}

theorem readAttributes_closed (hgap : IsBlankRun gap) (start : List Char) (name : String)
    (before : Attributes) (rest : List Char) :
    readAttributes start name before (gap ++ '/' :: '>' :: rest) = .ok ((before, true), rest) := by
  rw [readAttributes]
  simp only [skipBlanks_append hgap, skipBlanks_cons (c := '/') (by decide)]

theorem readAttributes_opened (hgap : IsBlankRun gap) (start : List Char) (name : String)
    (before : Attributes) (rest : List Char) :
    readAttributes start name before (gap ++ '>' :: rest) = .ok ((before, false), rest) := by
  rw [readAttributes]
  simp only [skipBlanks_append hgap, skipBlanks_cons (c := '>') (by decide)]

/-- Where the tag does not end, an attribute is read. -/
theorem readAttributes_of_ne (hclosed : ∀ rest, skipBlanks cs ≠ '/' :: '>' :: rest)
    (hopened : ∀ rest, skipBlanks cs ≠ '>' :: rest) (hend : skipBlanks cs ≠ []) (start : List Char)
    (name : String) (before : Attributes) :
    readAttributes start name before cs =
      match readAttribute (skipBlanks cs) with
      | .error f => .error f
      | .ok (a, rest) =>
        if before.any (·.1 == a.1) then .error ⟨.duplicateAttribute a.1, skipBlanks cs⟩
        else readAttributes start name (before ++ [a]) rest := by
  conv => lhs; rw [readAttributes]
  split
  · exact absurd ‹_› (hclosed _)
  · exact absurd ‹_› (hopened _)
  · exact absurd ‹_› hend
  · split <;> rename_i hread <;> simp only [hread]

/-- Reading an attribute that is not a repetition goes on with the attributes behind it. -/
theorem readAttributes_cons {key value : String} (hk : IsName key) (hgap : IsBlankRun gap)
    (hread : readAttribute (key.toList ++ cs) = .ok ((key, value), rest))
    (hb : key ∉ before.map Prod.fst) (start : List Char) (name : String) :
    readAttributes start name before (gap ++ (key.toList ++ cs)) =
      readAttributes start name (before ++ [(key, value)]) rest := by
  obtain ⟨c, _, hkey, -, hc⟩ := hk.exists_cons
  have hskip := skipBlanks_name hgap hk cs
  have hany : before.any (·.1 == key) = false := by
    simp only [List.any_eq_false, beq_iff_eq]
    intro a ha he
    exact hb (he ▸ List.mem_map_of_mem ha)
  -- The key starts with a character of a name, so the tag does not end here.
  have hhead : ∀ d t, skipBlanks (gap ++ (key.toList ++ cs)) = d :: t → isNameChar d = true := by
    intro d t heq
    rw [hskip, hkey, List.cons_append] at heq
    rw [← (List.cons.inj heq).1, hc]
  rw [readAttributes_of_ne (fun _ heq => absurd (hhead _ _ heq) (by decide))
    (fun _ heq => absurd (hhead _ _ heq) (by decide)) (by rw [hskip, hkey]; simp)]
  simp only [hskip, hread, hany, Bool.false_eq_true, if_false]

/-- Reading attributes keeps those that were read before in front. -/
theorem prefix_of_readAttributes {start r : List Char}
    {a : Attributes × Bool} (h : readAttributes start name before cs = .ok (a, r)) :
    before <+: a.1 := by
  fun_induction readAttributes start name before cs generalizing a with
  | case1 =>
    obtain ⟨rfl, -⟩ := Prod.mk.inj (Except.ok.inj h)
    exact List.prefix_rfl
  | case2 =>
    obtain ⟨rfl, -⟩ := Prod.mk.inj (Except.ok.inj h)
    exact List.prefix_rfl
  | case3 => simp at h
  | case4 => simp at h
  | case5 => simp at h
  | case6 before cs a' rest ha _ _ _ _ ih => exact (List.prefix_append _ _).trans (ih h)

/-- An attribute that has been read is no repetition of those behind it. -/
theorem notMem_keys_append {attributes before : Attributes} {key : String}
    (hkey : key ∉ attributes.map Prod.fst) (hb : ∀ a ∈ attributes, a.1 ∉ before.map Prod.fst)
    (value : String) : ∀ a ∈ attributes, a.1 ∉ (before ++ [(key, value)]).map Prod.fst := by
  intro a ha hm
  rw [List.map_append, List.mem_append, List.map_singleton, List.mem_singleton] at hm
  rcases hm with hm | hm
  · exact hb a ha hm
  · exact hkey (List.mem_map.2 ⟨a, ha, hm⟩)

theorem readAttributes_append {raw before : Attributes} (h : AreReadable raw)
    (hb : ∀ a ∈ raw, a.1 ∉ before.map Prod.fst) (start : List Char) (name : String)
    (rest : List Char) :
    readAttributes start name before (attributeChars raw ++ rest) =
      readAttributes start name (before ++ readRaw raw) rest := by
  induction raw generalizing before with
  | nil => simp [attributeChars, readRaw]
  | cons a raw ih =>
    obtain ⟨key, value⟩ := a
    have hdistinct := List.nodup_cons.1 h.distinct
    have htail : AreReadable raw :=
      ⟨fun a ha => h.names a (List.mem_cons_of_mem _ ha), hdistinct.2,
        fun a ha => h.quotable a (List.mem_cons_of_mem _ ha)⟩
    have hkey : IsName key := h.names _ List.mem_cons_self
    have hread : readAttribute (key.toList ++ ([] ++ '=' :: ([] ++
        '"' :: (value.toList ++ '"' :: (attributeChars raw ++ rest))))) =
          .ok ((key, unescape value), attributeChars raw ++ rest) :=
      readAttribute_append hkey isBlankRun_nil isBlankRun_nil (.inl rfl)
        (h.quotable _ List.mem_cons_self _)
    have hstep := readAttributes_cons hkey isBlankRun_space hread
      (hb _ List.mem_cons_self) start name
    have hb' := notMem_keys_append hdistinct.1
      (fun a ha => hb a (List.mem_cons_of_mem _ ha)) (unescape value)
    have hchars : attributeChars ((key, value) :: raw) ++ rest = [' '] ++ (key.toList ++ ([] ++
        '=' :: ([] ++ '"' :: (value.toList ++ '"' :: (attributeChars raw ++ rest))))) := by
      simp [attributeChars]
    rw [hchars, hstep, ih htail hb']
    simp [readRaw]

/-! ## Start tags and end tags -/

theorem head?_attributeChars_append {raw : Attributes} (hrest : rest.head?.all (!isNameChar ·)) :
    (attributeChars raw ++ rest).head?.all (!isNameChar ·) = true := by
  cases raw with
  | nil => exact hrest
  | cons a raw => rfl

/-- A start tag is its name and what its attributes are read as. -/
theorem readStartTag_append {attributes : Attributes} {closed : Bool} {start : List Char}
    (hn : IsName name) (hs : cs.head?.all (!isNameChar ·) = true)
    (h : readAttributes start name [] cs = .ok ((attributes, closed), rest)) :
    readStartTag start (name.toList ++ cs) = .ok (⟨name, attributes, closed⟩, rest) := by
  unfold readStartTag
  rw [readName_append hn hs]
  dsimp only
  rw [h]

theorem readStartTag_closed {raw : Attributes} (hn : IsName name) (h : AreReadable raw)
    (start rest : List Char) :
    readStartTag start (name.toList ++ (attributeChars raw ++ ' ' :: '/' :: '>' :: rest)) =
      .ok (⟨name, readRaw raw, true⟩, rest) := by
  refine readStartTag_append hn (head?_attributeChars_append (by rfl)) ?_
  rw [readAttributes_append h (by simp), ← List.singleton_append,
    readAttributes_closed isBlankRun_space, List.nil_append]

theorem readStartTag_opened {raw : Attributes} (hn : IsName name) (h : AreReadable raw)
    (start rest : List Char) :
    readStartTag start (name.toList ++ (attributeChars raw ++ '>' :: rest)) =
      .ok (⟨name, readRaw raw, false⟩, rest) := by
  refine readStartTag_append hn (head?_attributeChars_append (by rfl)) ?_
  rw [readAttributes_append h (by simp)]
  exact readAttributes_opened isBlankRun_nil _ _ _ _

/-- An end tag is read with any blanks behind its name. -/
theorem readEndTag_append (hn : IsName name) (hgap : IsBlankRun gap) (start rest : List Char) :
    readEndTag start (name.toList ++ (gap ++ '>' :: rest)) = .ok (name, rest) := by
  unfold readEndTag
  rw [readName_append hn (head?_blanks_append hgap (by rfl))]
  simp only [skipBlanks_append hgap, skipBlanks_cons (c := '>') (by decide)]

end GatewayPolicy.Xml
