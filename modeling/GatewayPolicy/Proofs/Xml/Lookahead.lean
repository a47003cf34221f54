import GatewayPolicy.Proofs.Xml.Loops
import GatewayPolicy.Proofs.Xml.WellFormed
/-!
# More input

What stands behind the part of a document that the reader has read does not matter, with one
exception: where an expression may start the reader looks for its end, however far away that is. So
more input changes what is read only if it closes an expression that was not closed before. Then the
text or the value that the expression stands in goes on into it.

There are two laws for each part of a document, from texts and values up to tokens: with `s` behind
the input, the part is read as it was if `s` completes no expression in it, and it is read as another
one if `s` does.
-/

namespace GatewayPolicy.Xml

open Text

variable {cs r rest start : List Char} {c quote : Char} {name : String} {e piece mark : List Char}
  {construct : Construct}

/-! ## Names and marks -/

theorem skipBlanks_append_right (h : skipBlanks cs = c :: r) (s : List Char) :
    skipBlanks (cs ++ s) = c :: (r ++ s) := by
  unfold skipBlanks at h ⊢
  rw [List.dropWhile_append, h]
  rfl

theorem skipBlanks_append_of_ne_nil (h : skipBlanks cs ≠ []) (s : List Char) :
    skipBlanks (cs ++ s) = skipBlanks cs ++ s := by
  obtain ⟨c, r, hr⟩ := List.exists_cons_of_ne_nil h
  rw [skipBlanks_append_right hr, hr, List.cons_append]

theorem readName_append_right (h : readName cs = .ok (name, c :: r)) (s : List Char) :
    readName (cs ++ s) = .ok (name, c :: (r ++ s)) := by
  have hend : isNameChar c = false := by
    unfold readName at h
    dsimp only at h
    split at h
    · have hdrop := List.head?_dropWhile_not isNameChar cs
      rw [(Prod.mk.inj (Except.ok.inj h)).2] at hdrop
      simpa using hdrop
    · simp at h
  rw [← readName_split h, List.append_assoc, List.cons_append]
  exact readName_append (isName_of_readName h) (by simp [hend])

theorem splitAtFirst?_append_right (h : splitAtFirst? mark cs = some (piece, r)) (s : List Char) :
    splitAtFirst? mark (cs ++ s) = some (piece, r ++ s) := by
  induction cs generalizing piece with
  | nil => simp [splitAtFirst?] at h
  | cons c cs ih =>
    have hlength := length_of_splitAtFirst? h
    unfold splitAtFirst? at h
    rw [List.cons_append, splitAtFirst?]
    split at h
    · rename_i hprefix
      obtain ⟨rfl, rfl⟩ := Prod.mk.inj (Option.some.inj h)
      have hmark := List.isPrefixOf_iff_prefix.1 hprefix
      have hmark' := List.isPrefixOf_iff_prefix.2 (hmark.trans (List.prefix_append (c :: cs) s))
      rw [← List.cons_append, if_pos hmark', List.drop_append_of_le_length hmark.length_le]
    · rename_i hprefix
      obtain ⟨p, hsplit, heq⟩ := Option.map_eq_some_iff.1 h
      obtain ⟨rfl, rfl⟩ := Prod.mk.inj heq
      -- The mark is found later, so the input is long enough to tell that it is not found here.
      rw [if_neg, ih hsplit]
      · rfl
      · intro hp
        refine hprefix (List.isPrefixOf_iff_prefix.2 ?_)
        exact List.prefix_of_prefix_length_le (List.isPrefixOf_iff_prefix.1 hp)
          (List.prefix_append (c :: cs) s) (by omega)

theorem readConstruct_append_right (h : readConstruct construct mark cs = .ok (piece, r))
    (s : List Char) : readConstruct construct mark (cs ++ s) = .ok (piece, r ++ s) := by
  unfold readConstruct at h ⊢
  split at h
  · rename_i hparts
    obtain rfl := Except.ok.inj h
    rw [splitAtFirst?_append_right hparts]
  · simp at h

theorem readEndTag_append_right (h : readEndTag start cs = .ok (name, r)) (start' s : List Char) :
    readEndTag start' (cs ++ s) = .ok (name, r ++ s) := by
  unfold readEndTag at h
  split at h
  · simp at h
  · rename_i r' hname
    split at h
    · rename_i hskip
      obtain ⟨rfl, rfl⟩ := Prod.mk.inj (Except.ok.inj h)
      obtain ⟨c, r', rfl⟩ := List.exists_cons_of_ne_nil (l := r')
        (by rintro rfl; simp [skipBlanks] at hskip)
      unfold readEndTag
      rw [readName_append_right hname]
      simp only [← List.cons_append, skipBlanks_append_right hskip]
      rfl
    · simp at h

theorem skipDoctype?_append_right {n : Nat} (h : skipDoctype? n cs = some r) (s : List Char) :
    skipDoctype? n (cs ++ s) = some (r ++ s) := by
  induction cs generalizing n with
  | nil => simp [skipDoctype?] at h
  | cons c cs ih =>
    unfold skipDoctype? at h
    rw [List.cons_append, skipDoctype?]
    split at h
    · rw [if_pos ‹_›, ih h]
    · rw [if_neg ‹_›]
      split at h
      · rw [if_pos ‹_›, ih h]
      · rw [if_neg ‹_›]
        split at h
        · obtain rfl := Option.some.inj h
          rw [if_pos ‹_›]
        · rw [if_neg ‹_›, ih h]

theorem skipItem?_doctypeMark (t : List Char) :
    skipItem? (doctypeMark ++ t) = some (match skipDoctype? 0 (doctypeMark ++ t) with
      | some r => .ok r
      | none => .error ⟨.unterminatedDoctype, doctypeMark ++ t⟩) := by
  have hmark : doctypeMark.isPrefixOf (doctypeMark ++ t) = true :=
    List.isPrefixOf_iff_prefix.2 (List.prefix_append doctypeMark t)
  unfold skipItem?
  split
  · rename_i heq
    exact absurd (List.cons.inj (List.cons.inj heq).2).1 (by decide)
  · rename_i heq
    exact absurd (List.cons.inj (List.cons.inj (List.cons.inj heq).2).2).1 (by decide)
  · exact if_pos hmark

theorem skipItem?_append_right (h : skipItem? cs = some (.ok r)) (s : List Char) :
    skipItem? (cs ++ s) = some (.ok (r ++ s)) := by
  have part {construct : Construct} {mark cs : List Char}
      (h : (readConstruct construct mark cs).map Prod.snd = .ok r) :
      (readConstruct construct mark (cs ++ s)).map Prod.snd = .ok (r ++ s) := by
    cases hread : readConstruct construct mark cs with
    | error f =>
      rw [hread] at h
      cases h
    | ok p =>
      rw [hread] at h
      obtain rfl : p.2 = r := Except.ok.inj h
      rw [readConstruct_append_right hread]
      rfl
  unfold skipItem? at h
  split at h
  · exact congrArg some (part (Option.some.inj h))
  · exact congrArg some (part (Option.some.inj h))
  · rename_i hinstruction hcomment
    split at h
    · rename_i hmark
      split at h
      · rename_i hskip
        obtain rfl := Except.ok.inj (Option.some.inj h)
        obtain ⟨t, rfl⟩ := List.isPrefixOf_iff_prefix.1 hmark
        have hskip' := skipDoctype?_append_right hskip s
        rw [List.append_assoc] at hskip' ⊢
        rw [skipItem?_doctypeMark, hskip']
      · simp at h
    · simp at h

theorem skipMisc_congr {ds : List Char} (h : skipBlanks cs = skipBlanks ds) :
    skipMisc cs = skipMisc ds := by
  rw [skipMisc, skipMisc, h]

/-- What is skipped in front of an element is skipped, whatever follows. -/
theorem skipMisc_append_right (h : skipMisc cs = .ok r) (s : List Char) :
    skipMisc (cs ++ s) = skipMisc (r ++ s) := by
  fun_induction skipMisc cs with
  | case1 cs hitem =>
    obtain rfl := Except.ok.inj h
    refine skipMisc_congr ?_
    rw [← takeWhile_append_skipBlanks cs, List.append_assoc,
      skipBlanks_append (isBlankRun_takeWhile cs), takeWhile_append_skipBlanks]
  | case2 => cases h
  | case3 cs rest hitem ih =>
    have hne : skipBlanks cs ≠ [] := by
      intro hnil
      rw [hnil] at hitem
      simp [skipItem?, doctypeMark] at hitem
    have hitem' := skipItem?_append_right hitem s
    rw [← skipBlanks_append_of_ne_nil hne] at hitem'
    rw [skipMisc_of_skipItem? hitem', ih h]

/-! ## Places -/

/-- Where the reader asks whether an expression starts. -/
inductive Place where
  /-- In a text. -/
  | text (input : List Char)
  /-- Behind the opening quote of a value. -/
  | value (quote : Char) (input : List Char)

/-- The answer, if `s` follows the input. -/
def Place.expression? (s : List Char) : Place → Option (List Char × List Char)
  | text cs => scanExpression? (cs ++ s)
  | value quote cs => quotedExpression? quote (cs ++ s)

/-- The reader finds no expression at the place unless `s` follows. -/
def Place.IsCompletedBy (p : Place) (s : List Char) : Prop :=
  p.expression? [] = none ∧ (p.expression? s).isSome

instance (p : Place) (s : List Char) : Decidable (p.IsCompletedBy s) :=
  inferInstanceAs (Decidable (_ ∧ _))

section

variable {s : List Char}

theorem isCompletedBy_text_iff : (Place.text cs).IsCompletedBy s ↔
    scanExpression? cs = none ∧ ∃ x after, scanExpression? (cs ++ s) = some (x, after) := by
  simp [Place.IsCompletedBy, Place.expression?, Option.isSome_iff_exists]

theorem isCompletedBy_value_iff : (Place.value quote cs).IsCompletedBy s ↔
    quotedExpression? quote cs = none ∧
      ∃ x after, quotedExpression? quote (cs ++ s) = some (x, after) := by
  simp [Place.IsCompletedBy, Place.expression?, Option.isSome_iff_exists]

/-! ## Text -/

theorem areInStep_text (s r : List Char) :
    AreInStep textPass textPass (· ++ s) (fun cs => (Place.text cs).IsCompletedBy s) ('<' :: r)
      ('<' :: (r ++ s)) where
  goesOn {cs cs' _} hpass _ hopen := by
    unfold textPass at hpass
    split at hpass
    · cases hpass
    · rename_i c rest
      split at hpass
      · cases hpass
      · rename_i hc
        rw [List.cons_append, textPass]
        split at hpass
        · rename_i hscan
          obtain rfl := Pass.goesOn.inj hpass
          simp only [if_neg hc, ← List.cons_append, scanExpression?_append hscan]
        · rename_i hscan
          obtain rfl := Pass.goesOn.inj hpass
          have hnone : scanExpression? (c :: rest ++ s) = none := by
            simpa [isCompletedBy_text_iff, hscan, Option.eq_none_iff_forall_ne_some] using hopen
          simp only [if_neg hc, ← List.cons_append, hnone]
  ends {cs} hpass _ := by
    unfold textPass at hpass
    split at hpass
    · cases hpass
    · split at hpass
      · rw [Pass.ends.inj hpass]
        rfl
      · split at hpass <;> cases hpass

theorem readText_append_right (h : readText cs = (e, '<' :: r))
    (hopen : ∀ t, Reaches textPass cs t → ¬ (Place.text t).IsCompletedBy s) :
    readText (cs ++ s) = (e, '<' :: (r ++ s)) := by
  have hrest : (readText (cs ++ s)).2 = '<' :: (r ++ s) :=
    (areInStep_text s r).eq isSafeLoop_text repeats_text hopen (by rw [h])
  have hcs : e ++ '<' :: r = cs := by rw [← readText_split cs, h]
  have hsplit : (readText (cs ++ s)).1 ++ '<' :: (r ++ s) = e ++ '<' :: (r ++ s) := by
    calc (readText (cs ++ s)).1 ++ '<' :: (r ++ s)
        = (readText (cs ++ s)).1 ++ (readText (cs ++ s)).2 := by rw [hrest]
      _ = cs ++ s := readText_split (cs ++ s)
      _ = e ++ '<' :: (r ++ s) := by rw [← hcs, List.append_assoc, List.cons_append]
  exact Prod.ext (List.append_cancel_right hsplit) hrest

/-- A text with an expression that is completed by what follows ends in what follows. -/
theorem readText_suffix_of_isCompletedBy (h : (Place.text cs).IsCompletedBy s) :
    (readText (cs ++ s)).2 <:+ s := by
  obtain ⟨hnone, x, after, hscan⟩ := isCompletedBy_text_iff.1 h
  obtain ⟨w, rfl⟩ := prefix_of_scanExpression?_append hnone hscan
  have hafter : w ++ after = s := by
    have hsplit := scanExpression?_split hscan
    rw [List.append_assoc] at hsplit
    exact List.append_cancel_left hsplit
  rw [readText_expression hscan]
  have hrest : (readText after).2 <:+ after := ⟨_, readText_split after⟩
  exact hrest.trans ⟨w, hafter⟩

/-- The text goes on behind its end. -/
theorem exists_readText_append (h : readText cs = (e, '<' :: r))
    (hopen : ∃ t, Reaches textPass cs t ∧ (Place.text t).IsCompletedBy s) :
    ∃ w r', readText (cs ++ s) = (e ++ '<' :: w, r') := by
  obtain ⟨t, hcompleted, -, hrest⟩ :=
    (areInStep_text s r).exists_parts isSafeLoop_text repeats_text hopen (by rw [h])
  obtain ⟨u, hu⟩ := readText_suffix_of_isCompletedBy hcompleted
  rw [← hrest] at hu
  have hcs : e ++ '<' :: r = cs := by rw [← readText_split cs, h]
  have hsplit : (readText (cs ++ s)).1 ++ (readText (cs ++ s)).2 =
      (e ++ '<' :: (r ++ u)) ++ (readText (cs ++ s)).2 := by
    calc (readText (cs ++ s)).1 ++ (readText (cs ++ s)).2
        = cs ++ s := readText_split (cs ++ s)
      _ = (e ++ '<' :: r) ++ (u ++ (readText (cs ++ s)).2) := by rw [hu, hcs]
      _ = (e ++ '<' :: (r ++ u)) ++ (readText (cs ++ s)).2 := by simp
  exact ⟨r ++ u, (readText (cs ++ s)).2, Prod.ext (List.append_cancel_right hsplit) rfl⟩

/-! ## Values -/

theorem splitAtQuote?_append_right (h : splitAtQuote? quote cs = some (piece, r))
    (hopen : ¬ (Place.value quote cs).IsCompletedBy s) :
    splitAtQuote? quote (cs ++ s) = some (piece, r ++ s) := by
  have hcs : piece ++ quote :: (r ++ s) = cs ++ s := by
    rw [← splitAtQuote?_split h, List.append_assoc, List.cons_append]
  -- An expression in front of a quote stays one, and anything else is cut at the first quote.
  cases hquoted : quotedExpression? quote cs with
  | some parts =>
    have hsplit := h
    rw [splitAtQuote?, hquoted] at hsplit
    obtain rfl := Option.some.inj hsplit
    have hexpression := (quotedExpression?_eq_some_iff.1 hquoted).1
    rw [splitAtQuote?, quotedExpression?_eq_some_iff.2 ⟨hexpression, hcs⟩]
  | none =>
    have hnone : quotedExpression? quote (cs ++ s) = none := by
      simpa [isCompletedBy_value_iff, hquoted, Option.eq_none_iff_forall_ne_some] using hopen
    rw [← hcs] at hnone ⊢
    exact splitAtQuote?_of_notMem (notMem_of_splitAtQuote? hquoted h) hnone

/-- The value goes on behind its closing quote. -/
theorem exists_splitAtQuote?_append (h : splitAtQuote? quote cs = some (piece, r))
    (hopen : (Place.value quote cs).IsCompletedBy s) :
    ∃ w r', splitAtQuote? quote (cs ++ s) = some (piece ++ quote :: w, r') := by
  obtain ⟨hnone, raw, r', hquoted⟩ := isCompletedBy_value_iff.1 hopen
  have hsplit : splitAtQuote? quote (cs ++ s) = some (raw, r') := by rw [splitAtQuote?, hquoted]
  obtain ⟨hexpression, hraw⟩ := quotedExpression?_eq_some_iff.1 hquoted
  have hcs := splitAtQuote?_split h
  have hpiece := notMem_of_splitAtQuote? hnone h
  -- The expression is no part of the value that was read, and it is not that value either.
  have hne : raw ≠ piece := by
    rintro rfl
    rw [quotedExpression?_eq_some_iff.2 ⟨hexpression, hcs⟩] at hnone
    cases hnone
  rw [← hcs, List.append_assoc, List.cons_append] at hraw
  rcases List.append_eq_append_iff.1 hraw with ⟨w, hw, htail⟩ | ⟨w, hw, htail⟩
  · cases w with
    | nil => exact absurd (by simpa using hw.symm) hne
    | cons d w =>
      obtain ⟨rfl, -⟩ := List.cons.inj htail
      exact absurd (by simp [hw]) hpiece
  · cases w with
    | nil => exact absurd (by simpa using hw) hne
    | cons d w =>
      obtain ⟨rfl, -⟩ := List.cons.inj htail
      exact ⟨w, r', hw ▸ hsplit⟩

/-! ## Attributes -/

/-- The input is the name of an attribute, an equals sign and an opening quote, with blanks around
the sign, and `rest` behind the quote. -/
inductive OpensValue : List Char → String → Char → List Char → Prop
  | mk {cs r r' rest : List Char} {name : String} {quote : Char}
      (hname : readName cs = .ok (name, r)) (hsign : skipBlanks r = '=' :: r')
      (hquote : skipBlanks r' = quote :: rest) (h : quote = '"' ∨ quote = '\'') :
      OpensValue cs name quote rest

theorem OpensValue.append_right (h : OpensValue cs name quote rest) (s : List Char) :
    OpensValue (cs ++ s) name quote (rest ++ s) := by
  cases h with
  | @mk r r' _ _ _ hname hsign hquote hq =>
    obtain ⟨c, r, rfl⟩ := List.exists_cons_of_ne_nil (l := r)
      (by rintro rfl; simp [skipBlanks] at hsign)
    exact ⟨readName_append_right hname s, skipBlanks_append_right hsign s,
      skipBlanks_append_right hquote s, hq⟩

/-- An attribute is what is behind its quote up to the closing quote. -/
theorem OpensValue.readAttribute (h : OpensValue cs name quote rest)
    (hsplit : splitAtQuote? quote rest = some (piece, r)) :
    readAttribute cs = .ok ((name, .ofList (unescapeChars piece)), r) := by
  obtain ⟨hname, hsign, hquote, hq⟩ := h
  have hvalue := readValue_append hq (splitAtQuote?_split hsplit ▸ hsplit)
  rw [splitAtQuote?_split hsplit] at hvalue
  simp only [Xml.readAttribute, hname, hsign, hquote, hvalue]

theorem exists_opensValue {a : String × String} (h : readAttribute cs = .ok (a, r)) :
    ∃ quote rest piece, OpensValue cs a.1 quote rest ∧
      splitAtQuote? quote rest = some (piece, r) ∧ a.2 = .ofList (unescapeChars piece) := by
  unfold readAttribute at h
  split at h
  · simp at h
  · rename_i hname
    split at h
    · rename_i r₁ _ r₂ hsign
      split at h
      · simp at h
      · rename_i hvalue
        obtain ⟨rfl, rfl⟩ := Prod.mk.inj (Except.ok.inj h)
        unfold readValue at hvalue
        split at hvalue
        · simp at hvalue
        · rename_i quote rest hquote
          split at hvalue
          · rename_i hq
            split at hvalue
            · rename_i hsplit
              obtain ⟨rfl, rfl⟩ := Prod.mk.inj (Except.ok.inj hvalue)
              exact ⟨quote, rest, _, ⟨hname, hsign, hquote, by simpa using hq⟩, hsplit, rfl⟩
            · simp at hvalue
          · simp at hvalue
    · simp at h

/-- In an attribute the reader asks for an expression right behind the opening quote. -/
inductive LooksInAttribute : List Char → Place → Prop
  | mk {cs rest : List Char} {name : String} {quote : Char} (h : OpensValue cs name quote rest) :
      LooksInAttribute cs (.value quote rest)

theorem OpensValue.unique {name' : String} {quote' : Char} {rest' : List Char}
    (h : OpensValue cs name quote rest) (h' : OpensValue cs name' quote' rest') :
    name = name' ∧ quote = quote' ∧ rest = rest' := by
  obtain ⟨hname, hsign, hquote, -⟩ := h
  obtain ⟨hname', hsign', hquote', -⟩ := h'
  rw [hname] at hname'
  obtain ⟨rfl, rfl⟩ := Prod.mk.inj (Except.ok.inj hname')
  rw [hsign] at hsign'
  obtain rfl := (List.cons.inj hsign').2
  rw [hquote] at hquote'
  obtain ⟨rfl, rfl⟩ := List.cons.inj hquote'
  exact ⟨rfl, rfl, rfl⟩

theorem OpensValue.quote_mem (h : OpensValue cs name quote rest) : quote ∈ boundaries := by
  obtain ⟨-, -, -, hq⟩ := h
  rcases hq with rfl | rfl <;> decide

/-- Text that goes on behind a character that no reference holds is read as another text. -/
theorem unescapeChars_append_cons_ne (hc : c ∈ boundaries) (cs w : List Char) :
    String.ofList (unescapeChars (cs ++ c :: w)) ≠ String.ofList (unescapeChars cs) := by
  intro heq
  have hlength := congrArg List.length (String.ofList_injective heq)
  simp [unescapeChars_append_cons hc] at hlength

theorem readAttribute_append_right {a : String × String} (h : readAttribute cs = .ok (a, r))
    (hopen : ∀ p, LooksInAttribute cs p → ¬ p.IsCompletedBy s) :
    readAttribute (cs ++ s) = .ok (a, r ++ s) := by
  obtain ⟨quote, rest, piece, hopens, hsplit, hvalue⟩ := exists_opensValue h
  rw [(hopens.append_right s).readAttribute (splitAtQuote?_append_right hsplit (hopen _ ⟨hopens⟩)),
    ← hvalue]

/-- The attribute gets another value. -/
theorem exists_readAttribute_append {a : String × String} (h : readAttribute cs = .ok (a, r))
    (hopen : ∃ p, LooksInAttribute cs p ∧ p.IsCompletedBy s) :
    ∃ v r', readAttribute (cs ++ s) = .ok ((a.1, v), r') ∧ v ≠ a.2 := by
  obtain ⟨quote, rest, piece, hopens, hsplit, hvalue⟩ := exists_opensValue h
  obtain ⟨_, ⟨hopens'⟩, hcompleted⟩ := hopen
  obtain ⟨-, rfl, rfl⟩ := hopens.unique hopens'
  obtain ⟨w, r', hsplit'⟩ := exists_splitAtQuote?_append hsplit hcompleted
  refine ⟨_, r', (hopens.append_right s).readAttribute hsplit', ?_⟩
  rw [hvalue]
  exact unescapeChars_append_cons_ne hopens.quote_mem piece w

/-! ## Start tags -/

variable {before : Attributes} {a : String × String}

theorem OpensValue.head?_any (h : OpensValue cs name quote rest) :
    cs.head?.any isNameChar = true := by
  obtain ⟨hname, -, -, -⟩ := h
  obtain ⟨c, _, hkey, -, hc⟩ := (isName_of_readName hname).exists_cons
  rw [← readName_split hname, hkey]
  simpa using hc

/-- Where a name starts, the tag does not end. -/
theorem attributesPass_of_isNameChar {t : Attributes × List Char}
    (h : (skipBlanks t.2).head?.any isNameChar = true) (start : List Char) (name : String) :
    attributesPass start name t =
      match readAttribute (skipBlanks t.2) with
      | .error f => .ends (.error f)
      | .ok (a, rest) =>
        if t.1.any (·.1 == a.1) then .ends (.error ⟨.duplicateAttribute a.1, skipBlanks t.2⟩)
        else .goesOn (t.1 ++ [a], rest) := by
  unfold attributesPass
  split
  · rename_i heq
    simp [heq, isNameChar] at h
  · rename_i heq
    simp [heq, isNameChar] at h
  · rename_i heq
    simp [heq] at h
  · rfl

theorem attributesPass_of_readAttribute (h : readAttribute (skipBlanks cs) = .ok (a, r))
    (hnew : before.any (·.1 == a.1) = false) (start : List Char) (name : String) :
    attributesPass start name (before, cs) = .goesOn (before ++ [a], r) := by
  obtain ⟨_, _, _, hopens, -⟩ := exists_opensValue h
  rw [attributesPass_of_isNameChar hopens.head?_any]
  simp only [h, hnew, Bool.false_eq_true, if_false]

theorem exists_of_attributesPass {t t' : Attributes × List Char}
    (h : attributesPass start name t = .goesOn t') :
    ∃ a, readAttribute (skipBlanks t.2) = .ok (a, t'.2) ∧ t.1.any (·.1 == a.1) = false ∧
      t'.1 = t.1 ++ [a] := by
  unfold attributesPass at h
  split at h
  · cases h
  · cases h
  · cases h
  · split at h
    · cases h
    · rename_i hread
      split at h
      · cases h
      · rename_i hnew
        obtain rfl := Pass.goesOn.inj h
        exact ⟨_, hread, Bool.eq_false_iff.2 hnew, rfl⟩

theorem LooksInAttribute.attributesPass_ne {t : Attributes × List Char} {p : Place}
    (h : LooksInAttribute (skipBlanks t.2) p) (x : (Attributes × Bool) × List Char) :
    attributesPass start name t ≠ .ends (.ok x) := by
  obtain ⟨hopens⟩ := h
  rw [attributesPass_of_isNameChar hopens.head?_any]
  intro hpass
  split at hpass
  · cases hpass
  · split at hpass <;> cases hpass

theorem skipBlanks_append_of_readAttribute (h : readAttribute (skipBlanks cs) = .ok (a, r))
    (s : List Char) : skipBlanks (cs ++ s) = skipBlanks cs ++ s := by
  refine skipBlanks_append_of_ne_nil ?_ s
  intro hnil
  rw [hnil] at h
  cases h

/-- The value of the next attribute is completed to an expression by `s`. -/
def CompletesNext (s : List Char) (t : Attributes × List Char) : Prop :=
  ∃ p, LooksInAttribute (skipBlanks t.2) p ∧ p.IsCompletedBy s

theorem areInStep_attributes (start start' : List Char) (name : String) (s : List Char)
    (a : Attributes × Bool) (r : List Char) :
    AreInStep (attributesPass start name) (attributesPass start' name)
      (fun t => (t.1, t.2 ++ s)) (CompletesNext s) (.ok (a, r)) (.ok (a, r ++ s)) where
  goesOn {t t' _} hpass _ hopen := by
    obtain ⟨b, hread, hnew, ht'⟩ := exists_of_attributesPass hpass
    have hread' := readAttribute_append_right hread fun p hp hc => hopen ⟨p, hp, hc⟩
    rw [← skipBlanks_append_of_readAttribute hread] at hread'
    rw [attributesPass_of_readAttribute hread' hnew, ht']
  ends {t} hpass _ := by
    unfold attributesPass at hpass
    split at hpass
    · rename_i hskip
      cases hpass
      simp only [attributesPass, skipBlanks_append_right hskip, List.cons_append]
    · rename_i hskip
      cases hpass
      simp only [attributesPass, skipBlanks_append_right hskip]
    · cases hpass
    · split at hpass
      · cases hpass
      · split at hpass <;> cases hpass

theorem readAttributes_append_right {a : Attributes × Bool}
    (h : readAttributes start name before cs = .ok (a, r))
    (hopen : ∀ t, Reaches (attributesPass start name) (before, cs) t → ¬ CompletesNext s t)
    (start' : List Char) : readAttributes start' name before (cs ++ s) = .ok (a, r ++ s) :=
  (areInStep_attributes start start' name s a r).eq (isSafeLoop_attributes start name)
    (repeats_attributes start' name) hopen h

theorem ne_of_readAttributes_append {a a' : Attributes × Bool} {start' r' : List Char}
    (h : readAttributes start name before cs = .ok (a, r))
    (hopen : ∃ t, Reaches (attributesPass start name) (before, cs) t ∧ CompletesNext s t)
    (h' : readAttributes start' name before (cs ++ s) = .ok (a', r')) : a'.1 ≠ a.1 := by
  obtain ⟨t, ⟨p, hlooks, hcompleted⟩, ⟨n, hrun⟩, hresult⟩ :=
    (areInStep_attributes start start' name s a r).exists_parts (isSafeLoop_attributes start name)
      (repeats_attributes start' name) hopen h
  cases hrun with
  | ends hpass => exact absurd hpass (hlooks.attributesPass_ne _)
  | @goesOn _ t' _ _ hpass hr =>
    obtain ⟨b, hread, hnew, ht'⟩ := exists_of_attributesPass hpass
    obtain ⟨v, r₁, hread', hv⟩ := exists_readAttribute_append hread ⟨p, hlooks, hcompleted⟩
    rw [← skipBlanks_append_of_readAttribute hread] at hread'
    have hstep : attributesPass start' name (t.1, t.2 ++ s) = .goesOn (t.1 ++ [(b.1, v)], r₁) :=
      attributesPass_of_readAttribute hread' hnew start' name
    rw [(repeats_attributes start' name).eq_of_reaches (.single hstep)] at hresult
    -- Both results start with what was read before and one more attribute, with another value.
    have hprefix' := prefix_of_readAttributes (hresult.symm.trans h')
    have hprefix := prefix_of_readAttributes ((repeats_attributes start name).eq_of_runs hr)
    rw [ht'] at hprefix
    intro heq
    rw [heq] at hprefix'
    have hattributes := List.prefix_of_prefix_length_le hprefix' hprefix (by simp)
    have hb := List.append_cancel_left (hattributes.eq_of_length (by simp))
    exact hv (congrArg Prod.snd (List.cons.inj hb).1)

/-- In a start tag the reader asks at every attribute. -/
inductive LooksInTag : List Char → Place → Prop
  | mk {cs r : List Char} {name : String} {t : Attributes × List Char} {p : Place}
      (hname : readName cs = .ok (name, r))
      (hreach : Reaches (attributesPass ('<' :: cs) name) ([], r) t)
      (h : LooksInAttribute (skipBlanks t.2) p) : LooksInTag cs p

theorem readStartTag_eq_ok_iff {tag : StartTag} : readStartTag start cs = .ok (tag, r) ↔
    ∃ r', readName cs = .ok (tag.name, r') ∧
      readAttributes start tag.name [] r' = .ok ((tag.attributes, tag.closed), r) := by
  constructor
  · intro h
    unfold readStartTag at h
    split at h
    · simp at h
    · rename_i hname
      split at h
      · simp at h
      · rename_i hattributes
        obtain ⟨rfl, rfl⟩ := Prod.mk.inj (Except.ok.inj h)
        exact ⟨_, hname, hattributes⟩
  · rintro ⟨r', hname, hattributes⟩
    simp only [readStartTag, hname, hattributes]

theorem readName_append_of_readAttributes {a : Attributes × Bool} {r' : List Char}
    (hname : readName cs = .ok (name, r'))
    (h : readAttributes start name before r' = .ok (a, r)) (s : List Char) :
    readName (cs ++ s) = .ok (name, r' ++ s) := by
  cases r' with
  | nil =>
    have hlength := length_of_readAttributes h
    simp at hlength
  | cons c r' => exact readName_append_right hname s

theorem readStartTag_append_right {tag : StartTag} (h : readStartTag ('<' :: cs) cs = .ok (tag, r))
    (hopen : ∀ p, LooksInTag cs p → ¬ p.IsCompletedBy s) :
    readStartTag ('<' :: (cs ++ s)) (cs ++ s) = .ok (tag, r ++ s) := by
  obtain ⟨r', hname, hattributes⟩ := readStartTag_eq_ok_iff.1 h
  refine readStartTag_eq_ok_iff.2
    ⟨r' ++ s, readName_append_of_readAttributes hname hattributes s, ?_⟩
  refine readAttributes_append_right hattributes ?_ _
  rintro t hreach ⟨p, hlooks, hcompleted⟩
  exact hopen p ⟨hname, hreach, hlooks⟩ hcompleted

theorem ne_of_readStartTag_append {tag tag' : StartTag} {r' : List Char}
    (h : readStartTag ('<' :: cs) cs = .ok (tag, r))
    (hopen : ∃ p, LooksInTag cs p ∧ p.IsCompletedBy s)
    (h' : readStartTag ('<' :: (cs ++ s)) (cs ++ s) = .ok (tag', r')) :
    tag'.attributes ≠ tag.attributes := by
  obtain ⟨r₁, hname, hattributes⟩ := readStartTag_eq_ok_iff.1 h
  obtain ⟨r₂, hname', hattributes'⟩ := readStartTag_eq_ok_iff.1 h'
  rw [readName_append_of_readAttributes hname hattributes s] at hname'
  obtain ⟨hsame, rfl⟩ := Prod.mk.inj (Except.ok.inj hname')
  rw [← hsame] at hattributes'
  obtain ⟨p, ⟨hname'', hreach, hlooks⟩, hcompleted⟩ := hopen
  rw [hname] at hname''
  obtain ⟨rfl, rfl⟩ := Prod.mk.inj (Except.ok.inj hname'')
  exact ne_of_readAttributes_append hattributes ⟨_, hreach, p, hlooks, hcompleted⟩ hattributes'

/-! ## Tokens -/

/-- In a start tag the reader asks at its attributes, and in a text at every character outside of
expressions. -/
inductive LooksInToken : List Char → Place → Prop
  | tag {cs : List Char} {p : Place} (h : LooksInTag cs p) : LooksInToken ('<' :: cs) p
  | text {c : Char} {cs t : List Char} (hc : c ≠ '<') (hreach : Reaches textPass (c :: cs) t) :
      LooksInToken (c :: cs) (.text t)

/-- A text ends in front of markup or with the input. -/
theorem exists_of_readText_ne_nil (h : (readText cs).2 ≠ []) : ∃ r, (readText cs).2 = '<' :: r := by
  fun_induction readText cs with
  | case1 => exact absurd rfl h
  | case2 rest => exact ⟨rest, rfl⟩
  | case3 c rest _ e after hs t r hr ih =>
    rw [hr] at ih
    exact ih h
  | case4 c rest _ hs t r hr ih =>
    rw [hr] at ih
    exact ih h

theorem readToken_of_readName (hname : readName cs = .ok (name, r)) :
    readToken ('<' :: cs) = match readStartTag ('<' :: cs) cs with
      | .error f => .error f
      | .ok (tag, r) => .ok (.startTag tag, r) := by
  rw [← readName_split hname]
  exact readToken_name (isName_of_readName hname) r

variable {t t' : Token} {r' : List Char}

/-- At the end of the input a text is cut off, so something has to follow it. -/
theorem readToken_append_right (h : readToken cs = .ok (t, r))
    (htext : ∀ v, t = .text v → r ≠ []) (hopen : ∀ p, LooksInToken cs p → ¬ p.IsCompletedBy s) :
    readToken (cs ++ s) = .ok (t, r ++ s) := by
  unfold readToken at h
  split at h
  · split at h
    · simp at h
    · rename_i hread
      obtain ⟨rfl, rfl⟩ := Prod.mk.inj (Except.ok.inj h)
      simp only [List.cons_append, readToken, readEndTag_append_right hread]
  · split at h
    · simp at h
    · rename_i hread
      obtain ⟨rfl, rfl⟩ := Prod.mk.inj (Except.ok.inj h)
      simp only [List.cons_append, readToken, readComment, readConstruct_append_right hread]
  · split at h
    · simp at h
    · rename_i hread
      obtain ⟨rfl, rfl⟩ := Prod.mk.inj (Except.ok.inj h)
      simp only [List.cons_append, readToken, readCdata, readConstruct_append_right hread]
  · split at h
    · simp at h
    · rename_i hread
      obtain ⟨rfl, rfl⟩ := Prod.mk.inj (Except.ok.inj h)
      have hread := readConstruct_append_right hread s
      rw [List.cons_append, List.cons_append] at hread
      simp only [List.cons_append, readToken, readInstruction, hread]
  · split at h
    · simp at h
    · rename_i hread
      obtain ⟨rfl, rfl⟩ := Prod.mk.inj (Except.ok.inj h)
      have hread' := readStartTag_append_right hread fun p hp => hopen p (.tag hp)
      obtain ⟨_, hname, -⟩ := readStartTag_eq_ok_iff.1 hread'
      rw [List.cons_append, readToken_of_readName hname, hread']
  · rename_i hne
    obtain ⟨rfl, rfl⟩ := Prod.mk.inj (Except.ok.inj h)
    obtain ⟨r, hr⟩ := exists_of_readText_ne_nil (htext _ rfl)
    cases cs with
    | nil => simp [readText] at hr
    | cons c cs =>
      have hc : c ≠ '<' := fun hc => hne cs (by rw [hc])
      have hread := readText_append_right (Prod.ext rfl hr) fun u hu => hopen _ (.text hc hu)
      rw [List.cons_append, readToken_cons hc, ← List.cons_append, hread, hr, List.cons_append]

/-- Two start tags or two texts that are not the same. -/
inductive Token.StartsOther : Token → Token → Prop
  | tag {tag tag' : StartTag} (h : tag'.attributes ≠ tag.attributes) :
      StartsOther (.startTag tag) (.startTag tag')
  | text {v v' : String} (h : v' ≠ v) : StartsOther (.text v) (.text v')

theorem startsOther_of_readToken_append (h : readToken cs = .ok (t, r))
    (htext : ∀ v, t = .text v → r ≠ []) (hopen : ∃ p, LooksInToken cs p ∧ p.IsCompletedBy s)
    (h' : readToken (cs ++ s) = .ok (t', r')) : t.StartsOther t' := by
  obtain ⟨p, hlooks, hcompleted⟩ := hopen
  cases hlooks with
  | @tag cs _ hlooks =>
    obtain ⟨hname, -, -⟩ := id hlooks
    have hchars := readName_split hname
    rw [readToken_of_readName hname] at h
    split at h
    · simp at h
    · rename_i hread
      obtain ⟨rfl, rfl⟩ := Prod.mk.inj (Except.ok.inj h)
      obtain ⟨_, hname, hattributes⟩ := readStartTag_eq_ok_iff.1 hread
      rw [List.cons_append,
        readToken_of_readName (readName_append_of_readAttributes hname hattributes s)] at h'
      split at h'
      · simp at h'
      · rename_i hread'
        obtain ⟨rfl, rfl⟩ := Prod.mk.inj (Except.ok.inj h')
        exact .tag (ne_of_readStartTag_append hread ⟨p, hlooks, hcompleted⟩ hread')
  | text hc hreach =>
    rw [readToken_cons hc] at h
    obtain ⟨rfl, rfl⟩ := Prod.mk.inj (Except.ok.inj h)
    obtain ⟨r, hr⟩ := exists_of_readText_ne_nil (htext _ rfl)
    obtain ⟨w, r'', hread⟩ := exists_readText_append (Prod.ext rfl hr) ⟨_, hreach, hcompleted⟩
    rw [List.cons_append, readToken_cons hc, ← List.cons_append, hread] at h'
    obtain ⟨rfl, -⟩ := Prod.mk.inj (Except.ok.inj h')
    exact .text (unescapeChars_append_cons_ne (by decide) _ w)

end

end GatewayPolicy.Xml
