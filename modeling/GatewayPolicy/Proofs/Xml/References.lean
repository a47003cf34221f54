import Mathlib.Data.List.TakeWhile
import GatewayPolicy.Xml.Reference
/-!
# Character references, laws

Reading references undoes writing them, whatever follows in the input, and leaves alone what holds no
ampersand. A reference ends in a semicolon, so text without semicolons behind a written text cannot
change how the text is read.
-/

namespace GatewayPolicy.Xml

open Text

variable {s t rest : List Char} {c d : Char}

/-! ## One step -/

@[simp] theorem unescapeChars_nil : unescapeChars [] = [] := by
  simp [unescapeChars]

theorem unescapeChars_cons (h : c ≠ '&') (s : List Char) :
    unescapeChars (c :: s) = c :: unescapeChars s := by
  rw [unescapeChars, if_neg h]

theorem unescapeChars_reference (h : readReference? s = some (d, rest)) :
    unescapeChars ('&' :: s) = d :: unescapeChars rest := by
  rw [unescapeChars, if_pos rfl]
  split
  · rename_i d' rest' h'
    rw [h] at h'
    obtain ⟨rfl, rfl⟩ := Prod.mk.inj (Option.some.inj h')
    rfl
  · rename_i h'
    rw [h] at h'
    simp at h'

theorem unescapeChars_ampersand (h : readReference? s = none) :
    unescapeChars ('&' :: s) = '&' :: unescapeChars s := by
  rw [unescapeChars, if_pos rfl]
  split
  · rename_i h'
    rw [h] at h'
    simp at h'
  · rfl

/-! ## Text without references -/

theorem unescapeChars_append_of_notMem (h : '&' ∉ s) (t : List Char) :
    unescapeChars (s ++ t) = s ++ unescapeChars t := by
  induction s with
  | nil => rfl
  | cons c s ih =>
    have hc : c ≠ '&' := fun hc => h (hc ▸ List.mem_cons_self)
    rw [List.cons_append, unescapeChars_cons hc, ih (fun hs => h (List.mem_cons_of_mem c hs)),
      List.cons_append]

theorem unescapeChars_of_notMem (h : '&' ∉ s) : unescapeChars s = s := by
  simpa using unescapeChars_append_of_notMem h []

/-- A reference is found within the text that holds its semicolon. -/
theorem readReference?_append (ht : ';' ∉ t) (s : List Char) :
    readReference? (s ++ t) = (readReference? s).map fun (d, rest) => (d, rest ++ t) := by
  by_cases hs : ';' ∈ s
  · obtain ⟨before, after, rfl, hb⟩ := List.eq_append_cons_of_mem hs
    have hb' : ∀ c ∈ before, (c != ';') = true := by
      intro c hc
      have : c ≠ ';' := fun h => hb (h ▸ hc)
      simpa using this
    unfold readReference?
    rw [List.append_assoc, List.dropWhile_append_of_pos hb', List.dropWhile_append_of_pos hb',
      List.takeWhile_append_of_pos hb', List.takeWhile_append_of_pos hb']
    simp only [List.cons_append, List.dropWhile_cons, bne_self_eq_false, Bool.false_eq_true,
      if_false, List.takeWhile_cons, List.append_nil]
    split
    · cases decode? before <;> rfl
    · rfl
  · have hnone {u : List Char} (hu : ';' ∉ u) : u.dropWhile (· != ';') = [] := by
      rw [List.dropWhile_eq_nil_iff]
      intro c hc
      have : c ≠ ';' := fun h => hu (h ▸ hc)
      simpa using this
    have hst : ';' ∉ s ++ t := by
      rw [List.mem_append]
      rintro (h | h)
      · exact hs h
      · exact ht h
    unfold readReference?
    rw [hnone hs, hnone hst]
    rfl

/-- Text that holds no part of a reference can be cut off. -/
theorem unescapeChars_append_right (ht : ';' ∉ t) (ht' : '&' ∉ t) (s : List Char) :
    unescapeChars (s ++ t) = unescapeChars s ++ t := by
  fun_induction unescapeChars s with
  | case1 => exact unescapeChars_of_notMem ht'
  | case2 cs d rest h ih =>
    have h' : readReference? (cs ++ t) = some (d, rest ++ t) := by
      rw [readReference?_append ht, h]
      rfl
    rw [List.cons_append, unescapeChars_reference h', ih, List.cons_append]
  | case3 cs h ih =>
    have h' : readReference? (cs ++ t) = none := by
      rw [readReference?_append ht, h]
      rfl
    rw [List.cons_append, unescapeChars_ampersand h', ih, List.cons_append]
  | case4 c cs h ih => rw [List.cons_append, unescapeChars_cons h, ih, List.cons_append]

/-! ## What a reference is made of -/

/-- Reading references never lengthens a text. -/
theorem length_unescapeChars_le (cs : List Char) : (unescapeChars cs).length ≤ cs.length := by
  fun_induction unescapeChars cs with
  | case1 => rfl
  | case2 cs d rest h ih =>
    have hlt := length_of_readReference? h
    simp only [List.length_cons]
    omega
  | case3 cs h ih => simpa using ih
  | case4 c cs h ih => simpa using ih

theorem readDigits?_eq_none {base : Nat} (hbase : base ≤ 16) (hc : digitValue c = 16)
    (h : c ∈ s) : readDigits? base s = none := by
  have hdigit : isDigitOf base c = false := by
    rw [isDigitOf, hc, decide_eq_false_iff_not]
    omega
  rw [readDigits?, if_neg]
  rw [isNumeral, Bool.and_eq_true, not_and]
  intro _ hall
  rw [List.all_eq_true.1 hall _ h] at hdigit
  simp at hdigit

theorem readUnsigned?_eq_none {base : Nat} (hbase : base ≤ 16) (hc : digitValue c = 16)
    (hplus : c ≠ '+') (h : c ∈ s) (bound : Nat) : readUnsigned? base bound s = none := by
  unfold readUnsigned?
  split
  · dsimp only
    rw [readDigits?_eq_none hbase hc ((List.mem_cons.1 h).resolve_left hplus)]
    rfl
  · dsimp only
    rw [readDigits?_eq_none hbase hc h]
    rfl

/-- The characters that end a line, a text or a value; no reference holds one of them. -/
def boundaries : List Char := ['\n', '<', '"', '\'']

/-- No reference goes over the end of a line, of a text or of a value. -/
theorem decode?_eq_none (hc : c ∈ boundaries) (h : c ∈ s) : decode? s = none := by
  have hvalue : digitValue c = 16 ∧ c ≠ '+' ∧
      c ∉ ['a', 'm', 'p', 'l', 't', 'g', 'q', 'u', 'o', 's'] ∧
      c ∉ ['#', 'x', 'X'] := by
    simp only [boundaries, List.mem_cons, List.not_mem_nil, or_false] at hc
    rcases hc with rfl | rfl | rfl | rfl <;> decide
  obtain ⟨hvalue, hplus, hnames, hmarks⟩ := hvalue
  simp only [List.mem_cons, List.not_mem_nil, or_false, not_or] at hnames hmarks
  unfold decode?
  split
  all_goals try simp_all only [List.mem_cons, List.not_mem_nil, or_false, false_or]
  · rw [readUnsigned?_eq_none (by omega) hvalue hplus h]
    rfl
  · rw [readUnsigned?_eq_none (by omega) hvalue hplus h]
    rfl
  · rw [readUnsigned?_eq_none (by omega) hvalue hplus h]
    rfl

theorem readReference?_eq_none (h : ';' ∉ s) : readReference? s = none := by
  have hnone : s.dropWhile (· != ';') = [] := by
    refine List.dropWhile_eq_nil_iff.2 fun c hc => ?_
    have hne : c ≠ ';' := fun heq => h (heq ▸ hc)
    simpa using hne
  rw [readReference?, hnone]

theorem readReference?_append_semicolon {name : List Char} (h : ';' ∉ name) (rest : List Char) :
    readReference? (name ++ ';' :: rest) =
      if utf8Length name ≤ maxReference then (decode? name).map (·, rest) else none := by
  have hname : ∀ c ∈ name, (c != ';') = true := by
    intro c hc
    have hne : c ≠ ';' := fun heq => h (heq ▸ hc)
    simpa using hne
  unfold readReference?
  rw [List.dropWhile_append_of_pos hname, List.takeWhile_append_of_pos hname]
  simp

/-- A reference does not go over a character that no reference holds. -/
theorem readReference?_append_cons (hc : c ∈ boundaries) (s t : List Char) :
    readReference? (s ++ c :: t) = (readReference? s).map fun (d, rest) => (d, rest ++ c :: t) := by
  by_cases hs : ';' ∈ s
  · obtain ⟨name, after, rfl, hname⟩ := List.eq_append_cons_of_mem hs
    rw [List.append_assoc, List.cons_append, readReference?_append_semicolon hname,
      readReference?_append_semicolon hname]
    split
    · cases decode? name <;> rfl
    · rfl
  · rw [readReference?_eq_none hs]
    by_cases ht : ';' ∈ t
    · obtain ⟨between, after, rfl, hbetween⟩ := List.eq_append_cons_of_mem ht
      have hname : ';' ∉ s ++ c :: between := by
        have hne : ';' ≠ c := by rintro rfl; simp [boundaries] at hc
        simp [hs, hne, hbetween]
      have hsplit : s ++ c :: (between ++ ';' :: after) = (s ++ c :: between) ++ ';' :: after := by
        simp
      rw [hsplit, readReference?_append_semicolon hname, decode?_eq_none hc (by simp)]
      simp
    · refine readReference?_eq_none ?_
      have hne : ';' ≠ c := by rintro rfl; simp [boundaries] at hc
      simp [hs, hne, ht]

/-- References are read on either side of a character that no reference holds. -/
theorem unescapeChars_append_cons (hc : c ∈ boundaries) (s t : List Char) :
    unescapeChars (s ++ c :: t) = unescapeChars s ++ c :: unescapeChars t := by
  fun_induction unescapeChars s with
  | case1 => exact unescapeChars_cons (by rintro rfl; simp [boundaries] at hc) t
  | case2 s d rest h ih =>
    have h' : readReference? (s ++ c :: t) = some (d, rest ++ c :: t) := by
      rw [readReference?_append_cons hc, h]
      rfl
    rw [List.cons_append, unescapeChars_reference h', ih, List.cons_append]
  | case3 s h ih =>
    have h' : readReference? (s ++ c :: t) = none := by
      rw [readReference?_append_cons hc, h]
      rfl
    rw [List.cons_append, unescapeChars_ampersand h', ih, List.cons_append]
  | case4 d s h ih => rw [List.cons_append, unescapeChars_cons h, ih, List.cons_append]

/-! ## What is written -/

@[simp] theorem escapeChars_cons (c : Char) (s : List Char) :
    escapeChars (c :: s) = attributeForm c ++ escapeChars s := by
  simp [escapeChars]

@[simp] theorem escapeTextChars_cons (c : Char) (s : List Char) :
    escapeTextChars (c :: s) = textForm c ++ escapeTextChars s := by
  simp [escapeTextChars]

@[simp] theorem escapeChars_nil : escapeChars [] = [] := rfl

@[simp] theorem escapeTextChars_nil : escapeTextChars [] = [] := rfl

@[simp] theorem escapeTextChars_append (s t : List Char) :
    escapeTextChars (s ++ t) = escapeTextChars s ++ escapeTextChars t := by
  simp [escapeTextChars]

@[simp] theorem toList_escape (s : String) : (escape s).toList = escapeChars s.toList := by
  simp [escape]

@[simp] theorem toList_escapeText (s : String) :
    (escapeText s).toList = escapeTextChars s.toList := by
  simp [escapeText]

/-- A name with a meaning and a semicolon make up a reference. -/
theorem readReference?_name {name : List Char} (hd : decode? name = some d)
    (hl : utf8Length name ≤ maxReference) (hn : name.all (· != ';') = true) (t : List Char) :
    readReference? (name ++ ';' :: t) = some (d, t) := by
  have hn' : ∀ c ∈ name, (c != ';') = true := fun c hc => List.all_eq_true.1 hn c hc
  unfold readReference?
  rw [List.dropWhile_append_of_pos hn', List.takeWhile_append_of_pos hn']
  simp [hl, hd]

/-- A written character reads as itself. -/
theorem unescapeChars_attributeForm (c : Char) (t : List Char) :
    unescapeChars (attributeForm c ++ t) = c :: unescapeChars t := by
  have reference {n : List Char} {d : Char} (hd : decode? n = some d)
      (hl : utf8Length n ≤ maxReference) (hn : n.all (· != ';') = true) :
      unescapeChars ('&' :: (n ++ ';' :: t)) = d :: unescapeChars t :=
    unescapeChars_reference (readReference?_name hd hl hn t)
  unfold attributeForm
  split
  · exact reference (n := ['a', 'm', 'p']) rfl (by decide) rfl
  · exact reference (n := ['l', 't']) rfl (by decide) rfl
  · exact reference (n := ['g', 't']) rfl (by decide) rfl
  · exact reference (n := ['q', 'u', 'o', 't']) rfl (by decide) rfl
  · exact reference (n := ['a', 'p', 'o', 's']) rfl (by decide) rfl
  · rename_i h _ _ _ _
    exact unescapeChars_cons h t

/-- In element text quotes are written as they are. -/
theorem textForm_eq (c : Char) :
    textForm c = attributeForm c ∨ (c = '"' ∨ c = '\'') ∧ textForm c = [c] := by
  unfold textForm attributeForm
  split
  · exact .inl rfl
  · exact .inl rfl
  · exact .inl rfl
  · split
    · contradiction
    · contradiction
    · contradiction
    · exact .inr ⟨.inl rfl, rfl⟩
    · exact .inr ⟨.inr rfl, rfl⟩
    · exact .inl rfl

theorem unescapeChars_textForm (c : Char) (t : List Char) :
    unescapeChars (textForm c ++ t) = c :: unescapeChars t := by
  rcases textForm_eq c with h | ⟨hc, h⟩
  · rw [h, unescapeChars_attributeForm]
  · rw [h, List.singleton_append, unescapeChars_cons (by rcases hc with rfl | rfl <;> decide)]

/-- Reading undoes writing, whatever follows. -/
theorem unescapeChars_escapeChars_append (s t : List Char) :
    unescapeChars (escapeChars s ++ t) = s ++ unescapeChars t := by
  induction s with
  | nil => rfl
  | cons c s ih =>
    rw [escapeChars_cons, List.append_assoc, unescapeChars_attributeForm, ih, List.cons_append]

theorem unescapeChars_escapeTextChars_append (s t : List Char) :
    unescapeChars (escapeTextChars s ++ t) = s ++ unescapeChars t := by
  induction s with
  | nil => rfl
  | cons c s ih =>
    rw [escapeTextChars_cons, List.append_assoc, unescapeChars_textForm, ih, List.cons_append]

theorem unescapeChars_escapeChars (s : List Char) : unescapeChars (escapeChars s) = s := by
  simpa using unescapeChars_escapeChars_append s []

theorem unescapeChars_escapeTextChars (s : List Char) :
    unescapeChars (escapeTextChars s) = s := by
  simpa using unescapeChars_escapeTextChars_append s []

/-! ## Characters of written text -/

/-- A character that no reference is made of and that is not reserved stands in written text only
where it stood in the text. -/
theorem mem_of_mem_escapeChars (hr : d ∉ ['&', '<', '>', '"', '\''])
    (hd : d ∉ ['a', 'm', 'p', 'l', 't', 'g', 'q', 'u', 'o', 's', ';'])
    (h : d ∈ escapeChars s) : d ∈ s := by
  obtain ⟨c, hc, hdc⟩ := List.mem_flatMap.1 h
  unfold attributeForm at hdc
  split at hdc <;> simp_all

/-- A written attribute value holds no quote and no angle bracket. -/
theorem notMem_escapeChars (hd : d ∈ ['<', '>', '"', '\'']) : d ∉ escapeChars s := by
  intro h
  obtain ⟨c, hc, hdc⟩ := List.mem_flatMap.1 h
  unfold attributeForm at hdc
  split at hdc <;> simp_all
  all_goals rcases hd with rfl | rfl | rfl | rfl <;> simp_all

/-! ## References in written text -/

/-- The references of the five reserved characters. -/
def predefinedReferences : List String := ["&amp;", "&lt;", "&gt;", "&quot;", "&apos;"]

/-- A reserved character is written as one of the references, any other as itself. -/
theorem attributeForm_cases (c : Char) :
    (∃ ref ∈ predefinedReferences, attributeForm c = ref.toList) ∨
      c ≠ '&' ∧ attributeForm c = [c] := by
  unfold attributeForm
  split
  · exact .inl ⟨"&amp;", by decide, rfl⟩
  · exact .inl ⟨"&lt;", by decide, rfl⟩
  · exact .inl ⟨"&gt;", by decide, rfl⟩
  · exact .inl ⟨"&quot;", by decide, rfl⟩
  · exact .inl ⟨"&apos;", by decide, rfl⟩
  · rename_i h _ _ _ _
    exact .inr ⟨h, rfl⟩

theorem suffix_of_notMem {u : List Char} (h : c ∉ u) (hs : c :: s <:+ u ++ t) : c :: s <:+ t := by
  induction u with
  | nil => exact hs
  | cons d u ih =>
    rw [List.mem_cons, not_or] at h
    rw [List.cons_append, List.suffix_cons_iff] at hs
    rcases hs with heq | hs
    · exact absurd (List.cons.inj heq).1 h.1
    · exact ih h.2 hs

/-- An ampersand in written text starts a reference. -/
theorem exists_reference_of_suffix (h : '&' :: t <:+ escapeChars s) :
    ∃ ref ∈ predefinedReferences, ref.toList <+: '&' :: t := by
  induction s with
  | nil => simp at h
  | cons c s ih =>
    rw [escapeChars_cons] at h
    rcases attributeForm_cases c with ⟨ref, href, hform⟩ | ⟨hc, hform⟩
    · have hmade : ∀ ref ∈ predefinedReferences,
          ref.toList = '&' :: ref.toList.tail ∧ '&' ∉ ref.toList.tail := by decide
      obtain ⟨hstart, htail⟩ := hmade ref href
      rw [hform, hstart, List.cons_append, List.suffix_cons_iff, ← List.cons_append, ← hstart] at h
      rcases h with hhere | hlater
      · exact ⟨ref, href, hhere ▸ List.prefix_append ref.toList _⟩
      · exact ih (suffix_of_notMem htail hlater)
    · have hne : '&' ∉ [c] := fun hmem => hc (List.mem_singleton.1 hmem).symm
      exact ih (suffix_of_notMem hne (hform ▸ h))

/-- Reading undoes writing, whatever follows, and what is written in an attribute value holds no
reserved character but the ampersands of its references. -/
theorem unescape_escape_append (s t : String) :
    unescape (escape s ++ t) = s ++ unescape t ∧ unescape (escapeText s ++ t) = s ++ unescape t ∧
      (∀ c ∈ ['<', '>', '"', '\''], c ∉ (escape s).toList) ∧
      ∀ tail, '&' :: tail <:+ (escape s).toList →
        ∃ ref ∈ predefinedReferences, ref.toList <+: '&' :: tail := by
  refine ⟨?_, ?_, fun c hc => ?_, fun tail htail => ?_⟩
  · rw [unescape, String.toList_append, toList_escape, unescapeChars_escapeChars_append,
      String.ofList_append, String.ofList_toList, unescape]
  · rw [unescape, String.toList_append, toList_escapeText, unescapeChars_escapeTextChars_append,
      String.ofList_append, String.ofList_toList, unescape]
  · rw [toList_escape]
    exact notMem_escapeChars hc
  · rw [toList_escape] at htail
    exact exists_reference_of_suffix htail

/-- A text that reads like a reference, in front of the end of another one. -/
theorem unescape_escape_append_nestedReference :
    unescape (escape "&lt" ++ ";") = "&lt;" ∧ '<' ∉ (escape "&lt").toList ∧
      '&' :: "amp;lt".toList <:+ (escape "&lt").toList ∧
      ∃ ref ∈ predefinedReferences, ref.toList <+: '&' :: "amp;lt".toList := by
  obtain ⟨hread, -, hmarkup, hreference⟩ := unescape_escape_append "&lt" ";"
  have htail : '&' :: "amp;lt".toList <:+ (escape "&lt").toList := ⟨[], by decide⟩
  refine ⟨?_, hmarkup '<' (by decide), htail, hreference _ htail⟩
  rw [hread, unescape, unescapeChars_of_notMem (by decide)]
  rfl

end GatewayPolicy.Xml
