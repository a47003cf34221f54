import Mathlib.Logic.Relation
import GatewayPolicy.Proofs.Xml.Cursor
import GatewayPolicy.Proofs.Xml.Tags
/-!
# The loops of the reader

The reader has four loops: over what stands around the root element, over the attributes of a start
tag, over the content of the open elements, and over the characters of a text. A pass of a loop ends
it or goes on with less input, so a loop has at most as many passes as its input has bytes.
-/

namespace GatewayPolicy.Xml

open Text

/-! ## Passes -/

/-- What a pass of a loop comes to. -/
inductive Pass (σ α : Type) where
  /-- The loop ends. -/
  | ends (result : α)
  /-- The loop goes on in the next state. -/
  | goesOn (next : σ)

/-- The loop with the pass ends after some passes that go on. -/
inductive Runs {σ α : Type} (pass : σ → Pass σ α) : σ → Nat → α → Prop
  /-- The pass ends the loop. -/
  | ends {s : σ} {a : α} (h : pass s = .ends a) : Runs pass s 0 a
  /-- The pass goes on. -/
  | goesOn {s s' : σ} {n : Nat} {a : α} (h : pass s = .goesOn s') (hr : Runs pass s' n a) :
      Runs pass s (n + 1) a

/-- The loop with the pass gets from one state to another. -/
def Reaches {σ α : Type} (pass : σ → Pass σ α) : σ → σ → Prop :=
  Relation.ReflTransGen fun s s' => pass s = .goesOn s'

section

variable {σ α : Type} {pass : σ → Pass σ α} {input : σ → List Char} {f : σ → α} {s s' : σ}

/-- From a state that goes on, a loop reaches what it reaches from the next state. -/
theorem Reaches.head (h : pass s = .goesOn s') {t : σ} (ht : Reaches pass s' t) :
    Reaches pass s t :=
  Relation.ReflTransGen.head h ht

theorem Reaches.eq_of_ends {a : α} (h : pass s = .ends a) {t : σ} (ht : Reaches pass s t) :
    t = s := by
  rcases Relation.ReflTransGen.cases_head ht with heq | ⟨s', hs', -⟩
  · exact heq.symm
  · rw [h] at hs'
    cases hs'

theorem Reaches.eq_or_of_goesOn (h : pass s = .goesOn s') {t : σ} (ht : Reaches pass s t) :
    t = s ∨ Reaches pass s' t := by
  rcases Relation.ReflTransGen.cases_head ht with heq | ⟨s'', hs'', ht⟩
  · exact .inl heq.symm
  · rw [h] at hs''
    obtain rfl := Pass.goesOn.inj hs''
    exact .inr ht

/-- The function is what the loop with the pass comes to, if the pass is repeated. -/
def Repeats (pass : σ → Pass σ α) (f : σ → α) : Prop :=
  ∀ s, f s = match pass s with
    | .ends a => a
    | .goesOn s' => f s'

/-- A loop that is safe to run: every pass that does not end it uses up input, and it comes to the
value of the function after no more passes than its input has bytes. -/
structure IsSafeLoop (pass : σ → Pass σ α) (input : σ → List Char) (f : σ → α) : Prop where
  /-- A pass that goes on reads at least one character. -/
  consumes : ∀ s s', pass s = .goesOn s' → ∃ read, read ≠ [] ∧ input s = read ++ input s'
  /-- The loop ends. -/
  runs : ∀ s, ∃ n, n ≤ utf8Length (input s) ∧ Runs pass s n (f s)

theorem utf8Length_pos {cs : List Char} (h : cs ≠ []) : 0 < utf8Length cs := by
  obtain ⟨c, cs, rfl⟩ := List.exists_cons_of_ne_nil h
  have := c.utf8Size_pos
  simp only [utf8Length]
  omega

/-- Passes that use up input come to an end. -/
theorem Repeats.isSafeLoop (hf : Repeats pass f)
    (h : ∀ s s', pass s = .goesOn s' → ∃ read, read ≠ [] ∧ input s = read ++ input s') :
    IsSafeLoop pass input f := by
  refine ⟨h, fun s => ?_⟩
  generalize hbytes : utf8Length (input s) = bytes
  induction bytes using Nat.strong_induction_on generalizing s with
  | _ bytes ih =>
    have hs := hf s
    cases hpass : pass s with
    | ends a =>
      rw [hpass] at hs
      exact ⟨0, Nat.zero_le _, hs ▸ .ends hpass⟩
    | goesOn s' =>
      rw [hpass] at hs
      obtain ⟨read, hread, hinput⟩ := h s s' hpass
      have hpos := utf8Length_pos hread
      rw [hinput, utf8Length_append] at hbytes
      obtain ⟨n, hn, hruns⟩ := ih (utf8Length (input s')) (by omega) s' rfl
      refine ⟨n + 1, by omega, ?_⟩
      rw [hs]
      exact .goesOn hpass hruns

end

/-! ## Two loops in step

The second loop has the states of the first one with more input. It does the same until what follows
the input of the first one matters.
-/

section

variable {σ α : Type} {pass pass' : σ → Pass σ α} {input : σ → List Char} {f f' : σ → α}
  {extend : σ → σ} {Parts : σ → Prop} {t t' : σ} {n : Nat} {a a' : α}

theorem Repeats.eq_of_runs (hf : Repeats pass f) (hrun : Runs pass t n a) : f t = a := by
  induction hrun with
  | ends h => rw [hf, h]
  | goesOn h _ ih =>
    rw [hf, h]
    exact ih

theorem Repeats.eq_of_reaches (hf : Repeats pass f) (h : Reaches pass t t') : f t = f t' := by
  induction h with
  | refl => rfl
  | tail _ hpass ih => rw [ih, hf, hpass]

/-- On the way of the first loop to its result the second one, with more input, does the same, unless
they part. -/
structure AreInStep (pass pass' : σ → Pass σ α) (extend : σ → σ) (Parts : σ → Prop) (a a' : α) :
    Prop where
  /-- Both go on. -/
  goesOn : ∀ {t t' : σ} {n : Nat}, pass t = .goesOn t' → Runs pass t' n a → ¬ Parts t →
    pass' (extend t) = .goesOn (extend t')
  /-- Both end. -/
  ends : ∀ {t : σ}, pass t = .ends a → ¬ Parts t → pass' (extend t) = .ends a'

theorem AreInStep.runs (h : AreInStep pass pass' extend Parts a a') (hrun : Runs pass t n a)
    (hparts : ∀ t', Reaches pass t t' → ¬ Parts t') : Runs pass' (extend t) n a' := by
  induction hrun with
  | ends hpass => exact .ends (h.ends hpass (hparts _ .refl))
  | goesOn hpass hr ih =>
    exact .goesOn (h.goesOn hpass hr (hparts _ .refl)) (ih h fun t' ht => hparts t' (ht.head hpass))

/-- If the ways part, both loops come to the place where they do. -/
theorem AreInStep.exists_reaches (h : AreInStep pass pass' extend Parts a a')
    (hrun : Runs pass t n a) (hparts : ∃ t', Reaches pass t t' ∧ Parts t') :
    ∃ t' n, Parts t' ∧ Runs pass t' n a ∧ Reaches pass' (extend t) (extend t') := by
  -- The induction is on the run of the first loop, up to the first state at which they part.
  induction hrun with
  | ends hpass =>
    obtain ⟨t', ht, hp⟩ := hparts
    obtain rfl := ht.eq_of_ends hpass
    exact ⟨_, 0, hp, .ends hpass, .refl⟩
  | @goesOn t₁ t₂ n a hpass hr ih =>
    by_cases hp₁ : Parts t₁
    · exact ⟨t₁, _, hp₁, .goesOn hpass hr, .refl⟩
    · obtain ⟨t', ht, hp⟩ := hparts
      rcases ht.eq_or_of_goesOn hpass with rfl | ht
      · exact absurd hp hp₁
      · obtain ⟨t', n, hp, hr', hreach⟩ := ih h ⟨t', ht, hp⟩
        exact ⟨t', n, hp, hr', hreach.head (h.goesOn hpass hr hp₁)⟩

/-- Loops that never part come to the same. -/
theorem AreInStep.eq (h : AreInStep pass pass' extend Parts a a') (hf : IsSafeLoop pass input f)
    (hf' : Repeats pass' f') (hparts : ∀ t', Reaches pass t t' → ¬ Parts t') (ha : f t = a) :
    f' (extend t) = a' := by
  obtain ⟨n, -, hrun⟩ := hf.runs t
  rw [ha] at hrun
  exact hf'.eq_of_runs (h.runs hrun hparts)

/-- What loops that part come to is decided where they do. -/
theorem AreInStep.exists_parts (h : AreInStep pass pass' extend Parts a a')
    (hf : IsSafeLoop pass input f) (hf' : Repeats pass' f')
    (hparts : ∃ t', Reaches pass t t' ∧ Parts t') (ha : f t = a) :
    ∃ t', Parts t' ∧ (∃ n, Runs pass t' n a) ∧ f' (extend t) = f' (extend t') := by
  obtain ⟨n, -, hrun⟩ := hf.runs t
  rw [ha] at hrun
  obtain ⟨t', n, hp, hrun', hreach⟩ := h.exists_reaches hrun hparts
  exact ⟨t', hp, ⟨n, hrun'⟩, hf'.eq_of_reaches hreach⟩

end

/-! ## The four loops -/

variable {cs r : List Char} {c : Char}

/-- A pass over what stands around the root element: it skips blanks and one item. -/
def miscPass (cs : List Char) : Pass (List Char) (Except Failure (List Char)) :=
  match skipItem? (skipBlanks cs) with
  | none => .ends (.ok (skipBlanks cs))
  | some (.error f) => .ends (.error f)
  | some (.ok r) => .goesOn r

/-- A pass over the attributes of a start tag: it finds the end of the tag, or reads one attribute.
The state is what has been read and what is left. -/
def attributesPass (start : List Char) (name : String) (s : Attributes × List Char) :
    Pass (Attributes × List Char) (Except Failure ((Attributes × Bool) × List Char)) :=
  match skipBlanks s.2 with
  | '/' :: '>' :: rest => .ends (.ok ((s.1, true), rest))
  | '>' :: rest => .ends (.ok ((s.1, false), rest))
  | [] => .ends (.error ⟨.unterminatedStartTag name, start⟩)
  | _ =>
    match readAttribute (skipBlanks s.2) with
    | .error f => .ends (.error f)
    | .ok (a, rest) =>
      if s.1.any (·.1 == a.1) then
        .ends (.error ⟨.duplicateAttribute a.1, skipBlanks s.2⟩)
      else .goesOn (s.1 ++ [a], rest)

/-- The open elements and what is left to read. -/
structure ContentState where
  /-- The innermost open element. -/
  top : OpenElement
  /-- The elements around it, innermost first. -/
  around : List OpenElement
  /-- The input. -/
  input : List Char

/-- A pass over the content of the open elements: it reads one token. -/
def contentPass (s : ContentState) : Pass ContentState (Except Failure (Element × List Char)) :=
  match s.input with
  | [] => .ends (.error ⟨.unclosedElement s.top.name, s.top.start⟩)
  | c :: rest =>
    match readToken (c :: rest) with
    | .error f => .ends (.error f)
    | .ok (.startTag tag, r) =>
      if tag.closed then .goesOn ⟨s.top.push tag.element.node, s.around, r⟩
      else .goesOn ⟨tag.opened (c :: rest), s.top :: s.around, r⟩
    | .ok (.endTag name, r) =>
      if name = s.top.name then
        match s.around with
        | [] => .ends (.ok (s.top.close, r))
        | parent :: around => .goesOn ⟨parent.push s.top.close.node, around, r⟩
      else .ends (.error ⟨.mismatchedEndTag name s.top.name, c :: rest⟩)
    | .ok (.comment t, r) => .goesOn ⟨s.top.push (.comment t), s.around, r⟩
    | .ok (.cdata t, r) => .goesOn ⟨s.top.push (.cdata t), s.around, r⟩
    | .ok (.instruction, r) => .goesOn ⟨s.top, s.around, r⟩
    | .ok (.text t, r) => .goesOn ⟨s.top.push (.text t), s.around, r⟩

/-- A pass over the characters of a text: it finds the markup behind the text, or takes an expression
or a character. -/
def textPass (cs : List Char) : Pass (List Char) (List Char) :=
  match cs with
  | [] => .ends []
  | c :: rest =>
    if c = '<' then .ends (c :: rest)
    else
      match scanExpression? (c :: rest) with
      | some (_, after) => .goesOn after
      | none => .goesOn rest

theorem repeats_misc : Repeats miscPass skipMisc := by
  intro cs
  rw [skipMisc, miscPass]
  split <;> rename_i h <;> simp only [h]

theorem repeats_attributes (start : List Char) (name : String) :
    Repeats (attributesPass start name) fun s => readAttributes start name s.1 s.2 := by
  intro s
  dsimp only
  fun_cases attributesPass start name s with
  | case1 rest hskip =>
    rw [readAttributes]
    simp only [hskip]
  | case2 rest hskip =>
    rw [readAttributes]
    simp only [hskip]
  | case3 hskip =>
    rw [readAttributes]
    simp only [hskip]
  | case4 f hread hclosed hopened hend =>
    rw [readAttributes_of_ne hclosed hopened hend]
    simp only [hread]
  | case5 a rest hread hrepeated hclosed hopened hend =>
    rw [readAttributes_of_ne hclosed hopened hend]
    simp only [hread]
    rw [if_pos hrepeated]
  | case6 a rest hread hnew hclosed hopened hend =>
    rw [readAttributes_of_ne hclosed hopened hend]
    simp only [hread]
    rw [if_neg hnew]

theorem repeats_content :
    Repeats contentPass fun s => readContent s.top s.around s.input := by
  rintro ⟨top, around, cs⟩
  cases cs with
  | nil =>
    dsimp only
    rw [readContent, contentPass]
  | cons c rest =>
    dsimp only
    rw [readContent, contentPass]
    dsimp only
    split <;> rename_i h <;> simp only [h]
    · split <;> rfl
    · split
      · split <;> rfl
      · rfl

theorem repeats_text : Repeats textPass fun cs => (readText cs).2 := by
  intro cs
  cases cs with
  | nil => simp only [readText, textPass]
  | cons c rest =>
    by_cases hc : c = '<'
    · subst hc
      simp only [readText_bracket, textPass, if_true]
    · cases hscan : scanExpression? (c :: rest) with
      | none => simp only [readText_cons hc hscan, textPass, if_neg hc, hscan]
      | some p => simp only [readText_expression hscan, textPass, if_neg hc, hscan]

/-- The rest of a document is shorter than the document only if something has been read. -/
theorem exists_append_of_suffix (h : r <:+ cs) (hlt : r.length < cs.length) :
    ∃ read, read ≠ [] ∧ cs = read ++ r := by
  obtain ⟨read, rfl⟩ := h
  refine ⟨read, ?_, rfl⟩
  rintro rfl
  simp at hlt

theorem isSafeLoop_misc : IsSafeLoop miscPass id skipMisc := by
  refine repeats_misc.isSafeLoop fun cs r h => ?_
  unfold miscPass at h
  split at h
  · cases h
  · cases h
  · rename_i hitem
    obtain rfl := Pass.goesOn.inj h
    have hsuffix := skipItem?_staysWithin (skipBlanks_suffix cs) hitem
    have := length_of_skipItem? hitem
    have := length_skipBlanks_le cs
    exact exists_append_of_suffix hsuffix (by simp only [id]; omega)

theorem isSafeLoop_attributes (start : List Char) (name : String) :
    IsSafeLoop (attributesPass start name) Prod.snd
      fun s => readAttributes start name s.1 s.2 := by
  refine (repeats_attributes start name).isSafeLoop fun s s' h => ?_
  unfold attributesPass at h
  split at h
  · cases h
  · cases h
  · cases h
  · split at h
    · cases h
    · rename_i hread
      split at h
      · cases h
      · obtain rfl := Pass.goesOn.inj h
        have hsuffix := (readAttribute_staysWithin (skipBlanks_suffix s.2)).ok hread
        have := length_of_readAttribute hread
        have := length_skipBlanks_le s.2
        exact exists_append_of_suffix hsuffix (by dsimp only; omega)

/-- A pass that goes on leaves what its token leaves. -/
theorem exists_readToken_of_contentPass {s s' : ContentState} (h : contentPass s = .goesOn s') :
    ∃ t, s.input ≠ [] ∧ readToken s.input = .ok (t, s'.input) := by
  obtain ⟨top, around, cs⟩ := s
  cases cs with
  | nil => cases h
  | cons c rest =>
    simp only [contentPass] at h
    split at h
    · cases h
    · split at h
      · obtain rfl := Pass.goesOn.inj h
        exact ⟨_, by simp, ‹_›⟩
      · obtain rfl := Pass.goesOn.inj h
        exact ⟨_, by simp, ‹_›⟩
    · split at h
      · split at h
        · cases h
        · obtain rfl := Pass.goesOn.inj h
          exact ⟨_, by simp, ‹_›⟩
      · cases h
    all_goals
      obtain rfl := Pass.goesOn.inj h
      exact ⟨_, by simp, ‹_›⟩

theorem isSafeLoop_content :
    IsSafeLoop contentPass ContentState.input fun s => readContent s.top s.around s.input := by
  refine repeats_content.isSafeLoop fun s s' h => ?_
  obtain ⟨t, hne, hread⟩ := exists_readToken_of_contentPass h
  have hsuffix := (readToken_staysWithin List.suffix_rfl).ok hread
  obtain ⟨c, rest, hcs⟩ := List.exists_cons_of_ne_nil hne
  refine exists_append_of_suffix hsuffix ?_
  rw [hcs] at hread ⊢
  exact length_of_readToken hread

theorem isSafeLoop_text : IsSafeLoop textPass id fun cs => (readText cs).2 := by
  refine repeats_text.isSafeLoop fun cs r h => ?_
  unfold textPass at h
  split at h
  · cases h
  · split at h
    · cases h
    · split at h
      · rename_i hscan
        obtain rfl := Pass.goesOn.inj h
        have hsplit := scanExpression?_split hscan
        refine exists_append_of_suffix ?_ (length_of_scanExpression? hscan)
        exact ⟨_, hsplit⟩
      · rename_i c _ _ _ _
        obtain rfl := Pass.goesOn.inj h
        exact ⟨[c], by simp, rfl⟩

end GatewayPolicy.Xml
