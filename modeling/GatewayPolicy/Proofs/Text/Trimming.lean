import Mathlib.Data.List.TakeWhile
import GatewayPolicy.Text.Blank
/-!
# Trimming, laws

A text is its trimmed form between two runs of blanks, and the trimmed form does not change when
more blanks are put around the text. Layout adds nothing but blanks, so these are the laws by which
a written text is compared with the text that is read back.
-/

namespace GatewayPolicy.Text

/-- Only blanks, possibly none. -/
def IsBlankRun (cs : List Char) : Prop := ∀ c ∈ cs, isBlank c = true

variable {cs ws ws' : List Char} {c : Char}

@[simp] theorem isBlankRun_nil : IsBlankRun [] := by
  simp [IsBlankRun]

@[simp] theorem isBlankRun_cons : IsBlankRun (c :: cs) ↔ isBlank c = true ∧ IsBlankRun cs := by
  simp [IsBlankRun]

@[simp] theorem isBlankRun_append : IsBlankRun (ws ++ cs) ↔ IsBlankRun ws ∧ IsBlankRun cs := by
  simp [IsBlankRun, or_imp, forall_and]

theorem isBlankRun_reverse : IsBlankRun cs.reverse ↔ IsBlankRun cs := by
  simp [IsBlankRun]

theorem isBlankText_iff {s : String} : isBlankText s = true ↔ IsBlankRun s.toList := by
  simp [isBlankText, IsBlankRun]

theorem isBlankRun_takeWhile (cs : List Char) : IsBlankRun (cs.takeWhile isBlank) := by
  intro c hc
  exact List.all_eq_true.1 (List.all_takeWhile (l := cs)) c hc

theorem IsBlankRun.notMem (h : IsBlankRun cs) (hc : isBlank c = false) : c ∉ cs := by
  intro hm
  rw [h c hm] at hc
  simp at hc

/-! ## Blanks in front -/

theorem skipBlanks_append (h : IsBlankRun ws) (cs : List Char) :
    skipBlanks (ws ++ cs) = skipBlanks cs := by
  exact List.dropWhile_append_of_pos h

theorem skipBlanks_cons (h : isBlank c = false) (cs : List Char) :
    skipBlanks (c :: cs) = c :: cs := by
  simp [skipBlanks, h]

theorem skipBlanks_eq_nil_iff : skipBlanks cs = [] ↔ IsBlankRun cs :=
  List.dropWhile_eq_nil_iff

theorem takeWhile_append_skipBlanks (cs : List Char) :
    cs.takeWhile isBlank ++ skipBlanks cs = cs :=
  List.takeWhile_append_dropWhile

theorem isBlank_of_skipBlanks_eq_cons {rest : List Char} (h : skipBlanks cs = c :: rest) :
    isBlank c = false := by
  have := List.head_dropWhile_not isBlank (l := cs) (by
    intro h0
    rw [skipBlanks, h0] at h
    simp at h)
  simp only [skipBlanks] at h
  simpa [h] using this

/-! ## Blanks at the end -/

theorem dropEndBlanks_append_blanks (h : IsBlankRun ws) (cs : List Char) :
    dropEndBlanks (cs ++ ws) = dropEndBlanks cs := by
  rw [dropEndBlanks, dropEndBlanks, List.reverse_append,
    List.dropWhile_append_of_pos (isBlankRun_reverse.2 h)]

theorem dropEndBlanks_append_singleton (h : isBlank c = false) (cs : List Char) :
    dropEndBlanks (cs ++ [c]) = cs ++ [c] := by
  simp [dropEndBlanks, h]

theorem dropEndBlanks_eq_nil_iff : dropEndBlanks cs = [] ↔ IsBlankRun cs := by
  rw [dropEndBlanks, List.reverse_eq_nil_iff, ← skipBlanks, skipBlanks_eq_nil_iff,
    isBlankRun_reverse]

/-- A text is what is left of it and a run of blanks. -/
theorem exists_dropEndBlanks_append (cs : List Char) :
    ∃ ws, IsBlankRun ws ∧ cs = dropEndBlanks cs ++ ws := by
  refine ⟨(cs.reverse.takeWhile isBlank).reverse,
    isBlankRun_reverse.2 (isBlankRun_takeWhile _), ?_⟩
  rw [dropEndBlanks, ← List.reverse_append, List.takeWhile_append_dropWhile, List.reverse_reverse]

/-- What is left ends in a visible character. -/
theorem isBlank_of_dropEndBlanks_eq_append {rest : List Char}
    (h : dropEndBlanks cs = rest ++ [c]) : isBlank c = false := by
  have h' : skipBlanks cs.reverse = c :: rest.reverse := by
    rw [← List.reverse_inj]
    simpa [dropEndBlanks, skipBlanks] using h
  exact isBlank_of_skipBlanks_eq_cons h'

/-! ## Both ends -/

theorem trimChars_eq_nil_iff : trimChars cs = [] ↔ IsBlankRun cs := by
  rw [trimChars, dropEndBlanks_eq_nil_iff]
  constructor
  · intro h
    rw [← takeWhile_append_skipBlanks cs]
    exact isBlankRun_append.2 ⟨isBlankRun_takeWhile cs, h⟩
  · intro h
    rw [skipBlanks_eq_nil_iff.2 h]
    exact isBlankRun_nil

/-- Blanks around a text do not count. -/
theorem trimChars_surround (h : IsBlankRun ws) (h' : IsBlankRun ws') (cs : List Char) :
    trimChars (ws ++ cs ++ ws') = trimChars cs := by
  rw [trimChars, List.append_assoc, skipBlanks_append h]
  by_cases hb : IsBlankRun cs
  · have hcs : skipBlanks (cs ++ ws') = [] :=
      skipBlanks_eq_nil_iff.2 (isBlankRun_append.2 ⟨hb, h'⟩)
    rw [hcs, trimChars_eq_nil_iff.2 hb]
    rfl
  · have hcs : skipBlanks (cs ++ ws') = skipBlanks cs ++ ws' := by
      have hne : skipBlanks cs ≠ [] := fun h0 => hb (skipBlanks_eq_nil_iff.1 h0)
      rw [skipBlanks, List.dropWhile_append]
      simp only [skipBlanks] at hne
      simp [hne, skipBlanks]
    rw [hcs, dropEndBlanks_append_blanks h', trimChars]

/-- A text is its trimmed form between blanks. -/
theorem exists_surround_trimChars (cs : List Char) :
    ∃ ws ws', IsBlankRun ws ∧ IsBlankRun ws' ∧ cs = ws ++ trimChars cs ++ ws' := by
  obtain ⟨ws', hws', heq⟩ := exists_dropEndBlanks_append (skipBlanks cs)
  refine ⟨cs.takeWhile isBlank, ws', isBlankRun_takeWhile cs, hws', ?_⟩
  rw [trimChars, List.append_assoc, ← heq, takeWhile_append_skipBlanks]

theorem trimChars_isInfix (cs : List Char) : trimChars cs <:+: cs := by
  obtain ⟨ws, ws', -, -, heq⟩ := exists_surround_trimChars cs
  exact ⟨ws, ws', heq.symm⟩

@[simp] theorem trimChars_trimChars (cs : List Char) :
    trimChars (trimChars cs) = trimChars cs := by
  obtain ⟨ws, ws', hws, hws', heq⟩ := exists_surround_trimChars cs
  have := trimChars_surround hws hws' (trimChars cs)
  rw [← heq] at this
  exact this.symm

theorem isBlank_of_trimChars_eq_append {rest : List Char} (h : trimChars cs = rest ++ [c]) :
    isBlank c = false :=
  isBlank_of_dropEndBlanks_eq_append h

theorem isBlank_of_trimChars_eq_cons {rest : List Char} (h : trimChars cs = c :: rest) :
    isBlank c = false := by
  obtain ⟨ws, -, hws⟩ := exists_dropEndBlanks_append (skipBlanks cs)
  rw [← trimChars, h, List.cons_append] at hws
  exact isBlank_of_skipBlanks_eq_cons hws

@[simp] theorem trim_trim (s : String) : trim (trim s) = trim s := by
  simp [trim]

theorem trim_eq_empty_iff {s : String} : trim s = "" ↔ isBlankText s = true := by
  rw [isBlankText_iff, ← trimChars_eq_nil_iff, ← toList_trim, ← String.toList_inj]
  rfl

/-! ## Visible characters -/

/-- The characters that are not blank. -/
def visibleChars (cs : List Char) : List Char := cs.filter (!isBlank ·)

@[simp] theorem visibleChars_append (cs ds : List Char) :
    visibleChars (cs ++ ds) = visibleChars cs ++ visibleChars ds :=
  List.filter_append ..

theorem visibleChars_eq_nil_iff : visibleChars cs = [] ↔ IsBlankRun cs := by
  simp [visibleChars, IsBlankRun]

end GatewayPolicy.Text
