import GatewayPolicy.Policy.NamedValue
import GatewayPolicy.Proofs.Text.Trimming
/-!
# Tokens for named values, laws

The reader of tokens finds names that are trimmed, not empty and free of braces, and the token that
is written for such a name is read as the name, in both styles.
-/

namespace GatewayPolicy

namespace NamedValue

open Text

variable {style : NamedValueStyle} {name s : String} {cs n : List Char}

/-- A name that can stand in a token. -/
structure IsTokenName (cs : List Char) : Prop where
  /-- It has characters. -/
  ne_nil : cs ≠ []
  /-- It has no blanks at its ends. -/
  trimmed : trimChars cs = cs
  /-- It has no braces. -/
  no_brace : ∀ c ∈ cs, isBrace c = false

theorem span_brace {b : Char} {r : List Char} (h : ∀ c ∈ cs, isBrace c = false)
    (hb : isBrace b = true) :
    (cs ++ b :: r).takeWhile (fun c => !isBrace c) = cs ∧
      (cs ++ b :: r).dropWhile (fun c => !isBrace c) = b :: r := by
  have hall : ∀ c ∈ cs, (!isBrace c) = true := fun c hc => by rw [h c hc]; rfl
  rw [List.takeWhile_append_of_pos hall, List.dropWhile_append_of_pos hall]
  simp [hb]

/-- A name is what stands in front of the closing braces, without blanks at its ends. -/
theorem readName?_eq_some_iff : readName? cs = some n ↔
    ∃ inner, cs = inner ++ closing ∧ (∀ c ∈ inner, isBrace c = false) ∧ n = trimChars inner ∧
      n ≠ [] := by
  constructor
  · intro h
    unfold readName? at h
    dsimp only at h
    split at h
    · rename_i hc
      rw [Bool.and_eq_true, decide_eq_true_eq, decide_eq_true_eq] at hc
      obtain rfl := Option.some.inj h
      refine ⟨cs.takeWhile fun c => !isBrace c, ?_, fun c hmem => ?_, rfl, hc.2⟩
      · rw [← hc.1, List.takeWhile_append_dropWhile]
      · simpa using List.all_eq_true.1 (List.all_takeWhile (l := cs)) c hmem
    · simp at h
  · rintro ⟨inner, rfl, hbrace, rfl, hne⟩
    obtain ⟨htake, hdrop⟩ := span_brace (b := '\x7d') (r := ['\x7d']) hbrace rfl
    unfold readName?
    rw [closing, htake, hdrop, if_pos]
    simpa using hne

/-- A text has a name if it is a token without the blanks around it, and what stands between the
braces holds no other brace and is not blank. -/
theorem nameChars?_eq_some_iff : nameChars? cs = some n ↔
    ∃ style inner, trimChars cs = tokenChars style inner ∧ (∀ c ∈ inner, isBrace c = false) ∧
      n = trimChars inner ∧ n ≠ [] := by
  constructor
  · intro h
    unfold nameChars? at h
    split at h
    · rename_i heq
      obtain ⟨inner, rfl, hinner⟩ := readName?_eq_some_iff.1 h
      exact ⟨.dollar, inner, heq, hinner⟩
    · rename_i heq
      obtain ⟨inner, rfl, hinner⟩ := readName?_eq_some_iff.1 h
      exact ⟨.plain, inner, heq, hinner⟩
    · simp at h
  · rintro ⟨style, inner, heq, hinner⟩
    have hread := readName?_eq_some_iff.2 ⟨inner, rfl, hinner⟩
    rw [nameChars?, heq]
    cases style with
    | dollar => exact hread
    | plain => exact hread

theorem isTokenName_trimChars (h : ∀ c ∈ cs, isBrace c = false) (hne : trimChars cs ≠ []) :
    IsTokenName (trimChars cs) where
  ne_nil := hne
  trimmed := trimChars_trimChars cs
  no_brace := fun c hc => h c ((trimChars_isInfix cs).subset hc)

/-- Only names that can stand in a token are found. -/
theorem isTokenName_of_name? (h : name? s = some name) : IsTokenName name.toList := by
  obtain ⟨cs, hcs, rfl⟩ := Option.map_eq_some_iff.1 h
  obtain ⟨_, inner, -, hbrace, rfl, hne⟩ := nameChars?_eq_some_iff.1 hcs
  rw [String.toList_ofList]
  exact isTokenName_trimChars hbrace hne

/-- A token has no blanks at its ends. -/
theorem trimChars_tokenChars (style : NamedValueStyle) (n : List Char) :
    trimChars (tokenChars style n) = tokenChars style n := by
  have hend : ∃ cs, tokenChars style n = cs ++ ['\x7d'] :=
    ⟨style.opening ++ n ++ ['\x7d'], by simp [tokenChars, closing]⟩
  have hstart : skipBlanks (tokenChars style n) = tokenChars style n := by
    cases style with
    | dollar => exact skipBlanks_cons (by decide) _
    | plain => exact skipBlanks_cons (by decide) _
  obtain ⟨cs, hcs⟩ := hend
  rw [trimChars, hstart, hcs, dropEndBlanks_append_singleton (by decide)]

theorem tokenChars_inj {style' : NamedValueStyle} (h : tokenChars style n = tokenChars style' cs) :
    n = cs := by
  have hfront := List.append_cancel_right h
  cases style <;> cases style' <;> simp_all [NamedValueStyle.opening]

theorem nameChars?_tokenChars_eq_some_iff : nameChars? (tokenChars style cs) = some n ↔
    (∀ c ∈ cs, isBrace c = false) ∧ n = trimChars cs ∧ n ≠ [] := by
  rw [nameChars?_eq_some_iff, trimChars_tokenChars]
  constructor
  · rintro ⟨style', inner, heq, hinner⟩
    obtain rfl := tokenChars_inj heq
    exact hinner
  · exact fun h => ⟨style, cs, rfl, h⟩

/-- The token for a name is read as the name without the blanks at its ends, if the name has no
braces and is not blank. -/
theorem name?_token_eq (style : NamedValueStyle) (name : String) : name? (token style name) =
    if name.toList.any isBrace || isBlankText name then none else some (trim name) := by
  rw [name?, token, String.toList_ofList]
  split
  · rename_i h
    rw [Option.map_eq_none_iff, Option.eq_none_iff_forall_ne_some]
    intro n hn
    obtain ⟨hbrace, rfl, hne⟩ := nameChars?_tokenChars_eq_some_iff.1 hn
    rcases Bool.or_eq_true_iff.1 h with h | h
    · obtain ⟨c, hc, hbrace'⟩ := List.any_eq_true.1 h
      rw [hbrace c hc] at hbrace'
      simp at hbrace'
    · exact hne (trimChars_eq_nil_iff.2 (isBlankText_iff.1 h))
  · rename_i h
    rw [Bool.or_eq_true, not_or, Bool.not_eq_true, List.any_eq_false] at h
    rw [nameChars?_tokenChars_eq_some_iff.2 ⟨fun c hc => by simpa using h.1 c hc, rfl, ?_⟩]
    · rfl
    · rw [Ne, trimChars_eq_nil_iff, ← isBlankText_iff]
      exact h.2

theorem name?_token (style : NamedValueStyle) (h : IsTokenName name.toList) :
    name? (token style name) = some name := by
  have hbrace : name.toList.any isBrace = false :=
    List.any_eq_false.2 fun c hc => by simp [h.no_brace c hc]
  have hblank : isBlankText name = false := by
    rw [Bool.eq_false_iff, Ne, isBlankText_iff, ← trimChars_eq_nil_iff, h.trimmed]
    exact h.ne_nil
  rw [name?_token_eq, hbrace, hblank, if_neg (by decide), trim, h.trimmed, String.ofList_toList]

theorem isBrace_of_isBlank {c : Char} (h : isBlank c = true) : isBrace c = false := by
  rw [Bool.eq_false_iff]
  intro hbrace
  rw [isBrace, Bool.or_eq_true, beq_iff_eq, beq_iff_eq] at hbrace
  rcases hbrace with rfl | rfl
  · exact absurd h (by decide)
  · exact absurd h (by decide)

/-- A text has a name exactly if it is, without the blanks around it, a token in one of the styles
with the name between its braces, perhaps with blanks around that. -/
theorem name?_eq_some_iff : name? s = some name ↔ IsTokenName name.toList ∧
    ∃ (style : NamedValueStyle) (ws ws' : List Char), IsBlankRun ws ∧ IsBlankRun ws' ∧
      (trim s).toList = style.opening ++ (ws ++ name.toList ++ ws') ++ closing := by
  rw [toList_trim]
  constructor
  · intro h
    refine ⟨isTokenName_of_name? h, ?_⟩
    obtain ⟨cs, hcs, rfl⟩ := Option.map_eq_some_iff.1 h
    obtain ⟨style, inner, heq, -, rfl, -⟩ := nameChars?_eq_some_iff.1 hcs
    obtain ⟨ws, ws', hws, hws', hinner⟩ := exists_surround_trimChars inner
    exact ⟨style, ws, ws', hws, hws', by rw [heq, String.toList_ofList, ← hinner]; rfl⟩
  · rintro ⟨hname, style, ws, ws', hws, hws', heq⟩
    have hbrace : ∀ c ∈ ws ++ name.toList ++ ws', isBrace c = false := by
      rw [List.forall_mem_append, List.forall_mem_append]
      exact ⟨⟨fun c hc => isBrace_of_isBlank (hws c hc), hname.no_brace⟩,
        fun c hc => isBrace_of_isBlank (hws' c hc)⟩
    have hread := nameChars?_eq_some_iff.2 ⟨style, ws ++ name.toList ++ ws', heq, hbrace,
      (trimChars_surround hws hws' name.toList).symm, by rw [hname.trimmed]; exact hname.ne_nil⟩
    rw [name?, hread, hname.trimmed, Option.map_some, String.ofList_toList]

/-- Tokens stand for exactly the names that are usable. The token for a name is read as the name
without the blanks at its ends if the name has no braces and is not blank, and as nothing otherwise;
and a text is read as a name exactly if it is a token around the name, blanks aside. -/
theorem name?_token_exact :
    (∀ (style : NamedValueStyle) (name : String), name? (token style name) =
      if name.toList.any isBrace || isBlankText name then none else some (trim name)) ∧
    ∀ s name : String, name? s = some name ↔ IsTokenName name.toList ∧
      ∃ (style : NamedValueStyle) (ws ws' : List Char), IsBlankRun ws ∧ IsBlankRun ws' ∧
        (trim s).toList = style.opening ++ (ws ++ name.toList ++ ws') ++ closing :=
  ⟨name?_token_eq, fun _ _ => name?_eq_some_iff⟩

/-- A dollar sign and a line break may stand in a name, and blanks around it. -/
example : name? " $\x7b\x7b $a\nb \x7d\x7d" = some "$a\nb" := by decide

theorem isToken_iff : isToken s = true ↔ ∃ name, name? s = some name := by
  rw [isToken, Option.isSome_iff_exists]

theorem name?_of_isToken_eq_false (h : isToken s = false) : name? s = none := by
  rwa [isToken, Option.isSome_eq_false_iff, Option.isNone_iff_eq_none] at h

/-- A token has braces. -/
theorem isToken_of_notMem (h : '\x7b' ∉ s.toList) : isToken s = false := by
  rw [Bool.eq_false_iff]
  intro htoken
  obtain ⟨name, hname⟩ := isToken_iff.1 htoken
  obtain ⟨-, style, ws, ws', -, -, heq⟩ := name?_eq_some_iff.1 hname
  have hbrace : '\x7b' ∈ (trim s).toList := by
    rw [heq]
    cases style <;> simp [NamedValueStyle.opening]
  rw [toList_trim] at hbrace
  exact h ((trimChars_isInfix s.toList).subset hbrace)

theorem isToken_token (style : NamedValueStyle) (h : IsTokenName name.toList) :
    isToken (token style name) = true :=
  isToken_iff.2 ⟨name, name?_token style h⟩

theorem mem_token {c : Char} (h : c ∈ (token style name).toList) :
    c ∈ ['$', '\x7b', '\x7d'] ∨ c ∈ name.toList := by
  have hopening : ∀ d ∈ style.opening, d ∈ ['$', '\x7b', '\x7d'] := by
    cases style <;> simp [NamedValueStyle.opening]
  have hclosing : ∀ d ∈ closing, d ∈ ['$', '\x7b', '\x7d'] := by simp [closing]
  rw [token, String.toList_ofList, tokenChars, List.mem_append, List.mem_append] at h
  rcases h with (h | h) | h
  · exact .inl (hopening c h)
  · exact .inr h
  · exact .inl (hclosing c h)

end NamedValue

end GatewayPolicy
