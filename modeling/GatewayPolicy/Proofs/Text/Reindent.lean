import Mathlib.Data.List.DropRight
import Mathlib.Data.List.Forall2
import GatewayPolicy.Proofs.Text.Lines
/-!
# Re-indentation, laws

Re-indentation takes only blanks from a text: the blank lines at both ends, the blanks at the end of
each line, and as much indentation as all lines have that are not blank. Lines that have nothing to
take away are `IsFlush`. What is left of a text is flush, and flush lines stay as they are, so
re-indentation does nothing when it is done again.
-/

namespace GatewayPolicy.Text

variable {cs l : List Char} {ls : List (List Char)} {k : Nat}

/-! ## Empty lines at the ends -/

/-- Only empty lines are dropped. -/
theorem exists_trimEmptyLines (ls : List (List Char)) :
    ∃ before after, (∀ l ∈ before, l = []) ∧ (∀ l ∈ after, l = []) ∧
      ls = before ++ (trimEmptyLines ls ++ after) := by
  have hempty : ∀ ls : List (List Char), ∀ l ∈ ls.takeWhile List.isEmpty, l = [] := by
    intro ls l hl
    exact List.isEmpty_iff.1 (List.all_eq_true.1 List.all_takeWhile l hl)
  refine ⟨ls.takeWhile List.isEmpty, ls.dropWhile List.isEmpty |>.rtakeWhile List.isEmpty,
    hempty ls, fun l hl => hempty _ l (List.mem_reverse.1 hl), ?_⟩
  have hsplit := List.rdropWhile_append_rtakeWhile (p := List.isEmpty)
    (l := ls.dropWhile List.isEmpty)
  rw [List.rdropWhile] at hsplit
  rw [trimEmptyLines, hsplit, List.takeWhile_append_dropWhile]

/-- The first line that is left is not empty. -/
theorem head?_trimEmptyLines_ne (h : l ∈ (trimEmptyLines ls).head?) : l ≠ [] := by
  obtain ⟨rest, hrest⟩ := List.head?_eq_some_iff.1 h
  obtain ⟨after, hafter⟩ : trimEmptyLines ls <+: ls.dropWhile List.isEmpty :=
    List.rdropWhile_prefix List.isEmpty _
  rw [hrest, List.cons_append] at hafter
  have hne : ls.dropWhile List.isEmpty ≠ [] := by
    simp [← hafter]
  have hnot := List.head_dropWhile_not List.isEmpty hne
  simp only [← hafter, List.head_cons] at hnot
  simpa using hnot

/-- The last line that is left is not empty. -/
theorem getLast?_trimEmptyLines_ne (h : l ∈ (trimEmptyLines ls).getLast?) : l ≠ [] := by
  obtain ⟨hne, rfl⟩ := List.mem_getLast?_eq_getLast h
  have hnot := List.rdropWhile_last_not List.isEmpty (ls.dropWhile List.isEmpty) hne
  rwa [List.isEmpty_iff] at hnot

theorem trimEmptyLines_eq_self (hfirst : ∀ l ∈ ls.head?, l ≠ [])
    (hlast : ∀ l ∈ ls.getLast?, l ≠ []) : trimEmptyLines ls = ls := by
  have hdrop : ls.dropWhile List.isEmpty = ls := by
    cases ls with
    | nil => rfl
    | cons l ls => exact List.dropWhile_cons_of_neg (by simpa using hfirst l rfl)
  have hrdrop : ls.rdropWhile List.isEmpty = ls := by
    refine List.rdropWhile_eq_self_iff.2 fun hne => ?_
    simpa using hlast _ (List.getLast?_eq_some_getLast hne)
  rw [trimEmptyLines, hdrop]
  exact hrdrop

/-! ## Common indentation -/

/-- How far a line is indented. -/
def indentOf (l : List Char) : Nat := (l.takeWhile isIndent).length

theorem indentOf_le_length (l : List Char) : indentOf l ≤ l.length := by
  have hwhile : l.takeWhile isIndent <+: l := List.takeWhile_prefix isIndent
  exact hwhile.length_le

theorem commonIndent_le (hl : l ∈ ls) (hne : l ≠ []) : commonIndent ls ≤ indentOf l := by
  refine List.min?_getD_le_of_mem (List.mem_map_of_mem (f := indentOf) ?_)
  exact List.mem_filter.2 ⟨hl, by simpa using hne⟩

/-- Some line is not indented further. -/
theorem exists_indentOf_eq (hl : l ∈ ls) (hne : l ≠ []) :
    ∃ l' ∈ ls, l' ≠ [] ∧ indentOf l' = commonIndent ls := by
  have hmem : indentOf l ∈ (ls.filter (!·.isEmpty)).map indentOf :=
    List.mem_map_of_mem (List.mem_filter.2 ⟨hl, by simpa using hne⟩)
  obtain ⟨n, hn⟩ := Option.isSome_iff_exists.1 (List.isSome_min?_of_mem hmem)
  obtain ⟨l', hl', rfl⟩ := List.mem_map.1 (List.min?_mem hn)
  rw [List.mem_filter] at hl'
  refine ⟨l', hl'.1, by simpa using hl'.2, ?_⟩
  change _ = (((ls.filter (!·.isEmpty)).map indentOf).min?).getD 0
  rw [hn, Option.getD_some]

theorem isBlank_of_isIndent {c : Char} (h : isIndent c = true) : isBlank c = true := by
  rw [isIndent, Bool.or_eq_true, beq_iff_eq, beq_iff_eq] at h
  rcases h with rfl | rfl <;> decide

theorem isIndent_of_mem_take {c : Char} (hk : k ≤ indentOf l) (hc : c ∈ l.take k) :
    isIndent c = true := by
  have hshort : (l.take k).length ≤ (l.takeWhile isIndent).length :=
    (List.length_take_le k l).trans hk
  have htake : l.take k <+: l := List.take_prefix k l
  have hwhile : l.takeWhile isIndent <+: l := List.takeWhile_prefix isIndent
  have hsub := List.prefix_of_prefix_length_le htake hwhile hshort
  exact List.all_eq_true.1 List.all_takeWhile c (hsub.subset hc)

/-- A line keeps its visible end when indentation is taken away. -/
theorem IsLine.drop (h : IsLine l) (hk : k ≤ indentOf l) : IsLine (l.drop k) where
  ne_nil hnil := by
    have hall : l.take k = l := by rw [← List.append_nil (l.take k), ← hnil, List.take_append_drop]
    have hlast : l.getLast h.ne_nil ∈ l.take k := by
      rw [hall]
      exact List.getLast_mem h.ne_nil
    have hblank := isBlank_of_isIndent (isIndent_of_mem_take hk hlast)
    have hvisible := h.visible
    rw [List.getLast?_eq_some_getLast h.ne_nil, Option.any_some, hblank] at hvisible
    simp at hvisible
  notMem hmem := h.notMem (List.mem_of_mem_drop hmem)
  visible := by
    rw [List.getLast?_drop]
    split
    · rfl
    · exact h.visible

/-- A line that shares only so much indentation starts without any when that is taken away. -/
theorem any_isIndent_drop_indentOf (l : List Char) :
    (l.drop (indentOf l)).head?.any isIndent = false := by
  have hdrop : l.drop (indentOf l) = l.dropWhile isIndent := by
    conv_lhs => rw [← List.takeWhile_append_dropWhile (p := isIndent) (l := l)]
    exact List.drop_left' (by rw [indentOf, List.takeWhile_append_dropWhile])
  rw [hdrop]
  cases h : l.dropWhile isIndent with
  | nil => rfl
  | cons c rest =>
    have hnot := List.head_dropWhile_not isIndent (l := l) (by simp [h])
    simpa [h] using hnot

theorem indentOf_eq_zero (h : l.head?.any isIndent = false) : indentOf l = 0 := by
  cases l with
  | nil => rfl
  | cons c l =>
    have hc : isIndent c = false := by simpa using h
    rw [indentOf, List.takeWhile_cons_of_neg (by simp [hc]), List.length_nil]

/-! ## Flush lines -/

/-- Lines with nothing to take away: none ends in a blank, the first and the last one are not empty,
and one that is not empty has no indentation. -/
structure IsFlush (ls : List String) : Prop where
  /-- Each line is empty or ends in a visible character. -/
  line : ∀ l ∈ ls, l = "" ∨ IsLine l.toList
  /-- The first line is not empty. -/
  first : ∀ l ∈ ls.head?, l ≠ ""
  /-- The last line is not empty. -/
  last : ∀ l ∈ ls.getLast?, l ≠ ""
  /-- A line that is not empty starts with neither a space nor a tab. -/
  flush : ∃ l ∈ ls, l ≠ "" ∧ l.toList.head?.any isIndent = false

theorem isFlush_of_isLine {l : String} {ls : List String} (h : ∀ l' ∈ l :: ls, IsLine l'.toList)
    (hfirst : l.toList.head?.any isIndent = false) : IsFlush (l :: ls) := by
  have hne : ∀ l' ∈ l :: ls, l' ≠ "" := by
    rintro l' hl' rfl
    exact (h "" hl').ne_nil rfl
  exact ⟨fun l' hl' => .inr (h l' hl'), fun l' hl' => hne l' (List.mem_of_mem_head? hl'),
    fun l' hl' => hne l' (List.mem_of_getLast? hl'), l, List.mem_cons_self,
    hne l List.mem_cons_self, hfirst⟩

/-- Flush lines are kept as they are. -/
theorem IsFlush.reindent_unlines {ls : List String} (h : IsFlush ls) :
    reindent (unlines ls) = ls := by
  have hends : (ls.map String.toList).map dropEndBlanks = ls.map String.toList := by
    rw [List.map_map]
    refine List.map_congr_left fun l hl => ?_
    rcases h.line l hl with rfl | hl
    · rfl
    · exact hl.dropEndBlanks_eq
  have htrim : trimEmptyLines (ls.map String.toList) = ls.map String.toList := by
    refine trimEmptyLines_eq_self ?_ ?_
    · rw [List.head?_map]
      intro cs hcs
      obtain ⟨l, hl, rfl⟩ := Option.map_eq_some_iff.1 hcs
      exact mt String.toList_eq_nil_iff.1 (h.first l hl)
    · rw [List.getLast?_map]
      intro cs hcs
      obtain ⟨l, hl, rfl⟩ := Option.map_eq_some_iff.1 hcs
      exact mt String.toList_eq_nil_iff.1 (h.last l hl)
  have hindent : commonIndent (ls.map String.toList) = 0 := by
    obtain ⟨l, hl, hne, hfirst⟩ := h.flush
    have hle := commonIndent_le (List.mem_map_of_mem hl) (mt String.toList_eq_nil_iff.1 hne)
    rw [indentOf_eq_zero hfirst] at hle
    exact Nat.le_zero.1 hle
  rw [reindent, reindentChars, splitLines_unlines h.line h.last, hends, htrim, hindent]
  simp [Function.comp_def]

/-- Lines of which the first is not indented are kept as they are. -/
theorem reindent_unlines {l : String} {ls : List String} (h : ∀ l' ∈ l :: ls, IsLine l'.toList)
    (hfirst : l.toList.head?.any isIndent = false) : reindent (unlines (l :: ls)) = l :: ls :=
  (isFlush_of_isLine h hfirst).reindent_unlines

/-! ## Lines that are not outer blank lines -/

/-- `body` are the lines from the first to the last one that is not blank. -/
structure IsVisibleSpan (ls body : List (List Char)) : Prop where
  /-- Only blank lines stand before and behind. -/
  exists_append : ∃ before after, (∀ l ∈ before, IsBlankRun l) ∧ (∀ l ∈ after, IsBlankRun l) ∧
    ls = before ++ (body ++ after)
  /-- The first line is not blank. -/
  first : ∀ l ∈ body.head?, ¬ IsBlankRun l
  /-- The last line is not blank. -/
  last : ∀ l ∈ body.getLast?, ¬ IsBlankRun l

theorem IsVisibleSpan.eq_nil_iff {body : List (List Char)} (h : IsVisibleSpan ls body) :
    body = [] ↔ ∀ l ∈ ls, IsBlankRun l := by
  obtain ⟨before, after, hbefore, hafter, rfl⟩ := h.exists_append
  constructor
  · rintro rfl
    exact List.forall_mem_append.2 ⟨hbefore, hafter⟩
  · intro hblank
    cases body with
    | nil => rfl
    | cons l body => exact absurd (hblank l (by simp)) (h.first l rfl)

/-- The lines that are left before indentation is taken away: these lines without blanks at their
ends. -/
def bodyLines (cs : List Char) : List (List Char) :=
  trimEmptyLines ((splitLines cs).map dropEndBlanks)

theorem exists_isVisibleSpan (cs : List Char) :
    ∃ body, IsVisibleSpan (splitLines cs) body ∧ body.map dropEndBlanks = bodyLines cs := by
  obtain ⟨before, after, hbefore, hafter, heq⟩ :=
    exists_trimEmptyLines ((splitLines cs).map dropEndBlanks)
  obtain ⟨before, rest, hlines, rfl, hrest⟩ := List.map_eq_append_iff.1 heq
  obtain ⟨body, after, rfl, hbody, rfl⟩ := List.map_eq_append_iff.1 hrest
  rw [List.forall_mem_map] at hbefore hafter
  refine ⟨body, ⟨⟨before, after, fun l hl => dropEndBlanks_eq_nil_iff.1 (hbefore l hl),
    fun l hl => dropEndBlanks_eq_nil_iff.1 (hafter l hl), hlines⟩, fun l hl => ?_, fun l hl => ?_⟩,
    hbody⟩
  · have hhead : dropEndBlanks l ∈ (body.map dropEndBlanks).head? := by
      rw [List.head?_map]
      exact Option.mem_map_of_mem dropEndBlanks hl
    rw [hbody] at hhead
    exact mt dropEndBlanks_eq_nil_iff.2 (head?_trimEmptyLines_ne hhead)
  · have hlast : dropEndBlanks l ∈ (body.map dropEndBlanks).getLast? := by
      rw [List.getLast?_map]
      exact Option.mem_map_of_mem dropEndBlanks hl
    rw [hbody] at hlast
    exact mt dropEndBlanks_eq_nil_iff.2 (getLast?_trimEmptyLines_ne hlast)

theorem bodyLines_eq_nil_iff : bodyLines cs = [] ↔ IsBlankRun cs := by
  obtain ⟨body, hspan, hbody⟩ := exists_isVisibleSpan cs
  rw [← hbody, List.map_eq_nil_iff, hspan.eq_nil_iff, isBlankRun_iff_splitLines]

theorem isLine_dropEndBlanks (h : '\n' ∉ cs) (hne : dropEndBlanks cs ≠ []) :
    IsLine (dropEndBlanks cs) where
  ne_nil := hne
  notMem hmem := by
    obtain ⟨ws, -, heq⟩ := exists_dropEndBlanks_append cs
    rw [heq] at h
    exact h (List.mem_append_left ws hmem)
  visible := by
    have heq := (List.dropLast_concat_getLast hne).symm
    rw [List.getLast?_eq_some_getLast hne, Option.any_some]
    exact isBlank_of_dropEndBlanks_eq_append heq

theorem isLine_of_mem_bodyLines (h : l ∈ bodyLines cs) (hne : l ≠ []) : IsLine l := by
  obtain ⟨before, after, -, -, heq⟩ := exists_trimEmptyLines ((splitLines cs).map dropEndBlanks)
  have hmem : l ∈ (splitLines cs).map dropEndBlanks := by
    rw [heq]
    exact List.mem_append_right before (List.mem_append_left after h)
  obtain ⟨l', hl', rfl⟩ := List.mem_map.1 hmem
  exact isLine_dropEndBlanks (notMem_of_mem_splitLines hl') hne

/-! ## Lines and what is left of them -/

/-- What is left of a line when `k` characters of its indentation and the blanks at its end are taken
away. A blank line becomes an empty one. -/
inductive IsOutdented (k : Nat) : List Char → List Char → Prop
  | blank {cs : List Char} (h : IsBlankRun cs) : IsOutdented k cs []
  | visible {ws l ws' : List Char} (hlength : ws.length = k) (hindent : ∀ c ∈ ws, isIndent c = true)
      (hl : IsLine l) (hblank : IsBlankRun ws') : IsOutdented k (ws ++ (l ++ ws')) l

theorem IsOutdented.visibleChars_eq (h : IsOutdented k cs l) : visibleChars cs = visibleChars l := by
  cases h with
  | blank h => exact visibleChars_eq_nil_iff.2 h
  | @visible ws _ ws' _ hindent _ hblank =>
    have hws : visibleChars ws = [] :=
      visibleChars_eq_nil_iff.2 fun c hc => isBlank_of_isIndent (hindent c hc)
    rw [visibleChars_append, visibleChars_append, hws, visibleChars_eq_nil_iff.2 hblank,
      List.nil_append, List.append_nil]

theorem isOutdented_drop (h : '\n' ∉ cs)
    (hk : dropEndBlanks cs ≠ [] → k ≤ indentOf (dropEndBlanks cs)) :
    IsOutdented k cs ((dropEndBlanks cs).drop k) := by
  by_cases hne : dropEndBlanks cs = []
  · rw [hne, List.drop_nil]
    exact .blank (dropEndBlanks_eq_nil_iff.1 hne)
  · obtain ⟨ws', hws', heq⟩ := exists_dropEndBlanks_append cs
    have hlength : ((dropEndBlanks cs).take k).length = k :=
      List.length_take_of_le ((hk hne).trans (indentOf_le_length _))
    have hsplit : cs = (dropEndBlanks cs).take k ++ ((dropEndBlanks cs).drop k ++ ws') := by
      rw [← List.append_assoc, List.take_append_drop, ← heq]
    have hout := IsOutdented.visible hlength (fun c hc => isIndent_of_mem_take (hk hne) hc)
      ((isLine_dropEndBlanks h hne).drop (hk hne)) hws'
    rwa [← hsplit] at hout

/-! ## What is left of a text -/

variable {s : String}

theorem reindent_eq (s : String) : reindent s = (bodyLines s.toList).map fun l =>
    String.ofList (l.drop (commonIndent (bodyLines s.toList))) := by
  rw [reindent, reindentChars, List.map_map]
  rfl

theorem reindent_eq_nil_iff : reindent s = [] ↔ isBlankText s = true := by
  rw [reindent_eq, List.map_eq_nil_iff, bodyLines_eq_nil_iff, isBlankText_iff]

theorem isFlush_reindent (h : isBlankText s = false) : IsFlush (reindent s) := by
  have hline : ∀ l ∈ bodyLines s.toList, l ≠ [] →
      IsLine (l.drop (commonIndent (bodyLines s.toList))) := fun l hl hne =>
    (isLine_of_mem_bodyLines hl hne).drop (commonIndent_le hl hne)
  have hne : ∀ l ∈ bodyLines s.toList, l ≠ [] →
      String.ofList (l.drop (commonIndent (bodyLines s.toList))) ≠ "" := fun l hl hne =>
    mt String.ofList_eq_empty_iff.1 (hline l hl hne).ne_nil
  rw [reindent_eq]
  refine ⟨fun l' hl' => ?_, fun l' hl' => ?_, fun l' hl' => ?_, ?_⟩
  · obtain ⟨l, hl, rfl⟩ := List.mem_map.1 hl'
    by_cases hempty : l = []
    · rw [hempty, List.drop_nil]
      exact .inl rfl
    · rw [String.toList_ofList]
      exact .inr (hline l hl hempty)
  · rw [List.head?_map] at hl'
    obtain ⟨l, hl, rfl⟩ := Option.map_eq_some_iff.1 hl'
    exact hne l (List.mem_of_mem_head? hl) (head?_trimEmptyLines_ne hl)
  · rw [List.getLast?_map] at hl'
    obtain ⟨l, hl, rfl⟩ := Option.map_eq_some_iff.1 hl'
    exact hne l (List.mem_of_getLast? hl) (getLast?_trimEmptyLines_ne hl)
  · -- The first line is not empty, so some line has exactly the common indentation.
    have hbody : bodyLines s.toList ≠ [] := by
      rw [Ne, bodyLines_eq_nil_iff, ← isBlankText_iff, h]
      simp
    have hhead := List.head?_eq_some_head hbody
    obtain ⟨l, hl, hlne, hindent⟩ :=
      exists_indentOf_eq (List.head_mem hbody) (head?_trimEmptyLines_ne hhead)
    refine ⟨_, List.mem_map_of_mem hl, hne l hl hlne, ?_⟩
    rw [String.toList_ofList, ← hindent]
    exact any_isIndent_drop_indentOf l

theorem exists_forall₂_isOutdented (s : String) :
    ∃ k body, IsVisibleSpan (splitLines s.toList) body ∧
      List.Forall₂ (fun cs l => IsOutdented k cs l.toList) body (reindent s) := by
  obtain ⟨body, hspan, hbody⟩ := exists_isVisibleSpan s.toList
  refine ⟨commonIndent (bodyLines s.toList), body, hspan, ?_⟩
  rw [reindent_eq, ← hbody, List.map_map, List.forall₂_map_right_iff, List.forall₂_same]
  intro cs hcs
  obtain ⟨before, after, -, -, heq⟩ := hspan.exists_append
  have hmem : cs ∈ splitLines s.toList := by
    rw [heq]
    exact List.mem_append_right before (List.mem_append_left after hcs)
  rw [Function.comp_apply, String.toList_ofList]
  exact isOutdented_drop (notMem_of_mem_splitLines hmem) (commonIndent_le (List.mem_map_of_mem hcs))

theorem visibleChars_reindent (s : String) :
    (reindent s).flatMap (visibleChars ·.toList) = visibleChars s.toList := by
  obtain ⟨k, body, hspan, hout⟩ := exists_forall₂_isOutdented s
  obtain ⟨before, after, hbefore, hafter, heq⟩ := hspan.exists_append
  have hblank : ∀ ls : List (List Char), (∀ l ∈ ls, IsBlankRun l) → ls.flatMap visibleChars = [] :=
    fun ls hls => List.flatMap_eq_nil_iff.2 fun l hl => visibleChars_eq_nil_iff.2 (hls l hl)
  rw [← visibleChars_splitLines, heq, List.flatMap_append, List.flatMap_append,
    hblank before hbefore, hblank after hafter, List.nil_append, List.append_nil]
  clear hspan heq
  generalize reindent s = ls at hout
  induction hout with
  | nil => rfl
  | cons h _ ih => rw [List.flatMap_cons, List.flatMap_cons, h.visibleChars_eq, ih]

/-- Re-indentation leaves nothing of a blank text. Of another text it leaves flush lines, in which the
lines from the first to the last that is not blank stand in their order, each without the same number
of spaces or tabs in front and without the blanks at its end. No visible character is lost, and
doing it again changes nothing. -/
theorem reindent_correct (s : String) :
    (reindent s = [] ↔ isBlankText s = true) ∧
    (isBlankText s = false → IsFlush (reindent s)) ∧
    (∃ k body, IsVisibleSpan (splitLines s.toList) body ∧
      List.Forall₂ (fun cs l => IsOutdented k cs l.toList) body (reindent s)) ∧
    (reindent s).flatMap (visibleChars ·.toList) = visibleChars s.toList ∧
    reindent (unlines (reindent s)) = reindent s := by
  refine ⟨reindent_eq_nil_iff, isFlush_reindent, exists_forall₂_isOutdented s,
    visibleChars_reindent s, ?_⟩
  cases hs : isBlankText s with
  | true =>
    rw [reindent_eq_nil_iff.2 hs]
    rfl
  | false => exact (isFlush_reindent hs).reindent_unlines

theorem reindent_correct_mixedBlanks :
    let s := "\r\n \t<a>\u00a0\r\n\t\t b\n\u3000\n  \t</a>\n\n"
    isBlankText s = false ∧ IsFlush (reindent s) ∧ reindent (unlines (reindent s)) = reindent s := by
  intro s
  obtain ⟨-, hflush, -, -, hagain⟩ := reindent_correct s
  have hvisible : isBlankText s = false := by decide
  exact ⟨hvisible, hflush hvisible, hagain⟩

example : reindent "\r\n \t<a>\u00a0\r\n\t\t b\n\u3000\n  \t</a>\n\n" =
    ["<a>", " b", "", "\t</a>"] := by decide

end GatewayPolicy.Text
