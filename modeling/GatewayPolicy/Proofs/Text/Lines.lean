import GatewayPolicy.Proofs.Text.Trimming
import GatewayPolicy.Text.Lines
/-!
# Lines, laws

A written text is a list of lines. What stands on one line holds no line feed and does not end in a
carriage return; such lines are found again when the text is cut at its line feeds.
-/

namespace GatewayPolicy.Text

variable {cs : List Char} {l : String} {ls ls' : List String}

/-! ## Lines as characters -/

/-- The characters of lines, each behind a line feed. -/
def lineChars (ls : List String) : List Char := ls.flatMap fun l => '\n' :: l.toList

@[simp] theorem lineChars_nil : lineChars [] = [] := rfl

@[simp] theorem lineChars_cons (l : String) (ls : List String) :
    lineChars (l :: ls) = '\n' :: (l.toList ++ lineChars ls) := rfl

@[simp] theorem lineChars_append (ls ls' : List String) :
    lineChars (ls ++ ls') = lineChars ls ++ lineChars ls' := by
  simp [lineChars]

/-- Joined lines are their characters without the first line feed. -/
theorem toList_unlines_cons (l : String) (ls : List String) :
    (unlines (l :: ls)).toList = l.toList ++ lineChars ls := by
  unfold unlines
  rw [String.toList_intercalate]
  induction ls generalizing l with
  | nil => simp [List.intercalate]
  | cons l' ls ih =>
    have h : List.intercalate "\n".toList (List.map String.toList (l :: l' :: ls)) =
        l.toList ++ '\n' :: List.intercalate "\n".toList (List.map String.toList (l' :: ls)) := by
      simp [List.intercalate]
    rw [h, ih, lineChars_cons]

theorem cons_toList_unlines (h : ls ≠ []) : '\n' :: (unlines ls).toList = lineChars ls := by
  obtain ⟨l, ls, rfl⟩ := List.exists_cons_of_ne_nil h
  rw [toList_unlines_cons, lineChars_cons]

@[simp] theorem toList_indentation (width depth : Nat) :
    (indentation width depth).toList = List.replicate (width * depth) ' ' := by
  rw [indentation, String.toList_ofList]

theorem isBlankRun_replicate (n : Nat) : IsBlankRun (List.replicate n ' ') := by
  intro c hc
  rw [List.eq_of_mem_replicate hc]
  decide

/-! ## Cutting into lines -/

/-- The text can stand on a line of its own: it is not empty, has no line feed and does not end in a
blank. -/
structure IsLine (cs : List Char) : Prop where
  /-- It has characters. -/
  ne_nil : cs ≠ []
  /-- It has no line feed. -/
  notMem : '\n' ∉ cs
  /-- Its end is visible. -/
  visible : cs.getLast?.any isBlank = false

/-- The end of a line is not taken for a part of the line end. -/
theorem IsLine.getLast?_ne (h : IsLine cs) : cs.getLast? ≠ some '\r' := by
  intro hr
  have hvisible := h.visible
  rw [hr] at hvisible
  exact absurd hvisible (by decide)

theorem IsLine.dropEndBlanks_eq (h : IsLine cs) : dropEndBlanks cs = cs := by
  obtain ⟨rest, c, rfl⟩ : ∃ rest c, cs = rest ++ [c] :=
    ⟨_, _, (List.dropLast_concat_getLast h.ne_nil).symm⟩
  have hc : isBlank c = false := by simpa using h.visible
  exact dropEndBlanks_append_singleton hc rest

/-- Cutting goes on behind a character that does not end the line. -/
theorem splitLines_cons {c : Char} (hc : c ≠ '\n') (hr : c ≠ '\r' ∨ cs.head? ≠ some '\n') :
    splitLines (c :: cs) =
      match splitLines cs with
      | [] => [[c]]
      | line :: lines => (c :: line) :: lines := by
  have hnot : ∀ rest, c = '\r' → cs = '\n' :: rest → False := by
    rintro rest rfl rfl
    rcases hr with hr | hr
    · exact hr rfl
    · exact hr rfl
  exact splitLines.eq_4 c cs hnot hc

theorem splitLines_append (h : '\n' ∉ cs) (hr : cs.getLast? ≠ some '\r') (rest : List Char) :
    splitLines (cs ++ '\n' :: rest) = cs :: splitLines rest := by
  induction cs with
  | nil => rw [List.nil_append, splitLines]
  | cons c cs ih =>
    have hc : c ≠ '\n' := fun hc => h (hc ▸ List.mem_cons_self)
    have hcs : '\n' ∉ cs := fun hm => h (List.mem_cons_of_mem c hm)
    cases cs with
    | nil =>
      have hc' : c ≠ '\r' := fun hc' => hr (by rw [hc']; rfl)
      rw [List.singleton_append, splitLines_cons hc (.inl hc'), splitLines]
    | cons d cs =>
      have hd : d ≠ '\n' := fun hd => hcs (hd ▸ List.mem_cons_self)
      rw [List.cons_append, splitLines_cons hc (.inr (by simpa using hd)),
        ih hcs (by simpa [List.getLast?_cons_cons] using hr)]

theorem splitLines_of_isLine (h : IsLine cs) : splitLines cs = [cs] := by
  have hne := h.ne_nil
  have hmem := h.notMem
  have hr := h.getLast?_ne
  clear h
  induction cs with
  | nil => exact absurd rfl hne
  | cons c cs ih =>
    have hc : c ≠ '\n' := fun hc => hmem (hc ▸ List.mem_cons_self)
    have hcs : '\n' ∉ cs := fun hm => hmem (List.mem_cons_of_mem c hm)
    cases cs with
    | nil =>
      have hc' : c ≠ '\r' := fun hc' => hr (by rw [hc']; rfl)
      rw [splitLines_cons hc (.inl hc'), splitLines]
    | cons d cs =>
      have hd : d ≠ '\n' := fun hd => hcs (hd ▸ List.mem_cons_self)
      rw [splitLines_cons hc (.inr (by simpa using hd)),
        ih (by simp) hcs (by simpa [List.getLast?_cons_cons] using hr)]

/-- Lines are found again, empty ones too if a full one is the last. -/
theorem splitLines_unlines (h : ∀ l ∈ ls, l = "" ∨ IsLine l.toList)
    (hlast : ∀ l ∈ ls.getLast?, l ≠ "") :
    splitLines (unlines ls).toList = ls.map String.toList := by
  induction ls with
  | nil => rfl
  | cons l ls ih =>
    obtain ⟨hl, hls⟩ := List.forall_mem_cons.1 h
    cases ls with
    | nil =>
      have hline : IsLine l.toList := hl.resolve_left (hlast l rfl)
      rw [toList_unlines_cons, lineChars_nil, List.append_nil, splitLines_of_isLine hline]
      rfl
    | cons l' ls =>
      have hend : '\n' ∉ l.toList ∧ l.toList.getLast? ≠ some '\r' := by
        rcases hl with rfl | hl
        · simp
        · exact ⟨hl.notMem, hl.getLast?_ne⟩
      have ih' := ih hls (by simpa only [List.getLast?_cons_cons] using hlast)
      rw [toList_unlines_cons] at ih' ⊢
      rw [lineChars_cons, splitLines_append hend.1 hend.2, ih']
      rfl

theorem lines_unlines (h : ∀ l ∈ ls, IsLine l.toList) : lines (unlines ls) = ls := by
  have hne : ∀ l ∈ ls.getLast?, l ≠ "" := by
    rintro l hl rfl
    exact (h "" (List.mem_of_getLast? hl)).ne_nil rfl
  rw [lines, splitLines_unlines (fun l hl => .inr (h l hl)) hne, List.map_map]
  simp [Function.comp_def]

theorem lines_of_isLine {s : String} (h : IsLine s.toList) : lines s = [s] := by
  rw [lines, splitLines_of_isLine h]
  simp

/-! ## What stands on the lines -/

/-- Only blanks stand between the lines. -/
theorem visibleChars_splitLines (cs : List Char) :
    (splitLines cs).flatMap visibleChars = visibleChars cs := by
  fun_induction splitLines cs with
  | case1 => rfl
  | case2 cs ih => exact ih
  | case3 cs ih => exact ih
  | case4 c cs hr hc hnil ih =>
    rw [hnil, List.flatMap_nil] at ih
    rw [List.flatMap_singleton, ← List.singleton_append (l := cs), visibleChars_append, ← ih,
      List.append_nil]
  | case5 c cs hr hc l ls hls ih =>
    rw [hls, List.flatMap_cons] at ih
    rw [List.flatMap_cons, ← List.singleton_append (l := l), visibleChars_append, List.append_assoc,
      ih, ← visibleChars_append, List.singleton_append]

theorem isBlankRun_iff_splitLines : IsBlankRun cs ↔ ∀ l ∈ splitLines cs, IsBlankRun l := by
  rw [← visibleChars_eq_nil_iff, ← visibleChars_splitLines, List.flatMap_eq_nil_iff]
  simp only [visibleChars_eq_nil_iff]

theorem notMem_of_mem_splitLines {l : List Char} (h : l ∈ splitLines cs) : '\n' ∉ l := by
  fun_induction splitLines cs generalizing l with
  | case1 => simp at h
  | case2 cs ih =>
    rcases List.mem_cons.1 h with rfl | h
    · simp
    · exact ih h
  | case3 cs ih =>
    rcases List.mem_cons.1 h with rfl | h
    · simp
    · exact ih h
  | case4 c cs hr hc hnil ih =>
    rw [List.mem_singleton.1 h, List.mem_singleton]
    exact Ne.symm hc
  | case5 c cs hr hc l' ls hls ih =>
    rw [hls] at ih
    rcases List.mem_cons.1 h with rfl | h
    · rw [List.mem_cons, not_or]
      exact ⟨Ne.symm hc, ih List.mem_cons_self⟩
    · exact ih (List.mem_cons_of_mem l' h)

end GatewayPolicy.Text
