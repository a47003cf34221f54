import GatewayPolicy.Proofs.Text.Lines
/-!
# Lines inside of a text

A text that is put into a document at some depth may have line feeds of its own. Every line of it gets
the spaces of that depth, so what stands in the document is not the text itself. Spaces are put behind
line feeds only, and a carriage return goes only right before one: the visible characters, what is
trimmed off, and the places of the other characters stay what they are.
-/

namespace GatewayPolicy.Text

variable {pad cs ds : List Char} {c : Char}

/-- A character that lines can end in. -/
def isLineEnd (c : Char) : Bool := c == '\n' || c == '\r'

/-- The text starts with the end of a line. -/
def startsEmptyLine : List Char → Bool
  | '\n' :: _ => true
  | '\r' :: '\n' :: _ => true
  | _ => false

/-- The text with padding in front of all its lines but the first, empty lines aside. -/
def padLines (pad : List Char) : List Char → List Char
  | [] => []
  | '\r' :: '\n' :: cs => padLines pad ('\n' :: cs)
  | '\n' :: cs => '\n' :: ((if startsEmptyLine cs then [] else pad) ++ padLines pad cs)
  | c :: cs => c :: padLines pad cs

@[simp] theorem padLines_nil (pad : List Char) : padLines pad [] = [] := rfl

theorem padLines_return (pad cs : List Char) :
    padLines pad ('\r' :: '\n' :: cs) = padLines pad ('\n' :: cs) := by
  rw [padLines]

theorem padLines_lineFeed (pad cs : List Char) :
    padLines pad ('\n' :: cs) =
      '\n' :: ((if startsEmptyLine cs then [] else pad) ++ padLines pad cs) := by
  rw [padLines]

theorem padLines_cons' (hc : c ≠ '\n') (hr : c = '\r' → cs.head? ≠ some '\n') :
    padLines pad (c :: cs) = c :: padLines pad cs :=
  padLines.eq_4 pad c cs (fun ds h h' => hr h (by rw [h']; rfl)) hc

theorem padLines_cons (hc : isLineEnd c = false) (pad cs : List Char) :
    padLines pad (c :: cs) = c :: padLines pad cs := by
  refine padLines_cons' ?_ ?_
  · rintro rfl
    simp [isLineEnd] at hc
  · rintro rfl
    simp [isLineEnd] at hc

theorem startsEmptyLine_return (cs : List Char) :
    startsEmptyLine ('\r' :: cs) = (cs.head? == some '\n') := by
  match cs with
  | [] => rfl
  | c :: cs =>
    by_cases hc : c = '\n'
    · rw [hc]
      rfl
    · simp [startsEmptyLine, hc]

theorem startsEmptyLine_eq_false (hr : ∀ ds, c = '\r' → cs = '\n' :: ds → False)
    (hc : c = '\n' → False) : startsEmptyLine (c :: cs) = false := by
  unfold startsEmptyLine
  split
  · rename_i heq
    exact (hc (List.cons.inj heq).1).elim
  · rename_i heq
    exact (hr _ (List.cons.inj heq).1 (List.cons.inj heq).2).elim
  · rfl

theorem startsEmptyLine_cons (hc : isLineEnd c = false) (cs : List Char) :
    startsEmptyLine (c :: cs) = false := by
  refine startsEmptyLine_eq_false ?_ ?_
  · rintro ds rfl
    simp [isLineEnd] at hc
  · rintro rfl
    simp [isLineEnd] at hc

theorem startsEmptyLine_append_cons (hc : isLineEnd c = false) (cs ds : List Char) :
    startsEmptyLine (cs ++ c :: ds) = startsEmptyLine cs := by
  match cs with
  | [] => exact startsEmptyLine_cons hc ds
  | [d] =>
    have hc' : c ≠ '\n' := fun h => by simp [h, isLineEnd] at hc
    by_cases hd : d = '\n'
    · rw [hd]
      rfl
    · simp [startsEmptyLine, hd, hc']
  | d :: d' :: cs =>
    by_cases hd : d = '\n'
    · rw [hd]
      rfl
    · by_cases hr : d = '\r'
      · by_cases hd' : d' = '\n'
        · rw [hr, hd']
          rfl
        · simp [startsEmptyLine, hd, hd']
      · simp [startsEmptyLine, hd, hr]

/-! ## Pieces -/

/-- A character that no line ends in keeps its place. -/
theorem padLines_append_cons (hc : isLineEnd c = false) (pad cs ds : List Char) :
    padLines pad (cs ++ c :: ds) = padLines pad cs ++ c :: padLines pad ds := by
  fun_induction padLines pad cs with
  | case1 => exact padLines_cons hc pad ds
  | case2 cs ih => rwa [List.cons_append, List.cons_append, padLines_return]
  | case3 cs ih =>
    rw [List.cons_append, padLines_lineFeed, startsEmptyLine_append_cons hc, ih]
    simp
  | case4 d cs hr hd ih =>
    rw [List.cons_append, padLines_cons' hd, ih, List.cons_append]
    intro hd' hhead
    cases cs with
    | nil =>
      obtain rfl : c = '\n' := by simpa using hhead
      simp [isLineEnd] at hc
    | cons d' cs => exact hr cs hd' (by rw [Option.some.inj hhead])

/-- Characters in front that no line ends in stay as they are. -/
theorem padLines_append (h : ∀ c ∈ cs, isLineEnd c = false) (pad ds : List Char) :
    padLines pad (cs ++ ds) = cs ++ padLines pad ds := by
  induction cs with
  | nil => rfl
  | cons c cs ih =>
    obtain ⟨hc, hcs⟩ := List.forall_mem_cons.1 h
    rw [List.cons_append, padLines_cons hc, ih hcs, List.cons_append]

theorem padLines_of_forall (h : ∀ c ∈ cs, isLineEnd c = false) (pad : List Char) :
    padLines pad cs = cs := by
  simpa using padLines_append h pad []

theorem isLineEnd_of_isBlank (h : isBlank c = false) : isLineEnd c = false := by
  rw [Bool.eq_false_iff]
  intro hc
  rw [isLineEnd, Bool.or_eq_true, beq_iff_eq, beq_iff_eq] at hc
  rcases hc with rfl | rfl
  · simp [isBlank] at h
  · simp [isBlank] at h

/-- A text without line feeds stays as it is. -/
theorem padLines_of_notMem (h : '\n' ∉ cs) (pad : List Char) : padLines pad cs = cs := by
  induction cs with
  | nil => rfl
  | cons c cs ih =>
    rw [List.mem_cons, not_or] at h
    rw [padLines_cons' (Ne.symm h.1) fun _ hhead => h.2 (List.mem_of_mem_head? hhead), ih h.2]

theorem padLines_ne_nil (h : cs ≠ []) : padLines pad cs ≠ [] := by
  fun_cases padLines pad cs with
  | case1 => exact absurd rfl h
  | case2 cs => simp [padLines_lineFeed]
  | case3 => simp
  | case4 => simp

theorem lineFeed_mem_padLines (h : '\n' ∈ cs) (pad : List Char) : '\n' ∈ padLines pad cs := by
  fun_induction padLines pad cs with
  | case1 => simp at h
  | case2 cs ih => exact ih (by simp)
  | case3 cs ih => simp
  | case4 c cs hr hc ih =>
    rcases List.mem_cons.1 h with rfl | h
    · exact absurd rfl hc
    · exact List.mem_cons_of_mem c (ih h)

/-- Only characters of the text and of the padding stand in a padded text. -/
theorem mem_of_mem_padLines (h : c ∈ padLines pad cs) : c ∈ cs ∨ c ∈ pad := by
  fun_induction padLines pad cs with
  | case1 => simp at h
  | case2 cs ih =>
    rcases ih h with h | h
    · exact .inl (List.mem_cons_of_mem _ h)
    · exact .inr h
  | case3 cs ih =>
    rw [List.mem_cons, List.mem_append] at h
    rcases h with rfl | h | h
    · exact .inl List.mem_cons_self
    · split at h
      · simp at h
      · exact .inr h
    · rcases ih h with h | h
      · exact .inl (List.mem_cons_of_mem _ h)
      · exact .inr h
  | case4 d cs hr hd ih =>
    rcases List.mem_cons.1 h with rfl | h
    · exact .inl List.mem_cons_self
    · rcases ih h with h | h
      · exact .inl (List.mem_cons_of_mem _ h)
      · exact .inr h

/-! ## Blanks and visible characters -/

/-- What is put behind a line feed: nothing, if an empty line starts there. -/
theorem isBlankRun_ite_startsEmptyLine (hpad : IsBlankRun pad) (cs : List Char) :
    IsBlankRun (if startsEmptyLine cs then [] else pad) := by
  split
  · exact isBlankRun_nil
  · exact hpad

theorem isBlankRun_padLines (hpad : IsBlankRun pad) (h : IsBlankRun cs) :
    IsBlankRun (padLines pad cs) := by
  intro c hc
  rcases mem_of_mem_padLines hc with hc | hc
  · exact h c hc
  · exact hpad c hc

/-- A text that starts and ends visibly has nothing to trim. -/
theorem trimChars_of_visible (hc : isBlank c = false) {d : Char} (hd : isBlank d = false)
    (heq : c :: cs = ds ++ [d]) : trimChars (c :: cs) = c :: cs := by
  rw [trimChars, skipBlanks_cons hc, heq, dropEndBlanks_append_singleton hd]

/-- Trimming and padding do not meet. -/
theorem trimChars_padLines (hpad : IsBlankRun pad) (cs : List Char) :
    trimChars (padLines pad cs) = padLines pad (trimChars cs) := by
  obtain ⟨ws, ws', hws, hws', heq⟩ := exists_surround_trimChars cs
  cases ht : trimChars cs with
  | nil =>
    have hblank : IsBlankRun cs := trimChars_eq_nil_iff.1 ht
    exact trimChars_eq_nil_iff.2 (isBlankRun_padLines hpad hblank)
  | cons c rest =>
    -- The first and the last character are visible, so the padded text can be cut there.
    obtain ⟨ds, d, hds⟩ : ∃ ds d, c :: rest = ds ++ [d] :=
      ⟨_, _, (List.dropLast_concat_getLast (List.cons_ne_nil c rest)).symm⟩
    have hc : isBlank c = false := isBlank_of_trimChars_eq_cons ht
    have hd : isBlank d = false := isBlank_of_trimChars_eq_append (ht.trans hds)
    have hfirst := padLines_cons (isLineEnd_of_isBlank hc) pad rest
    have hlast := padLines_append_cons (isLineEnd_of_isBlank hd) pad ds []
    rw [← hds, hfirst, padLines_nil] at hlast
    have hpadded : padLines pad cs =
        padLines pad ws ++ padLines pad (c :: rest) ++ padLines pad ws' := by
      have hend := padLines_append_cons (isLineEnd_of_isBlank hd) pad ds ws'
      rw [List.append_cons, ← hds] at hend
      rw [heq, ht, List.append_assoc, List.cons_append, padLines_append_cons (isLineEnd_of_isBlank hc),
        ← padLines_cons (isLineEnd_of_isBlank hc), ← List.cons_append, hend, hfirst, hlast]
      simp
    rw [hpadded, trimChars_surround (isBlankRun_padLines hpad hws) (isBlankRun_padLines hpad hws'),
      hfirst, trimChars_of_visible hc hd hlast]

/-! ## Marks -/

theorem infix_of_infix_append {mark : List Char} (hmark : ∀ c ∈ mark, isBlank c = false)
    (hne : mark ≠ []) (hpad : IsBlankRun pad) (h : mark <:+: pad ++ cs) : mark <:+: cs := by
  induction pad with
  | nil => exact h
  | cons d pad ih =>
    obtain ⟨hd, hpad⟩ := isBlankRun_cons.1 hpad
    rw [List.cons_append] at h
    rcases List.infix_cons_iff.1 h with h | h
    · obtain ⟨c, mark, rfl⟩ := List.exists_cons_of_ne_nil hne
      obtain ⟨rfl, -⟩ := List.cons_prefix_cons.1 h
      rw [hmark c List.mem_cons_self] at hd
      simp at hd
    · exact ih hpad h

theorem prefix_of_prefix_padLines {mark : List Char} (hmark : ∀ c ∈ mark, isBlank c = false)
    (h : mark <+: padLines pad cs) : mark <+: cs := by
  induction mark generalizing cs with
  | nil => exact List.nil_prefix
  | cons m mark ih =>
    obtain ⟨hm, hmark⟩ := List.forall_mem_cons.1 hmark
    fun_cases padLines pad cs with
    | case1 => exact h
    | case2 cs =>
      rw [padLines_return, padLines_lineFeed] at h
      obtain ⟨rfl, -⟩ := List.cons_prefix_cons.1 h
      simp [isBlank] at hm
    | case3 cs =>
      rw [padLines_lineFeed] at h
      obtain ⟨rfl, -⟩ := List.cons_prefix_cons.1 h
      simp [isBlank] at hm
    | case4 c cs hr hc =>
      have hcons := padLines.eq_4 pad c cs hr hc
      rw [hcons] at h
      obtain ⟨rfl, hrest⟩ := List.cons_prefix_cons.1 h
      exact List.cons_prefix_cons.2 ⟨rfl, ih hmark hrest⟩

/-- Visible characters in front stay in front, and what follows is padded on its own. -/
theorem exists_append_of_padLines_eq {m r : List Char} (hmark : ∀ c ∈ m, isBlank c = false)
    (h : padLines pad cs = m ++ r) : ∃ ds, cs = m ++ ds ∧ padLines pad ds = r := by
  have hprefix : m <+: padLines pad cs := by
    rw [h]
    exact List.prefix_append m r
  obtain ⟨ds, rfl⟩ := prefix_of_prefix_padLines hmark hprefix
  refine ⟨ds, rfl, ?_⟩
  rw [padLines_append fun c hc => isLineEnd_of_isBlank (hmark c hc)] at h
  exact List.append_cancel_left h

/-- Padding brings no visible characters together. -/
theorem infix_of_infix_padLines {mark : List Char} (hmark : ∀ c ∈ mark, isBlank c = false)
    (hpad : IsBlankRun pad) (h : mark <:+: padLines pad cs) : mark <:+: cs := by
  by_cases hne : mark = []
  · rw [hne]
    exact List.nil_infix
  · fun_induction padLines pad cs with
    | case1 => exact h
    | case2 cs ih => exact (ih h).trans (List.suffix_cons _ _).isInfix
    | case3 cs ih =>
      rcases List.infix_cons_iff.1 h with h | h
      · obtain ⟨c, mark, rfl⟩ := List.exists_cons_of_ne_nil hne
        obtain ⟨rfl, -⟩ := List.cons_prefix_cons.1 h
        have hc := hmark _ List.mem_cons_self
        simp [isBlank] at hc
      · have hrun := isBlankRun_ite_startsEmptyLine hpad cs
        exact (ih (infix_of_infix_append hmark hne hrun h)).trans (List.suffix_cons _ _).isInfix
    | case4 c cs hr hc ih =>
      rcases List.infix_cons_iff.1 h with h | h
      · rw [← padLines.eq_4 pad c cs hr hc] at h
        exact (prefix_of_prefix_padLines hmark h).isInfix
      · exact (ih h).trans (List.suffix_cons _ _).isInfix

/-! ## Characters written in several -/

section FlatMap

variable {f : Char → List Char} (hend : ∀ c, isLineEnd c = true → f c = [c])
  (hother : ∀ c, isLineEnd c = false → f c ≠ [] ∧ ∀ d ∈ f c, isLineEnd d = false)

include hend hother

theorem head?_flatMap_eq_lineFeed (cs : List Char) :
    (cs.flatMap f).head? = some '\n' ↔ cs.head? = some '\n' := by
  cases cs with
  | nil => rfl
  | cons c cs =>
    rw [List.flatMap_cons]
    cases hc : isLineEnd c with
    | true => rw [hend c hc, List.singleton_append, List.head?_cons, List.head?_cons]
    | false =>
      obtain ⟨hne, hall⟩ := hother c hc
      obtain ⟨d, ds, hd⟩ := List.exists_cons_of_ne_nil hne
      have hline := hall d (hd ▸ List.mem_cons_self)
      rw [hd, List.cons_append, List.head?_cons, List.head?_cons, Option.some_inj, Option.some_inj]
      constructor
      · rintro rfl
        simp [isLineEnd] at hline
      · rintro rfl
        simp [isLineEnd] at hc

theorem startsEmptyLine_flatMap (cs : List Char) :
    startsEmptyLine (cs.flatMap f) = startsEmptyLine cs := by
  cases cs with
  | nil => rfl
  | cons c cs =>
    rw [List.flatMap_cons]
    cases hc : isLineEnd c with
    | false =>
      obtain ⟨hne, hall⟩ := hother c hc
      obtain ⟨d, ds, hd⟩ := List.exists_cons_of_ne_nil hne
      rw [hd, List.cons_append, startsEmptyLine_cons hc,
        startsEmptyLine_cons (hall d (hd ▸ List.mem_cons_self))]
    | true =>
      rw [hend c hc, List.singleton_append]
      rw [isLineEnd, Bool.or_eq_true, beq_iff_eq, beq_iff_eq] at hc
      rcases hc with rfl | rfl
      · rfl
      · rw [startsEmptyLine_return, startsEmptyLine_return, Bool.eq_iff_iff, beq_iff_eq, beq_iff_eq,
          head?_flatMap_eq_lineFeed hend hother]

/-- Padding may come before or after characters are written in another way, if line ends and the
padding stay what they are. -/
theorem padLines_flatMap (hpad : pad.flatMap f = pad) (cs : List Char) :
    padLines pad (cs.flatMap f) = (padLines pad cs).flatMap f := by
  have hfeed : f '\n' = ['\n'] := hend '\n' rfl
  fun_induction padLines pad cs with
  | case1 => rfl
  | case2 cs ih =>
    rw [List.flatMap_cons, hfeed, List.singleton_append] at ih
    rw [List.flatMap_cons, List.flatMap_cons, hend '\r' rfl, hfeed, List.singleton_append,
      List.singleton_append, padLines_return, ih]
  | case3 cs ih =>
    have hgap : (if startsEmptyLine cs then [] else pad).flatMap f =
        if startsEmptyLine cs then [] else pad := by
      split
      · rfl
      · exact hpad
    rw [List.flatMap_cons, hfeed, List.singleton_append, padLines_lineFeed,
      startsEmptyLine_flatMap hend hother, ih, List.flatMap_cons, hfeed, List.flatMap_append, hgap,
      List.singleton_append]
  | case4 c cs hr hc ih =>
    cases hline : isLineEnd c with
    | false => rw [List.flatMap_cons, padLines_append (hother c hline).2, ih, List.flatMap_cons]
    | true =>
      rw [List.flatMap_cons, hend c hline, List.singleton_append, padLines_cons' hc, ih,
        List.flatMap_cons, hend c hline, List.singleton_append]
      intro hc' hhead
      obtain ⟨ds, rfl⟩ :=
        List.head?_eq_some_iff.1 ((head?_flatMap_eq_lineFeed hend hother cs).1 hhead)
      exact hr ds hc' rfl

end FlatMap

/-! ## Lines -/

/-- A line with padding; an empty line stays empty. -/
def padLine (pad l : List Char) : List Char := if l.isEmpty then l else pad ++ l

/-- The first line of a text is padded if it is not empty. -/
theorem padLine_append {l : List Char} {ls : List (List Char)} (hl : l.isEmpty = startsEmptyLine cs)
    (heq : padLines pad cs = l ++ ls.flatMap fun l => '\n' :: padLine pad l) :
    padLines pad ('\n' :: cs) = (l :: ls).flatMap fun l => '\n' :: padLine pad l := by
  rw [padLines_lineFeed, heq, List.flatMap_cons, padLine, hl]
  cases startsEmptyLine cs <;> simp

/-- A text that does not end in a line feed is its lines, and padding pads all of them but the
first. -/
theorem exists_splitLines (hne : cs ≠ []) (hlast : cs.getLast? ≠ some '\n') (pad : List Char) :
    ∃ l ls, splitLines cs = l :: ls ∧ l.isEmpty = startsEmptyLine cs ∧
      padLines pad cs = l ++ ls.flatMap fun l => '\n' :: padLine pad l := by
  have rest {c : Char} {cs : List Char} (h : (c :: cs).getLast? ≠ some '\n')
      (hc : c = '\n') : cs ≠ [] ∧ cs.getLast? ≠ some '\n' := by
    cases cs with
    | nil => exact absurd (by rw [hc]; rfl) h
    | cons d cs => exact ⟨by simp, by simpa [List.getLast?_cons_cons] using h⟩
  fun_induction splitLines cs with
  | case1 => exact absurd rfl hne
  | case2 cs ih =>
    rw [List.getLast?_cons_cons] at hlast
    obtain ⟨l, ls, hls, hl, heq⟩ := ih (rest hlast rfl).1 (rest hlast rfl).2
    refine ⟨[], l :: ls, by rw [hls], rfl, ?_⟩
    rw [padLines_return, padLine_append hl heq, List.nil_append]
  | case3 cs ih =>
    obtain ⟨l, ls, hls, hl, heq⟩ := ih (rest hlast rfl).1 (rest hlast rfl).2
    refine ⟨[], l :: ls, by rw [hls], rfl, ?_⟩
    rw [padLine_append hl heq, List.nil_append]
  | case4 c cs hr hc hnil ih =>
    have hcs : cs = [] := by
      by_contra hcs
      have hlast' : cs.getLast? ≠ some '\n' := by
        rwa [List.getLast?_cons_of_ne_nil hcs] at hlast
      obtain ⟨l, ls, hls, -, -⟩ := ih hcs hlast'
      rw [hnil] at hls
      simp at hls
    subst hcs
    refine ⟨[c], [], rfl, ?_, ?_⟩
    · rw [startsEmptyLine_eq_false hr hc, List.isEmpty_cons]
    · rw [padLines.eq_4 pad c [] hr hc]
      rfl
  | case5 c cs hr hc l ls hls ih =>
    have hcs : cs ≠ [] := by
      rintro rfl
      simp [splitLines] at hls
    have hlast' : cs.getLast? ≠ some '\n' := by
      rwa [List.getLast?_cons_of_ne_nil hcs] at hlast
    obtain ⟨l', ls', hls', -, heq⟩ := ih hcs hlast'
    rw [hls] at hls'
    obtain ⟨rfl, rfl⟩ := List.cons.inj hls'
    refine ⟨c :: l, ls, rfl, ?_, ?_⟩
    · rw [startsEmptyLine_eq_false hr hc, List.isEmpty_cons]
    · rw [padLines.eq_4 pad c cs hr hc, heq, List.cons_append]

end GatewayPolicy.Text
