import Mathlib.Order.Bounds.Basic
import GatewayPolicy.Proofs.Xml.Cursor
/-!
# Where expressions end

An expression ends where the brackets of its kind are balanced for the first time, those in literals
aside. The scanner finds that place in one pass, with a count of open brackets and a mark of where
in a literal it stands. Here its answer is taken as a byte offset of the document and compared with
all offsets at which the brackets are balanced: it is the least of them, and it does not depend on
what follows.
-/

namespace GatewayPolicy.Xml

open Text

variable {b : Bracket} {mode mode' : ScanMode} {inner inner' start n : Nat} {c : Char}
  {cs e front p piece r : List Char} {document document' : String}

/-! ## Balance -/

mutual

/-- The characters that stand outside of double-quoted literals. A literal without an end goes on to
the end of the text. -/
def codeChars : List Char → List Char
  | [] => []
  | c :: cs => if c = '"' then codeCharsInLiteral cs else c :: codeChars cs

/-- The same for a text that starts in a literal. A backslash takes the next character with it. -/
def codeCharsInLiteral : List Char → List Char
  | [] => []
  | ['\\'] => []
  | '\\' :: _ :: cs => codeCharsInLiteral cs
  | c :: cs => if c = '"' then codeChars cs else codeCharsInLiteral cs

end

/-- The brackets of the kind that are closed outside of literals are as many as those that are
opened there, and some are closed. -/
structure IsBalanced (b : Bracket) (cs : List Char) : Prop where
  /-- As many are closed as are opened. -/
  count_eq : (codeChars cs).count b.closing = (codeChars cs).count b.opening
  /-- At least one is closed. -/
  count_pos : 1 ≤ (codeChars cs).count b.closing

instance (b : Bracket) (cs : List Char) : Decidable (IsBalanced b cs) :=
  decidable_of_iff (_ ∧ _) ⟨fun h => ⟨h.1, h.2⟩, fun h => ⟨h.1, h.2⟩⟩

/-- How many more brackets of the kind are opened than closed. -/
def openBrackets (b : Bracket) (cs : List Char) : Int := cs.count b.opening - cs.count b.closing

@[simp] theorem openBrackets_nil (b : Bracket) : openBrackets b [] = 0 := rfl

@[simp] theorem openBrackets_cons_opening (b : Bracket) (cs : List Char) :
    openBrackets b (b.opening :: cs) = openBrackets b cs + 1 := by
  have hne : b.opening ≠ b.closing := by cases b <;> decide
  rw [openBrackets, openBrackets, List.count_cons_self, List.count_cons_of_ne hne]
  omega

@[simp] theorem openBrackets_cons_closing (b : Bracket) (cs : List Char) :
    openBrackets b (b.closing :: cs) = openBrackets b cs - 1 := by
  have hne : b.closing ≠ b.opening := by cases b <;> decide
  rw [openBrackets, openBrackets, List.count_cons_self, List.count_cons_of_ne hne]
  omega

theorem openBrackets_cons_of_ne (h : c ≠ b.opening) (h' : c ≠ b.closing) (cs : List Char) :
    openBrackets b (c :: cs) = openBrackets b cs := by
  rw [openBrackets, openBrackets, List.count_cons_of_ne h, List.count_cons_of_ne h']

theorem isBalanced_iff : IsBalanced b cs ↔
    openBrackets b (codeChars cs) = 0 ∧ 1 ≤ (codeChars cs).count b.closing := by
  rw [openBrackets]
  exact ⟨fun h => ⟨by have := h.count_eq; omega, h.count_pos⟩, fun h => ⟨by omega, h.2⟩⟩

/-! ## One step and a whole run -/

/-- The characters outside of literals, in a text that starts at the place in an expression. -/
def codeCharsFrom : ScanMode → List Char → List Char
  | .code, cs => codeChars cs
  | .literal, cs => codeCharsInLiteral cs
  | .escaped, cs => codeCharsInLiteral (cs.drop 1)

theorem codeChars_quote (cs : List Char) : codeChars ('"' :: cs) = codeCharsInLiteral cs := by
  rw [codeChars, if_pos rfl]

theorem codeChars_cons (h : c ≠ '"') (cs : List Char) :
    codeChars (c :: cs) = c :: codeChars cs := by
  rw [codeChars, if_neg h]

theorem codeCharsInLiteral_backslash (cs : List Char) :
    codeCharsInLiteral ('\\' :: cs) = codeCharsInLiteral (cs.drop 1) := by
  cases cs with
  | nil => rw [codeCharsInLiteral, List.drop_nil, codeCharsInLiteral]
  | cons c cs => rw [codeCharsInLiteral, List.drop_one, List.tail_cons]

theorem codeCharsInLiteral_cons (h : c ≠ '\\') (cs : List Char) :
    codeCharsInLiteral (c :: cs) = if c = '"' then codeChars cs else codeCharsInLiteral cs := by
  rw [codeCharsInLiteral]
  · exact fun hc _ => h hc
  · exact fun _ _ hc _ => h hc

theorem codeCharsFrom_nil (mode : ScanMode) : codeCharsFrom mode [] = [] := by
  cases mode <;> simp [codeCharsFrom, codeChars, codeCharsInLiteral]

/-- A step counts the brackets that it takes and leaves the others to be counted. -/
theorem openBrackets_of_scanStep (h : scanStep b mode inner c = some (mode', inner'))
    (cs : List Char) :
    inner + openBrackets b (codeCharsFrom mode (c :: cs)) =
      inner' + openBrackets b (codeCharsFrom mode' cs) := by
  cases mode with
  | escaped =>
    obtain ⟨rfl, rfl⟩ := Prod.mk.inj (Option.some.inj h)
    rfl
  | literal =>
    obtain ⟨rfl, rfl⟩ := Prod.mk.inj (Option.some.inj h)
    by_cases hc : c = '\\'
    · rw [if_pos hc, hc, codeCharsFrom, codeCharsInLiteral_backslash]
      rfl
    · rw [if_neg hc, codeCharsFrom, codeCharsInLiteral_cons hc]
      split
      · rfl
      · rfl
  | code =>
    unfold scanStep at h
    dsimp only at h
    split at h
    · rename_i hc
      obtain ⟨rfl, rfl⟩ := Prod.mk.inj (Option.some.inj h)
      rw [hc, codeCharsFrom, codeChars_quote, codeCharsFrom]
    · rename_i hquote
      rw [codeCharsFrom, codeChars_cons hquote]
      split at h
      · rename_i hopening
        obtain ⟨rfl, rfl⟩ := Prod.mk.inj (Option.some.inj h)
        rw [hopening, openBrackets_cons_opening, codeCharsFrom]
        omega
      · rename_i hopening
        split at h
        · rename_i hclosing
          split at h
          · simp at h
          · obtain ⟨rfl, rfl⟩ := Prod.mk.inj (Option.some.inj h)
            rw [hclosing, openBrackets_cons_closing, codeCharsFrom]
            omega
        · rename_i hclosing
          obtain ⟨rfl, rfl⟩ := Prod.mk.inj (Option.some.inj h)
          rw [openBrackets_cons_of_ne hopening hclosing, codeCharsFrom]

/-- The scanner stops behind the bracket that closes one more than were opened. -/
theorem openBrackets_of_scanToClosing (h : scanToClosing b mode inner cs = some (e, r)) :
    inner + openBrackets b (codeCharsFrom mode e) = -1 := by
  -- The brackets that are counted and those that are left to be counted keep their sum.
  induction cs generalizing mode inner e with
  | nil => simp [scanToClosing] at h
  | cons c cs ih =>
    rw [scanToClosing] at h
    split at h
    · rename_i hstep
      obtain ⟨rfl, -⟩ := Prod.mk.inj (Option.some.inj h)
      obtain ⟨rfl, rfl, rfl⟩ := scanStep_eq_none_iff.1 hstep
      cases b <;> decide
    · rename_i hstep
      obtain ⟨⟨e', r'⟩, hscan, heq⟩ := Option.map_eq_some_iff.1 h
      obtain ⟨rfl, rfl⟩ := Prod.mk.inj heq
      rw [openBrackets_of_scanStep hstep, ih hscan]

/-- As long as the scanner goes on no more brackets are closed than were opened. -/
theorem openBrackets_of_scanToClosing_eq_none (h : scanToClosing b mode inner cs = none) :
    0 ≤ inner + openBrackets b (codeCharsFrom mode cs) := by
  induction cs generalizing mode inner with
  | nil =>
    rw [codeCharsFrom_nil, openBrackets_nil]
    omega
  | cons c cs ih =>
    rw [scanToClosing] at h
    split at h
    · simp at h
    · rename_i hstep
      rw [openBrackets_of_scanStep hstep]
      exact ih (Option.map_eq_none_iff.1 h)

theorem codeChars_opening (b : Bracket) (cs : List Char) :
    codeChars ('@' :: b.opening :: cs) = '@' :: b.opening :: codeChars cs := by
  rw [codeChars_cons (by decide), codeChars_cons (by cases b <;> decide)]

theorem openBrackets_codeChars_opening (b : Bracket) (cs : List Char) :
    openBrackets b (codeChars ('@' :: b.opening :: cs)) = openBrackets b (codeChars cs) + 1 := by
  rw [codeChars_opening, openBrackets_cons_of_ne (by cases b <;> decide) (by cases b <;> decide),
    openBrackets_cons_opening]

/-- An expression is balanced. -/
theorem isBalanced_of_scanExpression? (h : scanExpression? ('@' :: b.opening :: cs) = some (e, r)) :
    IsBalanced b e := by
  rw [scanExpression?_cons] at h
  obtain ⟨⟨e', r'⟩, hscan, heq⟩ := Option.map_eq_some_iff.1 h
  obtain ⟨rfl, -⟩ := Prod.mk.inj heq
  have hopen : openBrackets b (codeChars e') = -1 := by
    simpa [codeCharsFrom] using openBrackets_of_scanToClosing hscan
  have hclosed : 1 ≤ (codeChars e').count b.closing := by
    rw [openBrackets] at hopen
    omega
  refine isBalanced_iff.2 ⟨?_, ?_⟩
  · rw [openBrackets_codeChars_opening, hopen]
    rfl
  · have hne : '@' ≠ b.closing ∧ b.opening ≠ b.closing := by cases b <;> decide
    rw [codeChars_opening, List.count_cons_of_ne hne.1, List.count_cons_of_ne hne.2]
    exact hclosed

/-- The first closing bracket stands in the literal, because the quote before it is taken by the
backslash. -/
example : IsBalanced .round "@(\"\\\")\")".toList ∧ ¬ IsBalanced .round "@(\"\\\")".toList := by
  decide

/-- A balanced text that starts like an expression starts with one. -/
theorem exists_scanExpression?_of_isBalanced (hp : p <+: '@' :: b.opening :: cs)
    (h : IsBalanced b p) : ∃ e r, scanExpression? p = some (e, r) := by
  obtain ⟨hopen, hclosed⟩ := isBalanced_iff.1 h
  match p with
  | [] => simp [codeChars] at hclosed
  | [c] =>
    obtain rfl : c = '@' := by simpa using hp
    cases b <;> exact absurd hclosed (by decide)
  | c :: c' :: p =>
    obtain ⟨rfl, htail⟩ := List.cons_prefix_cons.1 hp
    obtain ⟨rfl, -⟩ := List.cons_prefix_cons.1 htail
    rw [openBrackets_codeChars_opening] at hopen
    cases hscan : scanToClosing b .code 0 p with
    | none =>
      have hnonneg := openBrackets_of_scanToClosing_eq_none hscan
      rw [codeCharsFrom] at hnonneg
      omega
    | some parts => exact ⟨_, parts.2, by rw [scanExpression?_cons, hscan]; rfl⟩

/-- Every balanced front of the input reaches to the end of the expression at least. -/
theorem isPrefix_of_isBalanced (h : scanExpression? ('@' :: b.opening :: cs) = some (e, r))
    (hp : p <+: '@' :: b.opening :: cs) (hbalanced : IsBalanced b p) : e <+: p := by
  obtain ⟨e', r', hscan⟩ := exists_scanExpression?_of_isBalanced hp hbalanced
  obtain ⟨t, ht⟩ := hp
  have hsame := scanExpression?_append hscan t
  rw [ht, h] at hsame
  obtain ⟨rfl, -⟩ := Prod.mk.inj (Option.some.inj hsame)
  exact ⟨r', scanExpression?_split hscan⟩

/-! ## Byte offsets -/

/-- What is left of a text behind a number of bytes. -/
def dropBytes : Nat → List Char → List Char
  | 0, cs => cs
  | _ + 1, [] => []
  | n + 1, c :: cs => dropBytes (n + 1 - c.utf8Size) cs

theorem dropBytes_append (front cs : List Char) :
    dropBytes (utf8Length front) (front ++ cs) = cs := by
  induction front with
  | nil => rw [utf8Length, List.nil_append, dropBytes]
  | cons c front ih =>
    have hpos := c.utf8Size_pos
    obtain ⟨k, hk⟩ : ∃ k, utf8Length (c :: front) = k + 1 :=
      Nat.exists_eq_succ_of_ne_zero (by rw [utf8Length]; omega)
    have hrest : k + 1 - c.utf8Size = utf8Length front := by
      rw [← hk, utf8Length]
      omega
    rw [hk, List.cons_append, dropBytes, hrest, ih]

theorem append_inj_of_utf8Length_eq (h : p ++ cs = front ++ r)
    (hlength : utf8Length p = utf8Length front) : p = front ∧ cs = r := by
  obtain rfl : cs = r := by rw [← dropBytes_append p cs, h, hlength, dropBytes_append]
  exact ⟨List.append_cancel_right h, rfl⟩

theorem utf8Length_le_of_isPrefix (h : p <+: cs) : utf8Length p ≤ utf8Length cs := by
  obtain ⟨r, rfl⟩ := h
  rw [utf8Length_append]
  omega

/-- The byte offset behind the expression that starts at a byte offset of the document: the scanner
is given what is left there. -/
def expressionEnd? (document : String) (start : Nat) : Option Nat :=
  (scanExpression? (dropBytes start document.toList)).map fun (e, _) => start + utf8Length e

/-- The characters stand in the document, from the byte offset on. -/
def StandsAt (document : String) (start : Nat) (piece : List Char) : Prop :=
  ∃ front back, document.toList = front ++ (piece ++ back) ∧ utf8Length front = start

/-- The byte offsets up to which the document is balanced from a byte offset on. -/
def balancedEnds (b : Bracket) (document : String) (start : Nat) : Set Nat :=
  {n | ∃ piece, StandsAt document start piece ∧ start + utf8Length piece = n ∧ IsBalanced b piece}

/-- The documents have the same characters up to the byte offset. -/
def AgreeUpTo (n : Nat) (document document' : String) : Prop :=
  ∃ cs, utf8Length cs = n ∧ cs <+: document.toList ∧ cs <+: document'.toList

theorem expressionEnd?_eq (h : document.toList = front ++ cs) :
    expressionEnd? document (utf8Length front) =
      (scanExpression? cs).map fun (e, _) => utf8Length (front ++ e) := by
  simp only [expressionEnd?, h, dropBytes_append, utf8Length_append]

theorem standsAt_iff (h : document.toList = front ++ cs) :
    StandsAt document (utf8Length front) piece ↔ piece <+: cs := by
  constructor
  · rintro ⟨front', back, hsplit, hlength⟩
    obtain ⟨rfl, rfl⟩ := append_inj_of_utf8Length_eq (hsplit.symm.trans h) hlength
    exact List.prefix_append piece back
  · rintro ⟨back, rfl⟩
    exact ⟨front, back, h, rfl⟩

theorem mem_balancedEnds_iff (h : document.toList = front ++ cs) :
    n ∈ balancedEnds b document (utf8Length front) ↔
      ∃ piece, piece <+: cs ∧ utf8Length (front ++ piece) = n ∧ IsBalanced b piece := by
  simp only [balancedEnds, Set.mem_ofPred_eq, standsAt_iff h, utf8Length_append]

section Ends

variable (hdocument : document.toList = front ++ '@' :: b.opening :: cs)

include hdocument

/-- The end of an expression is where the scanner stops. -/
theorem exists_of_expressionEnd? (h : expressionEnd? document (utf8Length front) = some n) :
    ∃ e r, scanExpression? ('@' :: b.opening :: cs) = some (e, r) ∧
      document.toList = front ++ (e ++ r) ∧ utf8Length (front ++ e) = n := by
  rw [expressionEnd?_eq hdocument] at h
  obtain ⟨⟨e, r⟩, hscan, hn⟩ := Option.map_eq_some_iff.1 h
  exact ⟨e, r, hscan, by rw [hdocument, scanExpression?_split hscan], hn⟩

theorem isBoundary_of_expressionEnd? (h : expressionEnd? document (utf8Length front) = some n) :
    IsBoundary document n := by
  obtain ⟨e, r, -, hsplit, rfl⟩ := exists_of_expressionEnd? hdocument h
  rw [← List.append_assoc] at hsplit
  exact isBoundary_utf8Length hsplit

/-- The document is balanced up to the end of an expression, and not before. -/
theorem isLeast_of_expressionEnd? (h : expressionEnd? document (utf8Length front) = some n) :
    IsLeast (balancedEnds b document (utf8Length front)) n := by
  obtain ⟨e, r, hscan, -, rfl⟩ := exists_of_expressionEnd? hdocument h
  constructor
  · have hprefix : e <+: '@' :: b.opening :: cs := ⟨r, scanExpression?_split hscan⟩
    exact (mem_balancedEnds_iff hdocument).2 ⟨e, hprefix, rfl, isBalanced_of_scanExpression? hscan⟩
  · intro k hk
    obtain ⟨p, hp, rfl, hbalanced⟩ := (mem_balancedEnds_iff hdocument).1 hk
    have hprefix : e <+: p := isPrefix_of_isBalanced hscan hp hbalanced
    exact utf8Length_le_of_isPrefix ((List.prefix_append_right_inj front).2 hprefix)

/-- Where the document is balanced up to some byte offset, an expression ends. -/
theorem exists_expressionEnd? (h : n ∈ balancedEnds b document (utf8Length front)) :
    ∃ k, expressionEnd? document (utf8Length front) = some k := by
  obtain ⟨p, hp, -, hbalanced⟩ := (mem_balancedEnds_iff hdocument).1 h
  obtain ⟨e, r, hscan⟩ := exists_scanExpression?_of_isBalanced hp hbalanced
  obtain ⟨t, ht⟩ := hp
  refine ⟨utf8Length (front ++ e), ?_⟩
  rw [expressionEnd?_eq hdocument, ← ht, scanExpression?_append hscan, Option.map_some]

/-- What stands behind an expression has no part in it. -/
theorem expressionEnd?_of_agreeUpTo (h : expressionEnd? document (utf8Length front) = some n)
    (hagree : AgreeUpTo n document document') :
    expressionEnd? document' (utf8Length front) = some n := by
  obtain ⟨e, r, hscan, hsplit, rfl⟩ := exists_of_expressionEnd? hdocument h
  obtain ⟨same, hlength, ⟨t, ht⟩, ⟨t', ht'⟩⟩ := hagree
  rw [← List.append_assoc, ← ht] at hsplit
  obtain ⟨rfl, rfl⟩ := append_inj_of_utf8Length_eq hsplit hlength
  have hdocument' : document'.toList = front ++ (e ++ t') := by rw [← ht', List.append_assoc]
  rw [← scanExpression?_split hscan] at hscan
  have halone : scanExpression? e = some (e, []) := scanExpression?_of_append hscan
  rw [expressionEnd?_eq hdocument', scanExpression?_append halone, Option.map_some]

end Ends

/-- An expression ends at the least byte offset up to which the brackets of its kind are balanced,
those in literals aside, and has no end if there is none. The end lies between two characters, and
what stands behind it does not matter. -/
theorem expressionEnd?_shortest (b : Bracket) (document : String) (start : Nat)
    (h : StandsAt document start ['@', b.opening]) :
    (∀ n, expressionEnd? document start = some n ↔ IsLeast (balancedEnds b document start) n) ∧
    (expressionEnd? document start = none ↔ balancedEnds b document start = ∅) ∧
    ∀ n, expressionEnd? document start = some n → IsBoundary document n ∧
      ∀ document', AgreeUpTo n document document' → expressionEnd? document' start = some n := by
  obtain ⟨front, cs, hdocument, rfl⟩ := h
  have hleast (n : Nat) : expressionEnd? document (utf8Length front) = some n ↔
      IsLeast (balancedEnds b document (utf8Length front)) n := by
    refine ⟨isLeast_of_expressionEnd? hdocument, fun hn => ?_⟩
    obtain ⟨k, hk⟩ := exists_expressionEnd? hdocument hn.1
    rw [hk, (isLeast_of_expressionEnd? hdocument hk).unique hn]
  refine ⟨hleast, ?_, fun n hn => ⟨isBoundary_of_expressionEnd? hdocument hn,
    fun document' => expressionEnd?_of_agreeUpTo hdocument hn⟩⟩
  rw [Set.eq_empty_iff_forall_notMem]
  constructor
  · intro hnone n hn
    obtain ⟨k, hk⟩ := exists_expressionEnd? hdocument hn
    rw [hnone] at hk
    simp at hk
  · intro hempty
    rw [Option.eq_none_iff_forall_ne_some]
    exact fun n hn => hempty n ((hleast n).1 hn).1

/-- The bracket in the literal and the one that is opened inside do not end the expression, and the
letter in front takes two bytes. -/
theorem expressionEnd?_shortest_nestedCall :
    StandsAt "é@(f(\")\"))x)" 2 ['@', Bracket.round.opening] ∧
      IsLeast (balancedEnds .round "é@(f(\")\"))x)" 2) 11 ∧ IsBoundary "é@(f(\")\"))x)" 11 ∧
      AgreeUpTo 11 "é@(f(\")\"))x)" "é@(f(\")\"))\"é" ∧
      expressionEnd? "é@(f(\")\"))\"é" 2 = some 11 := by
  have h : StandsAt "é@(f(\")\"))x)" 2 ['@', Bracket.round.opening] :=
    ⟨['é'], ['f', '(', '"', ')', '"', ')', ')', 'x', ')'], by decide, by decide⟩
  have hagree : AgreeUpTo 11 "é@(f(\")\"))x)" "é@(f(\")\"))\"é" :=
    ⟨['é', '@', '(', 'f', '(', '"', ')', '"', ')', ')'], by decide, by decide, by decide⟩
  have hend : expressionEnd? "é@(f(\")\"))x)" 2 = some 11 := by decide
  obtain ⟨hleast, -, hrest⟩ := expressionEnd?_shortest .round _ 2 h
  exact ⟨h, (hleast 11).1 hend, (hrest 11 hend).1, hagree, (hrest 11 hend).2 _ hagree⟩

end GatewayPolicy.Xml
