import Mathlib.Data.List.Infix
import GatewayPolicy.Proofs.Text.Trimming
import GatewayPolicy.Proofs.Xml.References
import GatewayPolicy.Xml.Token
/-!
# Expressions in a document, laws

The end of an expression depends on nothing behind it. From that follows which characters can be
written as an attribute value or as a run of text and are read back as a whole, whatever stands
behind them: the reader must find their end by itself.
-/

namespace GatewayPolicy.Xml

open Text

variable {cs e r : List Char} {c : Char} {b : Bracket} {mode : ScanMode} {inner : Nat}

/-! ## Where expressions end -/

/-- The input starts like an expression. -/
def opensExpression : List Char → Bool
  | '@' :: c :: _ => (Bracket.ofChar? c).isSome
  | _ => false

/-- The scanner stops at a closing bracket outside of literals, when no bracket is open inside. -/
theorem scanStep_eq_none_iff :
    scanStep b mode inner c = none ↔ mode = .code ∧ c = b.closing ∧ inner = 0 := by
  have hne : b.closing ≠ '"' ∧ b.closing ≠ b.opening := by cases b <;> decide
  constructor
  · intro h
    cases mode with
    | escaped => simp [scanStep] at h
    | literal => simp [scanStep] at h
    | code =>
      simp only [scanStep, ite_eq_iff, reduceCtorEq, and_false, false_or, and_true, or_false] at h
      exact ⟨rfl, h.2.2⟩
  · rintro ⟨rfl, rfl, rfl⟩
    rw [scanStep, if_neg hne.1, if_neg hne.2, if_pos rfl, if_pos rfl]

theorem scanToClosing_split (h : scanToClosing b mode inner cs = some (e, r)) : e ++ r = cs := by
  induction cs generalizing mode inner e with
  | nil => simp [scanToClosing] at h
  | cons c cs ih =>
    unfold scanToClosing at h
    split at h
    · obtain ⟨rfl, rfl⟩ := Prod.mk.inj (Option.some.inj h)
      rfl
    · obtain ⟨⟨e', r'⟩, h₁, h₂⟩ := Option.map_eq_some_iff.1 h
      obtain ⟨rfl, rfl⟩ := Prod.mk.inj h₂
      rw [List.cons_append, ih h₁]

theorem scanToClosing_append (h : scanToClosing b mode inner cs = some (e, r)) (t : List Char) :
    scanToClosing b mode inner (cs ++ t) = some (e, r ++ t) := by
  induction cs generalizing mode inner e with
  | nil => simp [scanToClosing] at h
  | cons c cs ih =>
    unfold scanToClosing at h
    rw [List.cons_append, scanToClosing]
    split at h
    · obtain ⟨rfl, rfl⟩ := Prod.mk.inj (Option.some.inj h)
      rfl
    · obtain ⟨⟨e', r'⟩, h₁, h₂⟩ := Option.map_eq_some_iff.1 h
      obtain ⟨rfl, rfl⟩ := Prod.mk.inj h₂
      simp only [ih h₁, Option.map_some]

theorem scanExpression?_cons (b : Bracket) (cs : List Char) :
    scanExpression? ('@' :: b.opening :: cs) =
      (scanToClosing b .code 0 cs).map fun (e, r) => ('@' :: b.opening :: e, r) := by
  cases b <;> simp [scanExpression?, Bracket.opening, Bracket.ofChar?]

theorem exists_of_scanExpression? (h : scanExpression? cs = some (e, r)) :
    ∃ b cs' e', cs = '@' :: b.opening :: cs' ∧ e = '@' :: b.opening :: e' ∧
      scanToClosing b .code 0 cs' = some (e', r) := by
  unfold scanExpression? at h
  split at h
  · rename_i c cs'
    obtain ⟨b, hb, h⟩ := Option.bind_eq_some_iff.1 h
    obtain ⟨⟨e', r'⟩, h₁, h₂⟩ := Option.map_eq_some_iff.1 h
    obtain ⟨rfl, rfl⟩ := Prod.mk.inj h₂
    have hc : c = b.opening := by
      unfold Bracket.ofChar? at hb
      split at hb
      · obtain rfl := Option.some.inj hb
        assumption
      · split at hb
        · obtain rfl := Option.some.inj hb
          assumption
        · simp at hb
    exact ⟨b, cs', e', by rw [hc], by rw [hc], h₁⟩
  · simp at h

/-- An expression and what follows it make up the input. -/
theorem scanExpression?_split (h : scanExpression? cs = some (e, r)) : e ++ r = cs := by
  obtain ⟨b, cs', e', rfl, rfl, hs⟩ := exists_of_scanExpression? h
  rw [List.cons_append, List.cons_append, scanToClosing_split hs]

/-- More input behind an expression does not change where it ends. -/
theorem scanExpression?_append (h : scanExpression? cs = some (e, r)) (t : List Char) :
    scanExpression? (cs ++ t) = some (e, r ++ t) := by
  obtain ⟨b, cs', e', rfl, rfl, hs⟩ := exists_of_scanExpression? h
  rw [List.cons_append, List.cons_append, scanExpression?_cons, scanToClosing_append hs]
  rfl

theorem scanExpression?_eq_none (h : opensExpression cs = false) : scanExpression? cs = none := by
  cases hs : scanExpression? cs with
  | none => rfl
  | some p =>
    obtain ⟨b, cs', e', rfl, -, -⟩ := exists_of_scanExpression? (e := p.1) (r := p.2) hs
    cases b <;> simp [opensExpression, Bracket.ofChar?, Bracket.opening] at h

theorem opensExpression_cons (h : c ≠ '@') (cs : List Char) :
    opensExpression (c :: cs) = false := by
  unfold opensExpression
  split
  · rename_i heq
    exact absurd (List.cons.inj heq).1 h
  · rfl

/-- A character that no opening mark is made of opens nothing behind the input. -/
theorem opensExpression_append (h : c ≠ '@') (hb : Bracket.ofChar? c = none) (cs t : List Char) :
    opensExpression (cs ++ c :: t) = opensExpression cs := by
  match cs with
  | [] => exact opensExpression_cons h t
  | [d] =>
    by_cases hd : d = '@'
    · subst hd
      simp [opensExpression, hb]
    · rw [List.singleton_append, opensExpression_cons hd, opensExpression_cons hd]
  | d :: d' :: cs =>
    by_cases hd : d = '@'
    · subst hd
      rfl
    · rw [List.cons_append, opensExpression_cons hd, opensExpression_cons hd]

theorem isBlank_of_ofChar? (h : (Bracket.ofChar? c).isSome = true) : isBlank c = false := by
  unfold Bracket.ofChar? at h
  split at h
  · subst_vars
    decide
  · split at h
    · subst_vars
      decide
    · simp at h

/-! ## Runs of text -/

/-- The characters are a run of text whatever follows: no angle bracket stands outside of
expressions, and every expression that is opened is closed. -/
def isTextRun (cs : List Char) : Bool :=
  match cs with
  | [] => true
  | c :: rest =>
    if c = '<' then false
    else
      match _h : scanExpression? (c :: rest) with
      | some (_, after) => isTextRun after
      | none => !opensExpression (c :: rest) && isTextRun rest
termination_by cs.length
decreasing_by
  · exact length_of_scanExpression? _h
  · simp

theorem isTextRun_nil : isTextRun [] = true := by
  rw [isTextRun]

theorem isTextRun_cons (h : c ≠ '<') (h' : c ≠ '@') (cs : List Char) :
    isTextRun (c :: cs) = isTextRun cs := by
  have hopen := opensExpression_cons h' cs
  rw [isTextRun, if_neg h]
  split
  · rename_i hs
    rw [scanExpression?_eq_none hopen] at hs
    simp at hs
  · simp [hopen]

/-- An at sign that opens nothing is text. -/
theorem isTextRun_at (h : opensExpression ('@' :: cs) = false) :
    isTextRun ('@' :: cs) = isTextRun cs := by
  rw [isTextRun, if_neg (by decide)]
  split
  · rename_i hs
    rw [scanExpression?_eq_none h] at hs
    simp at hs
  · simp [h]

theorem isTextRun_expression (h : scanExpression? cs = some (e, r)) :
    isTextRun cs = isTextRun r := by
  obtain ⟨b, cs', e', rfl, -, -⟩ := exists_of_scanExpression? h
  rw [isTextRun, if_neg (by decide)]
  split
  · rename_i hs
    rw [h] at hs
    obtain ⟨-, rfl⟩ := Prod.mk.inj (Option.some.inj hs)
    rfl
  · rename_i hs
    rw [h] at hs
    simp at hs

theorem readText_bracket (cs : List Char) : readText ('<' :: cs) = ([], '<' :: cs) := by
  rw [readText, if_pos rfl]

theorem readText_expression (h : scanExpression? cs = some (e, r)) :
    readText cs = (e ++ (readText r).1, (readText r).2) := by
  obtain ⟨b, cs', e', rfl, -, -⟩ := exists_of_scanExpression? h
  rw [readText, if_neg (by decide)]
  split
  · rename_i hs
    rw [h] at hs
    obtain ⟨rfl, rfl⟩ := Prod.mk.inj (Option.some.inj hs)
    rfl
  · rename_i hs
    rw [h] at hs
    simp at hs

theorem readText_cons (h : c ≠ '<') (h' : scanExpression? (c :: cs) = none) :
    readText (c :: cs) = (c :: (readText cs).1, (readText cs).2) := by
  rw [readText, if_neg h]
  split
  · rename_i hs
    rw [h'] at hs
    simp at hs
  · rfl

/-- A run of text is read as a whole, up to the markup behind it. -/
theorem readText_append (h : isTextRun cs = true) (r : List Char) :
    readText (cs ++ '<' :: r) = (cs, '<' :: r) := by
  fun_induction isTextRun cs with
  | case1 => exact readText_bracket r
  | case2 => simp at h
  | case3 c rest _ e after hs ih =>
    rw [readText_expression (scanExpression?_append hs ('<' :: r)), ih h]
    simp only [scanExpression?_split hs]
  | case4 c rest hc hs ih =>
    obtain ⟨hopen, hrun⟩ := Bool.and_eq_true_iff.1 h
    have hopen' : opensExpression (c :: (rest ++ '<' :: r)) = false := by
      rw [← List.cons_append, opensExpression_append (by decide) (by decide)]
      simpa using hopen
    rw [List.cons_append, readText_cons hc (scanExpression?_eq_none hopen'), ih hrun]

/-- An expression ends in its closing bracket. -/
theorem exists_append_of_scanToClosing (h : scanToClosing b mode inner cs = some (e, r)) :
    ∃ e', e = e' ++ [b.closing] := by
  induction cs generalizing mode inner e with
  | nil => simp [scanToClosing] at h
  | cons c cs ih =>
    unfold scanToClosing at h
    split at h
    · rename_i hstep
      obtain ⟨rfl, -⟩ := Prod.mk.inj (Option.some.inj h)
      obtain ⟨-, rfl, -⟩ := scanStep_eq_none_iff.1 hstep
      exact ⟨[], rfl⟩
    · obtain ⟨⟨e', r'⟩, h₁, h₂⟩ := Option.map_eq_some_iff.1 h
      obtain ⟨rfl, rfl⟩ := Prod.mk.inj h₂
      obtain ⟨e'', rfl⟩ := ih h₁
      exact ⟨c :: e'', rfl⟩

theorem scanToClosing_of_append {b : Bracket} {mode : ScanMode} {inner : Nat} {e t : List Char}
    (h : scanToClosing b mode inner (e ++ t) = some (e, t)) :
    scanToClosing b mode inner e = some (e, []) := by
  induction e generalizing mode inner with
  | nil =>
    obtain ⟨e', he'⟩ := exists_append_of_scanToClosing h
    simp at he'
  | cons c e ih =>
    rw [List.cons_append, scanToClosing] at h
    rw [scanToClosing]
    split at h
    · obtain ⟨heq, -⟩ := Prod.mk.inj (Option.some.inj h)
      rw [← (List.cons.inj heq).2]
    · obtain ⟨p, hp, heq⟩ := Option.map_eq_some_iff.1 h
      obtain ⟨he, hr⟩ := Prod.mk.inj heq
      have hscan := ih (hp.trans (by rw [← (List.cons.inj he).2, ← hr]))
      rw [hscan]
      rfl

/-- What stands behind an expression does not matter for it. -/
theorem scanExpression?_of_append {e t : List Char} (h : scanExpression? (e ++ t) = some (e, t)) :
    scanExpression? e = some (e, []) := by
  obtain ⟨b, cs, e', hcs, rfl, hs⟩ := exists_of_scanExpression? h
  rw [List.cons_append, List.cons_append] at hcs
  obtain rfl := (List.cons.inj (List.cons.inj hcs).2).2
  rw [scanExpression?_cons, scanToClosing_of_append hs]
  rfl

/-- An expression that is found only because of what follows reaches beyond the input. -/
theorem prefix_of_scanExpression?_append {t : List Char} (hnone : scanExpression? cs = none)
    (h : scanExpression? (cs ++ t) = some (e, r)) : cs <+: e := by
  rcases List.append_eq_append_iff.1 (scanExpression?_split h) with ⟨w, rfl, rfl⟩ | ⟨w, rfl, -⟩
  · rw [List.append_assoc] at h
    rw [scanExpression?_append (scanExpression?_of_append h)] at hnone
    cases hnone
  · exact List.prefix_append cs w

/-- What stands in front of a quote is an expression or not, whatever follows the quote. -/
theorem quotedExpression?_eq_some_iff {quote : Char} :
    quotedExpression? quote cs = some (e, r) ↔
      scanExpression? e = some (e, []) ∧ e ++ quote :: r = cs := by
  constructor
  · intro h
    unfold quotedExpression? at h
    split at h
    · rename_i hscan
      split at h
      · rename_i hquote
        obtain ⟨rfl, rfl⟩ := Prod.mk.inj (Option.some.inj h)
        have hsplit := scanExpression?_split hscan
        rw [← hsplit, hquote] at hscan
        exact ⟨scanExpression?_of_append hscan, by rw [← hquote, hsplit]⟩
      · simp at h
    · simp at h
  · rintro ⟨hscan, rfl⟩
    simp only [quotedExpression?, scanExpression?_append hscan, List.nil_append, if_true]

/-- No character closes an expression. -/
def ClosesNothing (cs : List Char) : Prop := ∀ b : Bracket, b.closing ∉ cs

instance (cs : List Char) : Decidable (ClosesNothing cs) :=
  decidable_of_iff (')' ∉ cs ∧ '\x7d' ∉ cs)
    ⟨fun h b => match b with
      | .round => h.1
      | .brace => h.2, fun h => ⟨h .round, h .brace⟩⟩

/-- An expression does not go beyond the last closing bracket. -/
theorem exists_append_of_scanExpression? {rest : List Char} (hrest : ClosesNothing rest)
    (h : scanExpression? (cs ++ rest) = some (e, r)) :
    ∃ r', cs = e ++ r' ∧ r = r' ++ rest := by
  obtain ⟨b, cs', e', -, rfl, hs⟩ := exists_of_scanExpression? h
  obtain ⟨e'', rfl⟩ := exists_append_of_scanToClosing hs
  rcases List.append_eq_append_iff.1 (scanExpression?_split h) with ⟨r', hcs, hr⟩ | ⟨t, he, hr⟩
  · exact ⟨r', hcs, hr⟩
  · rcases List.eq_nil_or_concat t with rfl | ⟨t, d, rfl⟩
    · exact ⟨[], by simpa using he.symm, by simpa using hr.symm⟩
    · have hd : b.closing = d := by
        have hlast := congrArg List.getLast? he
        simpa [List.getLast?_cons, List.getLast?_append] using hlast
      refine absurd ?_ (hrest b)
      rw [hr, hd]
      simp

/-- Text without angle brackets is read up to the markup behind it, even if an expression in it is
not closed, as long as nothing behind it closes one. -/
theorem readText_of_notMem {rest : List Char} (h : '<' ∉ cs) (hrest : ClosesNothing rest) :
    readText (cs ++ '<' :: rest) = (cs, '<' :: rest) := by
  have hrest' : ClosesNothing ('<' :: rest) := fun b hb =>
    (List.mem_cons.1 hb).elim (by cases b <;> decide) (hrest b)
  -- The induction is along the reader, which takes expressions and single characters.
  generalize hinput : cs ++ '<' :: rest = input
  fun_induction readText input generalizing cs with
  | case1 => simp at hinput
  | case2 input' =>
    cases cs with
    | nil => rw [← hinput, List.nil_append]
    | cons c cs =>
      rw [(List.cons.inj hinput).1] at h
      simp at h
  | case3 c input' _ e after hs t r hr ih =>
    rw [← hinput] at hs
    obtain ⟨cs', rfl, rfl⟩ := exists_append_of_scanExpression? hrest' hs
    obtain ⟨rfl, rfl⟩ := Prod.mk.inj (hr.symm.trans (ih (fun hm => h (by simp [hm])) rfl))
    rfl
  | case4 c input' hc hs t r hr ih =>
    cases cs with
    | nil => exact absurd (List.cons.inj hinput).1.symm hc
    | cons c' cs =>
      obtain ⟨rfl, rfl⟩ := List.cons.inj hinput
      obtain ⟨rfl, rfl⟩ := Prod.mk.inj
        (hr.symm.trans (ih (fun hm => h (List.mem_cons_of_mem _ hm)) rfl))
      rfl

theorem isTextRun_blanks_append {ws : List Char} (h : IsBlankRun ws) (cs : List Char) :
    isTextRun (ws ++ cs) = isTextRun cs := by
  induction ws with
  | nil => rfl
  | cons c ws ih =>
    obtain ⟨hc, hws⟩ := isBlankRun_cons.1 h
    rw [List.cons_append, isTextRun_cons (by rintro rfl; simp [isBlank] at hc)
      (by rintro rfl; simp [isBlank] at hc), ih hws]

theorem opensExpression_append_blanks {ws : List Char} (h : IsBlankRun ws) (cs : List Char) :
    opensExpression (cs ++ ws) = opensExpression cs := by
  cases ws with
  | nil => rw [List.append_nil]
  | cons c ws =>
    have hc := (isBlankRun_cons.1 h).1
    refine opensExpression_append (by rintro rfl; simp [isBlank] at hc) ?_ cs ws
    cases hb : Bracket.ofChar? c with
    | none => rfl
    | some b =>
      rw [isBlank_of_ofChar? (by rw [hb]; rfl)] at hc
      simp at hc

theorem isTextRun_append_blanks {ws : List Char} (h : isTextRun cs = true) (hws : IsBlankRun ws) :
    isTextRun (cs ++ ws) = true := by
  fun_induction isTextRun cs with
  | case1 =>
    rw [List.nil_append, ← List.append_nil ws, isTextRun_blanks_append hws, isTextRun_nil]
  | case2 => simp at h
  | case3 c rest _ e after hs ih =>
    rw [isTextRun_expression (scanExpression?_append hs ws), ih h]
  | case4 c rest hc hs ih =>
    obtain ⟨hopen, hrun⟩ := Bool.and_eq_true_iff.1 h
    have hopen' : opensExpression (c :: (rest ++ ws)) = false := by
      rw [← List.cons_append, opensExpression_append_blanks hws]
      simpa using hopen
    by_cases hat : c = '@'
    · subst hat
      rw [List.cons_append, isTextRun_at hopen', ih hrun]
    · rw [List.cons_append, isTextRun_cons hc hat, ih hrun]

/-! ## Values and texts that are read back

The reader takes a value or a text apart only at expressions. What mentions none is written with
references and is safe; an expression is written as it is and is safe if it is complete and holds
nothing that reads as a reference.
-/

/-- The text mentions no expression. -/
def MentionsNoExpression (s : String) : Prop :=
  ∀ b : Bracket, ¬ ['@', b.opening] <:+: s.toList

instance (s : String) : Decidable (MentionsNoExpression s) :=
  decidable_of_iff (¬ ['@', '('] <:+: s.toList ∧ ¬ ['@', '\x7b'] <:+: s.toList)
    ⟨fun h b => match b with
      | .round => h.1
      | .brace => h.2, fun h => ⟨h .round, h .brace⟩⟩

/-- The text is one expression from its first to its last character, and no part of it reads as a
reference. -/
def IsCompleteExpression (s : String) : Prop :=
  scanExpression? s.toList = some (s.toList, []) ∧ unescape s = s

instance (s : String) : Decidable (IsCompleteExpression s) :=
  inferInstanceAs (Decidable (_ ∧ _))

theorem not_opensExpression (h : isExpression (.ofList cs) = false) :
    opensExpression cs = false := by
  match cs with
  | [] => rfl
  | c :: cs =>
    refine opensExpression_cons ?_ cs
    rintro rfl
    simp [isExpression] at h

theorem isTextRun_textForm (h : c ≠ '@') (cs : List Char) :
    isTextRun (textForm c ++ cs) = isTextRun cs := by
  unfold textForm
  split
  · simp [isTextRun_cons]
  · simp [isTextRun_cons]
  · simp [isTextRun_cons]
  · rename_i hlt _
    rw [List.singleton_append, isTextRun_cons hlt h]

/-- A text without expressions is a run of text once it is written with references. -/
theorem isTextRun_escapeTextChars (h : ∀ b : Bracket, ¬ ['@', b.opening] <:+: cs) :
    isTextRun (escapeTextChars cs) = true := by
  induction cs with
  | nil => exact isTextRun_nil
  | cons c cs ih =>
    have hcs := ih fun b hb => h b (hb.trans (List.suffix_cons c cs).isInfix)
    by_cases hat : c = '@'
    · subst hat
      have hopen : opensExpression ('@' :: escapeTextChars cs) = false := by
        match cs with
        | [] => rfl
        | d :: cs =>
          have hd : Bracket.ofChar? d = none := by
            unfold Bracket.ofChar?
            split
            · rename_i hd
              exact absurd ⟨[], cs, by rw [hd]; rfl⟩ (h .round)
            · split
              · rename_i hd
                exact absurd ⟨[], cs, by rw [hd]; rfl⟩ (h .brace)
              · rfl
          rw [escapeTextChars_cons]
          unfold textForm
          split
          · rfl
          · rfl
          · rfl
          · simp [opensExpression, hd]
      rw [escapeTextChars_cons]
      change isTextRun ('@' :: escapeTextChars cs) = true
      rw [isTextRun_at hopen, hcs]
    · rw [escapeTextChars_cons, isTextRun_textForm hat, hcs]

end GatewayPolicy.Xml
