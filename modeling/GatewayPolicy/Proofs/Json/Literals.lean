import GatewayPolicy.Json.Printer
import GatewayPolicy.Json.Token
import GatewayPolicy.Proofs.Text.Integer
/-!
# JSON literals, laws

What is written for a string or an integer is read as one literal, and the literal has the value
that was written. A number is read as far as it goes, so it has to be followed by something that
does not go on with it.
-/

namespace GatewayPolicy.Json

open Text

variable {cs rest : List Char} {c d : Char} {n : Nat}

/-! ## Strings -/

/-- The piece of a string that is written for a character. -/
def pieceOf (c : Char) : StringPiece :=
  if c < ' ' ∧ c ∉ ['\x08', '\t', '\n', '\x0c', '\r'] then .unit c.toNat else .char c

/-- The literal that is written for a text. -/
def textLiteral (s : String) : StringLiteral := s.toList.map pieceOf

theorem digitValue_hexDigit (h : n < 16) : digitValue (hexDigit n) = n := by
  revert h
  revert n
  decide

theorem readHex4?_hexDigits (h : n < 256) :
    readHex4? ('0' :: '0' :: hexDigit (n / 16) :: hexDigit (n % 16) :: rest) = some (n, rest) := by
  have hhigh := digitValue_hexDigit (n := n / 16) (by omega)
  have hlow := digitValue_hexDigit (n := n % 16) (by omega)
  have hdigits : ['0', '0', hexDigit (n / 16), hexDigit (n % 16)].all (isDigitOf 16) = true := by
    have hzero : digitValue '0' < 16 := by decide
    simp only [List.all_cons, List.all_nil, isDigitOf, hhigh, hlow, Bool.and_true,
      Bool.and_eq_true, decide_eq_true_eq]
    omega
  have hvalue : digitsValue 16 ['0', '0', hexDigit (n / 16), hexDigit (n % 16)] = n := by
    have hzero : digitValue '0' = 0 := by decide
    simp only [digitsValue, List.foldl_cons, List.foldl_nil, hhigh, hlow, hzero]
    omega
  rw [readHex4?, if_pos hdigits, hvalue]

/-- What is written for a character is read as one piece. -/
theorem readPiece?_escapeChar (c : Char) (rest : List Char) :
    readPiece? (escapeChar c ++ rest) = some (pieceOf c, rest) := by
  by_cases hquote : c = '"'
  · subst c; rfl
  by_cases hbackslash : c = '\\'
  · subst c; rfl
  by_cases hb : c = '\x08'
  · subst c; rfl
  by_cases ht : c = '\t'
  · subst c; rfl
  by_cases hn : c = '\n'
  · subst c; rfl
  by_cases hf : c = '\x0c'
  · subst c; rfl
  by_cases hr : c = '\r'
  · subst c; rfl
  by_cases hcontrol : c < ' '
  · have hsmall : c.toNat < 32 := hcontrol
    have hpiece : pieceOf c = .unit c.toNat := if_pos ⟨hcontrol, by simp [*]⟩
    have hescape : escapeChar c =
        ['\\', 'u', '0', '0', hexDigit (c.toNat / 16), hexDigit (c.toNat % 16)] := by
      simp only [escapeChar, *, if_false, if_true]
    rw [hpiece, hescape]
    simp only [List.cons_append, List.nil_append, readPiece?]
    rw [readHex4?_hexDigits (by omega)]
    rfl
  · have hpiece : pieceOf c = .char c := if_neg fun h => hcontrol h.1
    have hescape : escapeChar c = [c] := by simp only [escapeChar, *, if_false]
    rw [hpiece, hescape, List.singleton_append, readPiece?]
    · simp [hcontrol, hbackslash]
    · intro _ h
      exact absurd h hbackslash
    · intro _ _ h
      exact absurd h hbackslash

/-- What is written for a character does not end a string. -/
theorem head?_escapeChar (c : Char) : (escapeChar c ++ rest).head? ≠ some '"' := by
  unfold escapeChar
  repeat' split
  all_goals simp [*]

theorem readString?_of_readPiece? {p : StringPiece} (hhead : cs.head? ≠ some '"')
    (h : readPiece? cs = some (p, rest)) :
    readString? cs = (readString? rest).map fun (s, r) => (p :: s, r) := by
  rw [readString?.eq_def]
  split
  · exact absurd rfl hhead
  · split
    · rename_i h'
      obtain ⟨rfl, rfl⟩ := Prod.mk.inj (Option.some.inj (h.symm.trans h'))
      rfl
    · rename_i h'
      rw [h] at h'
      simp at h'

/-- What is written for a text is read up to its closing quote. -/
theorem readString?_flatMap_escapeChar (cs rest : List Char) :
    readString? (cs.flatMap escapeChar ++ '"' :: rest) = some (cs.map pieceOf, rest) := by
  induction cs with
  | nil => rw [List.flatMap_nil, List.nil_append, readString?, List.map_nil]
  | cons c cs ih =>
    rw [List.flatMap_cons, List.append_assoc,
      readString?_of_readPiece? (head?_escapeChar c) (readPiece?_escapeChar c _), ih]
    rfl

theorem stringChars?_pieceOf_cons (c : Char) (s : StringLiteral) :
    stringChars? (pieceOf c :: s) = (stringChars? s).map (c :: ·) := by
  unfold pieceOf
  split
  · rename_i hcontrol
    have hsmall : c.toNat < 32 := hcontrol.1
    have hhigh : isHighHalf c.toNat = false := by simp [isHighHalf]; omega
    have hlow : isLowHalf c.toNat = false := by simp [isLowHalf]; omega
    rw [stringChars?.eq_def]
    simp [hhigh, hlow]
  · rw [stringChars?]

theorem stringValue?_textLiteral (s : String) : stringValue? (textLiteral s) = some s := by
  have hchars (cs : List Char) : stringChars? (cs.map pieceOf) = some cs := by
    induction cs with
    | nil => rfl
    | cons c cs ih => rw [List.map_cons, stringChars?_pieceOf_cons, ih, Option.map_some]
  rw [stringValue?, textLiteral, hchars, Option.map_some, String.ofList_toList]

/-! ## Integers -/

/-- The text does not go on with a number. -/
def EndsNumber (rest : List Char) : Prop :=
  ∀ c ∈ rest.head?, c.isDigit = false ∧ c ≠ '.' ∧ c ≠ 'e' ∧ c ≠ 'E'

/-- The literal that is written for an integer. -/
def intLiteral (n : Int) : NumberLiteral :=
  { negative := n < 0, whole := Nat.toDigits 10 n.natAbs, fraction := none, power := none }

theorem exists_toDigits_eq_cons (h : 0 < n) :
    ∃ d ds, Nat.toDigits 10 n = d :: ds ∧ d ≠ '0' := by
  induction n using Nat.strongRecOn with
  | _ n ih =>
    by_cases hlt : n < 10
    · have hdigit : ∀ n < 10, 0 < n → n.digitChar ≠ '0' := by decide
      exact ⟨_, [], Nat.toDigits_of_lt_base hlt, hdigit n hlt h⟩
    · obtain ⟨d, ds, hds, hd⟩ := ih (n / 10) (by omega) (by omega)
      refine ⟨d, ds ++ [(n % 10).digitChar], ?_, hd⟩
      rw [Nat.toDigits_of_base_le (by decide) (by omega), hds, List.cons_append]

theorem readWhole?_toDigits (n : Nat) (h : EndsNumber rest) :
    readWhole? (Nat.toDigits 10 n ++ rest) = some (Nat.toDigits 10 n, rest) := by
  by_cases hzero : n = 0
  · subst n
    rfl
  · have hnil : Nat.toDigits 10 n ≠ [] := Nat.toDigits_ne_nil
    have htake : rest.takeWhile Char.isDigit = [] := by
      cases rest with
      | nil => rfl
      | cons c rest => rw [List.takeWhile_cons_of_neg (by simp [(h c rfl).1])]
    have hdrop : rest.dropWhile Char.isDigit = rest := by
      cases rest with
      | nil => rfl
      | cons c rest => rw [List.dropWhile_cons_of_neg (by simp [(h c rfl).1])]
    unfold readWhole?
    split
    · rename_i heq
      obtain ⟨d, ds, hds, hd⟩ := exists_toDigits_eq_cons (Nat.pos_of_ne_zero hzero)
      rw [hds, List.cons_append] at heq
      exact absurd (List.cons.inj heq).1 hd
    · rw [List.takeWhile_append_of_pos isDigit_of_mem_toDigits,
        List.dropWhile_append_of_pos isDigit_of_mem_toDigits, htake, hdrop, List.append_nil]
      simp [hnil]

theorem readFraction?_of_endsNumber (h : EndsNumber rest) :
    readFraction? rest = some (none, rest) := by
  unfold readFraction?
  split
  · exact absurd rfl (h '.' rfl).2.1
  · rfl

theorem readPower?_of_endsNumber (h : EndsNumber rest) :
    readPower? rest = some (none, rest) := by
  cases rest with
  | nil => rfl
  | cons c rest =>
    obtain ⟨-, -, he, hE⟩ := h c rfl
    rw [readPower?, if_neg (by simp [he, hE])]

theorem readMagnitude?_toDigits (negative : Bool) (n : Nat) (h : EndsNumber rest) :
    readMagnitude? negative (Nat.toDigits 10 n ++ rest) =
      some (⟨negative, Nat.toDigits 10 n, none, none⟩, rest) := by
  simp [readMagnitude?, readWhole?_toDigits n h, readFraction?_of_endsNumber h,
    readPower?_of_endsNumber h]

theorem toList_toString_int (n : Int) :
    (toString n).toList = (if n < 0 then ['-'] else []) ++ Nat.toDigits 10 n.natAbs := by
  rw [Int.toString_eq_repr, Int.repr_eq_if]
  by_cases h : 0 ≤ n
  · rw [if_pos h, if_neg (by omega), Nat.toList_repr, List.nil_append,
      show n.toNat = n.natAbs by omega]
  · rw [if_neg h, if_pos (by omega), String.toList_append, Nat.toList_repr,
      show (-n).toNat = n.natAbs by omega]
    rfl

/-- An integer is read up to its end. -/
theorem readNumber?_toString (n : Int) (h : EndsNumber rest) :
    readNumber? ((toString n).toList ++ rest) = some (intLiteral n, rest) := by
  rw [toList_toString_int, intLiteral]
  by_cases hn : n < 0
  · rw [if_pos hn, decide_eq_true hn, List.append_assoc, List.singleton_append, readNumber?]
    exact readMagnitude?_toDigits true _ h
  · rw [if_neg hn, decide_eq_false hn, List.nil_append]
    unfold readNumber?
    split
    · rename_i heq
      cases hds : Nat.toDigits 10 n.natAbs with
      | nil => exact absurd hds Nat.toDigits_ne_nil
      | cons d ds =>
        have hd : d.isDigit = true := isDigit_of_mem_toDigits d (hds ▸ List.mem_cons_self)
        rw [hds, List.cons_append] at heq
        rw [(List.cons.inj heq).1] at hd
        exact absurd hd (by decide)
    · exact readMagnitude?_toDigits false _ h

/-- An integer of 64 bits, with or without sign. -/
def Number.isExact : Number → Bool
  | .int n => fitsSigned64 n || fitsUnsigned64 n
  | .float _ => false

theorem value?_intLiteral {n : Int} (h : (Number.int n).isExact = true) :
    (intLiteral n).value? = some (.int n) := by
  have hdigits := digitsValue_toDigits n.natAbs
  simp only [Number.isExact, fitsSigned64, fitsUnsigned64, Bool.or_eq_true, Bool.and_eq_true,
    decide_eq_true_eq] at h
  simp only [intLiteral, NumberLiteral.value?, Option.isNone_none, Bool.and_self, if_true,
    wholeNumber?, hdigits]
  by_cases hn : n < 0
  · have habs : -(n.natAbs : Int) = n := by omega
    have hne : n ≠ 0 := by omega
    have hfits : fitsSigned64 n = true := by
      simp only [fitsSigned64, Bool.and_eq_true, decide_eq_true_eq]
      omega
    rw [if_pos (decide_eq_true hn), habs, if_pos (by simp [hne, hfits])]
  · have habs : (n.natAbs : Int) = n := by omega
    have hfits : fitsUnsigned64 n = true := by
      have hmax : maxSigned64 ≤ maxUnsigned64 := by decide
      simp only [fitsUnsigned64, Bool.and_eq_true, decide_eq_true_eq]
      omega
    rw [if_neg (by simpa using hn), habs, if_pos hfits]

end GatewayPolicy.Json
