import GatewayPolicy.Text.Integer
/-!
# Integers in text, laws

An integer that is written in decimal is read back.
-/

namespace GatewayPolicy.Text

variable {ds : List Char} {n : Int}

theorem digitsValue_eq_ofDigitChars (h : ∀ d ∈ ds, d.isDigit = true) (n : Nat) :
    ds.foldl (fun n d => n * 10 + digitValue d) n = Nat.ofDigitChars 10 ds n := by
  induction ds generalizing n with
  | nil => rfl
  | cons d ds ih =>
    obtain ⟨hd, hds⟩ := List.forall_mem_cons.1 h
    rw [List.foldl_cons, ih hds, Nat.ofDigitChars_cons, digitValue, if_pos hd, Nat.mul_comm]

theorem isDigitOf_ten {d : Char} (h : d.isDigit = true) : isDigitOf 10 d = true := by
  rw [isDigitOf, digitValue, if_pos h]
  simp only [Char.isDigit, Bool.and_eq_true, decide_eq_true_eq, UInt32.le_iff_toNat_le] at h
  have h9 : d.val.toNat ≤ 57 := h.2
  have hd : d.toNat ≤ 57 := h9
  have h0 : '0'.toNat = 48 := rfl
  rw [decide_eq_true_eq]
  omega

theorem isDigit_of_mem_toDigits {n : Nat} : ∀ d ∈ Nat.toDigits 10 n, d.isDigit = true :=
  fun _ hd => Nat.isDigit_of_mem_toDigits (by decide) (by decide) hd

theorem digitsValue_toDigits (n : Nat) : digitsValue 10 (Nat.toDigits 10 n) = n := by
  rw [digitsValue, digitsValue_eq_ofDigitChars isDigit_of_mem_toDigits,
    Nat.ofDigitChars_ten_toDigits]

theorem readDigits?_toDigits (n : Nat) : readDigits? 10 (Nat.toDigits 10 n) = some n := by
  have hnumeral : isNumeral 10 (Nat.toDigits 10 n) = true := by
    rw [isNumeral, Bool.and_eq_true, List.all_eq_true]
    exact ⟨by simp [Nat.toDigits_ne_nil], fun d hd => isDigitOf_ten (isDigit_of_mem_toDigits d hd)⟩
  rw [readDigits?, if_pos hnumeral, digitsValue_toDigits]

/-- Reading an integer undoes writing it. -/
theorem readSigned?_toString (n : Int) : readSigned? 10 (toString n).toList = some n := by
  rw [Int.toString_eq_repr, Int.repr_eq_if]
  by_cases h : 0 ≤ n
  · rw [if_pos h, Nat.toList_repr]
    have hread := readDigits?_toDigits n.toNat
    have hn : Int.ofNat n.toNat = n := Int.toNat_of_nonneg h
    cases hds : Nat.toDigits 10 n.toNat with
    | nil => exact absurd hds Nat.toDigits_ne_nil
    | cons d ds =>
      have hd : d.isDigit = true :=
        Nat.isDigit_of_mem_toDigits (by decide) (by decide) (hds ▸ List.mem_cons_self)
      rw [hds] at hread
      rw [readSigned?, hread, Option.map_some, hn]
      · rintro rest ⟨⟩
        simp [Char.isDigit] at hd
      · rintro rest ⟨⟩
        simp [Char.isDigit] at hd
  · rw [if_neg h, String.toList_append, Nat.toList_repr]
    have hn : -Int.ofNat (-n).toNat = n := by
      rw [Int.ofNat_eq_natCast, Int.toNat_of_nonneg (by omega), Int.neg_neg]
    have hsign : "-".toList ++ Nat.toDigits 10 (-n).toNat = '-' :: Nat.toDigits 10 (-n).toNat := rfl
    rw [hsign, readSigned?, readDigits?_toDigits, Option.map_some, hn]

theorem fitsSigned64_iff :
    fitsSigned64 n = true ↔ -9223372036854775808 ≤ n ∧ n ≤ 9223372036854775807 := by
  rw [fitsSigned64, Bool.and_eq_true, decide_eq_true_eq, decide_eq_true_eq, maxSigned64]
  omega

theorem readSigned64?_toString (h : fitsSigned64 n = true) :
    readSigned64? (toString n) = some n := by
  rw [readSigned64?, readSigned?_toString, Option.filter_some, if_pos h]

end GatewayPolicy.Text
