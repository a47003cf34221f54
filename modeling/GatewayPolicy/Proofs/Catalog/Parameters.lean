import GatewayPolicy.Catalog.Parameter
import GatewayPolicy.Proofs.Policy.NamedValue
import GatewayPolicy.Proofs.Scalar
/-!
# What parameters take

A value fits a parameter or does not, and it makes no difference whether the reader has left it a
text or has taken it for a number or a truth value: the kinds look through both. The kind for lists
does not. It takes every text, since a text may be a list with commas, and no number and no truth
value.
-/

namespace GatewayPolicy

open Json Text Xml

variable {s : String} {v : Json} {kind : ParameterKind}

/-! ## Written numbers, read in other ways -/

theorem isBlank_of_isDigit {c : Char} (h : c.isDigit = true) : isBlank c = false := by
  simp only [Char.isDigit, Bool.and_eq_true, decide_eq_true_eq, UInt32.le_iff_toNat_le] at h
  have hlow : 48 ≤ c.toNat := h.1
  have hhigh : c.toNat ≤ 57 := h.2
  have hne (d : Char) (hd : d.toNat < 48 ∨ 57 < d.toNat) : c ≠ d := by
    rintro rfl
    omega
  have hle (d : Char) (hd : 57 < d.toNat) : ¬ d ≤ c := fun hdc => by
    have hval : d.toNat ≤ c.toNat := hdc
    omega
  have hge (d : Char) (hd : d.toNat < 48) : ¬ c ≤ d := fun hcd => by
    have hval : c.toNat ≤ d.toNat := hcd
    omega
  simp [isBlank, hne, hle, hge]

theorem isBlank_of_isNumberChar {c : Char} (h : isNumberChar c = true) : isBlank c = false := by
  rcases Bool.or_eq_true_iff.1 h with hdigit | hother
  · exact isBlank_of_isDigit hdigit
  · have hall : ['-', '+', '.', 'e'].all (fun c => !isBlank c) = true := rfl
    simpa using List.all_eq_true.1 hall c (List.contains_iff_mem.1 hother)

/-- A text without blanks has nothing to trim. -/
theorem trim_of_forall (h : ∀ c ∈ s.toList, isBlank c = false) : trim s = s := by
  obtain ⟨ws, ws', hws, hws', heq⟩ := exists_surround_trimChars s.toList
  have hnil {ws : List Char} (hws : IsBlankRun ws) (hsub : ∀ c ∈ ws, c ∈ s.toList) : ws = [] := by
    refine List.eq_nil_iff_forall_not_mem.2 fun c hc => ?_
    have hblank := hws c hc
    rw [h c (hsub c hc)] at hblank
    exact Bool.noConfusion hblank
  have hfront : ws = [] := hnil hws fun c hc => by
    rw [heq]
    simp [hc]
  have hback : ws' = [] := hnil hws' fun c hc => by
    rw [heq]
    simp [hc]
  rw [hfront, hback, List.nil_append, List.append_nil] at heq
  rw [trim, ← heq, String.ofList_toList]

theorem trim_print (x : Number) : trim x.print = x.print :=
  trim_of_forall fun c hc => isBlank_of_isNumberChar (isNumberChar_print x c hc)

/-- An integer has no characters but digits and signs. -/
theorem of_mem_of_readSigned? {cs : List Char} {n : Int} (h : readSigned? 10 cs = some n) {c : Char}
    (hc : c ∈ cs) : c = '+' ∨ c = '-' ∨ isDigitOf 10 c = true := by
  have hdigits {ds : List Char} {n : Nat} (hread : readDigits? 10 ds = some n) (hc : c ∈ ds) :
      isDigitOf 10 c = true := by
    unfold readDigits? at hread
    split at hread
    · rename_i hnumeral
      exact List.all_eq_true.1 (Bool.and_eq_true_iff.1 hnumeral).2 c hc
    · simp at hread
  unfold readSigned? at h
  split at h
  · obtain ⟨n, hread, -⟩ := Option.map_eq_some_iff.1 h
    rcases List.mem_cons.1 hc with rfl | hc
    · exact .inl rfl
    · exact .inr (.inr (hdigits hread hc))
  · obtain ⟨n, hread, -⟩ := Option.map_eq_some_iff.1 h
    rcases List.mem_cons.1 hc with rfl | hc
    · exact .inr (.inl rfl)
    · exact .inr (.inr (hdigits hread hc))
  · obtain ⟨n, hread, -⟩ := Option.map_eq_some_iff.1 h
    exact .inr (.inr (hdigits hread hc))

/-- No number with a fraction or an exponent reads as an integer. -/
theorem readSigned64?_print_float (x : Binary64) :
    readSigned64? (Number.float x).print = none := by
  obtain ⟨c, hc, hpoint⟩ := exists_mem_print_float x
  cases hread : readSigned? 10 (Number.float x).print.toList with
  | none => rw [readSigned64?, hread, Option.filter_none]
  | some n =>
    have hinteger := of_mem_of_readSigned? hread hc
    rcases hpoint with rfl | rfl
    · exact absurd hinteger (by decide)
    · exact absurd hinteger (by decide)

/-- Integers are numbers. -/
theorem isSome_read?_toString (n : Int) : (RealText.read? (toString n)).isSome = true := by
  have hunsigned (negative : Bool) (k : Nat) :
      (RealText.readUnsigned? negative (Nat.toDigits 10 k)).isSome = true := by
    have htake := List.takeWhile_eq_self_iff.2 (isDigit_of_mem_toDigits (n := k))
    have hdrop := List.dropWhile_eq_nil_iff.2 (isDigit_of_mem_toDigits (n := k))
    simp [RealText.readUnsigned?, htake, hdrop, Nat.toDigits_ne_nil, RealText.readExponent?]
  have hmagnitude (negative : Bool) (k : Nat) :
      (RealText.readMagnitude? negative (Nat.toDigits 10 k)).isSome = true := by
    unfold RealText.readMagnitude?
    split
    · rfl
    · rfl
    · rfl
    · exact hunsigned negative k
  rw [RealText.read?, Int.toString_eq_repr, Int.repr_eq_if]
  by_cases hn : 0 ≤ n
  · have hread := hmagnitude false n.toNat
    rw [if_pos hn, Nat.toList_repr]
    cases hds : Nat.toDigits 10 n.toNat with
    | nil => exact absurd hds Nat.toDigits_ne_nil
    | cons d ds =>
      have hdigit : d.isDigit = true := isDigit_of_mem_toDigits d (hds ▸ List.mem_cons_self)
      rw [hds] at hread
      split
      · rename_i heq
        rw [(List.cons.inj heq).1] at hdigit
        exact absurd hdigit (by decide)
      · rename_i heq
        rw [(List.cons.inj heq).1] at hdigit
        exact absurd hdigit (by decide)
      · exact hread
  · rw [if_neg hn, String.toList_append, Nat.toList_repr]
    exact hmagnitude true (-n).toNat

/-! ## Kinds -/

namespace ParameterKind

theorem isDeferred_print (x : Number) : isDeferred (.text x.print) = false := by
  rw [isDeferred, isExpression_print, NamedValue.isToken_of_notMem (notMem_print (by decide) x)]
  rfl

theorem isDeferred_of_isCoercion (h : IsCoercion s v) : isDeferred v = isDeferred (.text s) := by
  cases h with
  | text => rfl
  | bool b =>
    cases b with
    | true => decide
    | false => decide
  | int => exact (isDeferred_print (.int _)).symm
  | float => exact (isDeferred_print (.float _)).symm

theorem wordOf_of_isCoercion (h : IsCoercion s v) : wordOf v = s := by
  cases h with
  | text => rfl
  | bool => rfl
  | int => rfl
  | float => rfl

theorem hasType_integer_of_isCoercion (h : IsCoercion s v) :
    integer.hasType v = integer.hasType (.text s) := by
  cases h with
  | text => rfl
  | bool b =>
    cases b with
    | true => decide
    | false => decide
  | @int n hread =>
    have htrim := trim_print (.int n)
    rw [Number.print] at htrim
    rw [hasType, hasType, htrim, hread]
    rfl
  | @float x =>
    have hfloat : integer.hasType (.number (.float x)) = false := rfl
    rw [hfloat, hasType, trim_print, readSigned64?_print_float]
    rfl

theorem hasType_number_of_isCoercion (h : IsCoercion s v) :
    number.hasType v = number.hasType (.text s) := by
  cases h with
  | text => rfl
  | bool b =>
    cases b with
    | true => decide
    | false => decide
  | @int n =>
    have htrim := trim_print (.int n)
    rw [Number.print] at htrim
    rw [hasType, hasType, htrim, isSome_read?_toString]
  | @float x hread =>
    rw [hasType, hasType, trim_print, hread]
    rfl

theorem hasType_boolean_of_isCoercion (h : IsCoercion s v) :
    boolean.hasType v = boolean.hasType (.text s) := by
  -- No number is written like the word for a truth value.
  have hprint (x : Number) : boolean.hasType (.text x.print) = false := by
    have htrue : x.print ≠ "true" := fun heq => by
      have hmem := notMem_print (c := 't') (by decide) x
      rw [heq] at hmem
      exact hmem (by decide)
    have hfalse : x.print ≠ "false" := fun heq => by
      have hmem := notMem_print (c := 'f') (by decide) x
      rw [heq] at hmem
      exact hmem (by decide)
    simp [hasType, htrue, hfalse]
  cases h with
  | text => rfl
  | bool b =>
    cases b with
    | true => decide
    | false => decide
  | int => exact (hprint (.int _)).symm
  | float => exact (hprint (.float _)).symm

theorem hasType_of_isCoercion (h : IsCoercion s v) (hkind : kind ≠ .list) :
    kind.hasType v = kind.hasType (.text s) := by
  cases kind with
  | string => cases h <;> rfl
  | integer => exact hasType_integer_of_isCoercion h
  | number => exact hasType_number_of_isCoercion h
  | boolean => exact hasType_boolean_of_isCoercion h
  | duration => exact hasType_integer_of_isCoercion h
  | expression => cases h <;> rfl
  | oneOf allowed => cases h <;> rfl
  | list => exact absurd rfl hkind
  | object => cases h <;> rfl

/-- A kind other than the one for lists finds the same in a text and in what it is taken for. -/
theorem mismatch?_of_isCoercion (h : IsCoercion s v) (hkind : kind ≠ .list) :
    kind.mismatch? v = kind.mismatch? (.text s) := by
  have hword : wordOf v = wordOf (.text s) := wordOf_of_isCoercion h
  unfold mismatch?
  rw [isDeferred_of_isCoercion h, hasType_of_isCoercion h hkind, hword]

theorem mismatch?_list_text (s : String) : list.mismatch? (.text s) = none := by
  unfold mismatch?
  split
  · rfl
  · rfl

/-- The kind for lists takes no number and no truth value. -/
theorem mismatch?_list_of_isCoercion (h : IsCoercion s v) (hv : v ≠ .text s) :
    list.mismatch? v = some (.wrongType "list") := by
  cases h with
  | text => exact absurd rfl hv
  | bool => rfl
  | int => rfl
  | float => rfl

end ParameterKind

end GatewayPolicy
