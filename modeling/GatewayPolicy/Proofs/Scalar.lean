import GatewayPolicy.Proofs.Text.Integer
import GatewayPolicy.Scalar
/-!
# Attribute text as values, laws

Nothing is lost when attribute text is taken for a value: writing the value gives the text back.
-/

namespace GatewayPolicy

open Json Xml

variable {s : String} {n : Number}

/-- The value is one that the text may be taken for: it is written like the text. -/
inductive IsCoercion : String → Json → Prop where
  /-- Every text may be left as it is. -/
  | text (s : String) : IsCoercion s (.text s)
  /-- A word for a truth value. -/
  | bool (b : Bool) : IsCoercion (boolWord b) (.bool b)
  /-- An integer of 64 bits. -/
  | int {n : Int} (h : Text.readSigned64? (toString n) = some n) :
    IsCoercion (toString n) (.number (.int n))
  /-- A number with a fraction or an exponent. -/
  | float {x : Binary64} (h : RealText.read? (Number.float x).print = some (.finite x)) :
    IsCoercion (Number.float x).print (.number (.float x))

theorem isCoercion_of_numberOf? (h : numberOf? s = some n) : IsCoercion s (.number n) := by
  unfold numberOf? at h
  split at h
  · rename_i i hi
    obtain rfl := Option.some.inj h
    obtain ⟨hread, hprint⟩ := Option.mem_filter_iff.1 (Option.mem_def.2 hi)
    obtain rfl : toString i = s := by simpa using hprint
    exact .int hread
  · split at h
    · rename_i x hread
      split at h
      · rename_i hprint
        obtain rfl := Option.some.inj h
        subst hprint
        exact .float hread
      · simp at h
    · simp at h

theorem isCoercion_coerce (enabled : Bool) (s : String) : IsCoercion s (coerce enabled s) := by
  unfold coerce
  split
  · split
    · rename_i hs
      exact hs ▸ .bool true
    · split
      · rename_i hs
        exact hs ▸ .bool false
      · split
        · rename_i hn
          exact isCoercion_of_numberOf? hn
        · exact .text s
  · exact .text s

/-- Writing the value that a text is taken for gives the text back. -/
@[simp] theorem scalarText?_coerce (style : NamedValueStyle) (enabled : Bool) (s : String) :
    scalarText? style (coerce enabled s) = some s := by
  have hs := isCoercion_coerce enabled s
  generalize coerce enabled s = v at hs
  cases hs with
  | text => rw [scalarText?]
  | bool => rw [scalarText?]
  | int => rw [scalarText?, Number.print]
  | float => rw [scalarText?]

theorem coerce_cases (enabled : Bool) (s : String) :
    coerce enabled s = .text s ∨ (∃ b, coerce enabled s = .bool b) ∨
      ∃ n, coerce enabled s = .number n := by
  have hs := isCoercion_coerce enabled s
  generalize coerce enabled s = v at hs
  cases hs with
  | text => exact .inl rfl
  | bool b => exact .inr (.inl ⟨b, rfl⟩)
  | int => exact .inr (.inr ⟨_, rfl⟩)
  | float => exact .inr (.inr ⟨_, rfl⟩)

/-! ## Values that are written -/

theorem coerce_boolWord (b : Bool) : coerce true (boolWord b) = .bool b := by
  cases b with
  | true => rfl
  | false => rfl

theorem coerce_toString {n : Int} (h : Text.fitsSigned64 n = true) :
    coerce true (toString n) = .number (.int n) := by
  have hread := Text.readSigned64?_toString h
  have htrue : toString n ≠ "true" := by
    intro heq
    rw [heq] at hread
    simp [show Text.readSigned64? "true" = none by decide] at hread
  have hfalse : toString n ≠ "false" := by
    intro heq
    rw [heq] at hread
    simp [show Text.readSigned64? "false" = none by decide] at hread
  rw [coerce, if_pos rfl, if_neg htrue, if_neg hfalse, numberOf?, hread, Option.filter_some,
    if_pos (by simp)]

/-- Nothing is lost in either direction: the value that a text is taken for is written as the text,
and the text of a truth value or of an integer of 64 bits is taken for that value. -/
theorem coerce_lossless (style : NamedValueStyle) :
    (∀ (enabled : Bool) (s : String), scalarText? style (coerce enabled s) = some s) ∧
    (∀ b : Bool, (scalarText? style (.bool b)).map (coerce true) = some (.bool b)) ∧
    ∀ n : Int, -9223372036854775808 ≤ n → n ≤ 9223372036854775807 →
      (scalarText? style (.number (.int n))).map (coerce true) = some (.number (.int n)) := by
  refine ⟨scalarText?_coerce style, fun b => ?_, fun n hleast hgreatest => ?_⟩
  · rw [scalarText?, Option.map_some, coerce_boolWord]
  · rw [scalarText?, Number.print, Option.map_some,
      coerce_toString (Text.fitsSigned64_iff.2 ⟨hleast, hgreatest⟩)]

/-- The least integer of 64 bits, which has no counterpart above zero. -/
theorem coerce_lossless_leastInteger :
    (-9223372036854775808 : Int) ≤ -9223372036854775808 ∧
      (-9223372036854775808 : Int) ≤ 9223372036854775807 ∧
      (scalarText? .dollar (.number (.int (-9223372036854775808)))).map (coerce true) =
        some (.number (.int (-9223372036854775808))) :=
  ⟨by decide, by decide, (coerce_lossless .dollar).2.2 _ (by decide) (by decide)⟩

/-! ## Characters of numbers -/

theorem mem_toString_int {n : Int} {c : Char} (h : c ∈ (toString n).toList) :
    c = '-' ∨ c.isDigit = true := by
  rw [Int.toString_eq_repr, Int.repr_eq_if] at h
  split at h
  · rw [Nat.toList_repr] at h
    exact .inr (Nat.isDigit_of_mem_toDigits (by decide) (by decide) h)
  · rw [String.toList_append, Nat.toList_repr, List.mem_append] at h
    rcases h with h | h
    · exact .inl (by simpa using h)
    · exact .inr (Nat.isDigit_of_mem_toDigits (by decide) (by decide) h)

/-- A character that numbers are written with. -/
def isNumberChar (c : Char) : Bool := c.isDigit || ['-', '+', '.', 'e'].contains c

theorem isNumberChar_of_isDigit {c : Char} (h : c.isDigit = true) : isNumberChar c = true := by
  rw [isNumberChar, h, Bool.true_or]

theorem isNumberChar_toDigits (k : Nat) : ∀ c ∈ Nat.toDigits 10 k, isNumberChar c = true :=
  fun _ hc => isNumberChar_of_isDigit (Text.isDigit_of_mem_toDigits _ hc)

theorem isNumberChar_format (d : Decimal) :
    ∀ c ∈ (numberLayout.format d).toList, isNumberChar c = true := by
  have hdigits := isNumberChar_toDigits d.digits
  have htake (k : Nat) : ∀ c ∈ (Nat.toDigits 10 d.digits).take k, isNumberChar c = true :=
    fun c hc => hdigits c (List.mem_of_mem_take hc)
  have hdrop (k : Nat) : ∀ c ∈ (Nat.toDigits 10 d.digits).drop k, isNumberChar c = true :=
    fun c hc => hdigits c (List.mem_of_mem_drop hc)
  have hword {s : String} (h : s.toList.all isNumberChar = true) :
      ∀ c ∈ s.toList, isNumberChar c = true :=
    List.all_eq_true.1 h
  have hpoint {cs : List Char} (h : ∀ c ∈ cs, isNumberChar c = true) :
      ∀ c ∈ '.' :: cs, isNumberChar c = true :=
    List.forall_mem_cons.2 ⟨by decide, h⟩
  have hzeros (k : Nat) : ∀ c ∈ List.replicate k '0', isNumberChar c = true := fun c hc => by
    rw [List.eq_of_mem_replicate hc]
    decide
  unfold DecimalLayout.format
  dsimp only
  split
  · have hfraction : ∀ c ∈ (if (Nat.toDigits 10 d.digits).length = 1 then []
        else '.' :: (Nat.toDigits 10 d.digits).drop 1), isNumberChar c = true := by
      split
      · exact List.forall_mem_nil _
      · exact hpoint (hdrop 1)
    have hsign (lead : Int) : ∀ c ∈ (if lead < 0 then "-" else numberLayout.plus).toList,
        isNumberChar c = true := by
      split
      · exact hword rfl
      · exact hword rfl
    simp only [String.toList_append, String.toList_ofList, List.forall_mem_append]
    refine ⟨⟨⟨⟨htake 1, hfraction⟩, hword rfl⟩, hsign _⟩, ?_⟩
    rw [Nat.toString_eq_repr, Nat.toList_repr]
    exact isNumberChar_toDigits _
  · split
    · simp only [String.toList_append, String.toList_ofList, List.forall_mem_append]
      exact ⟨⟨hdigits, hzeros _⟩, hword rfl⟩
    · split
      · simp only [String.toList_ofList, List.forall_mem_append]
        exact ⟨htake _, hpoint (hdrop _)⟩
      · simp only [String.toList_append, String.toList_ofList, List.forall_mem_append]
        exact ⟨hword rfl, hzeros _, hdigits⟩

theorem isNumberChar_print (x : Number) : ∀ c ∈ x.print.toList, isNumberChar c = true := by
  cases x with
  | int n =>
    intro c hc
    rcases mem_toString_int hc with rfl | hdigit
    · decide
    · exact isNumberChar_of_isDigit hdigit
  | float x =>
    rw [Number.print, String.toList_append, List.forall_mem_append]
    refine ⟨List.all_eq_true.1 ?_, isNumberChar_format x.shortest⟩
    split
    · rfl
    · rfl

theorem notMem_print {c : Char} (h : isNumberChar c = false) (x : Number) :
    c ∉ x.print.toList := fun hc => by
  rw [isNumberChar_print x c hc] at h
  exact Bool.noConfusion h

theorem isExpression_print (x : Number) : isExpression x.print = false := by
  rw [isExpression, beq_eq_false_iff_ne]
  exact fun hat => notMem_print (by decide) x (List.mem_of_mem_head? hat)

/-- A number that is no integer shows it: it has a point or an exponent. -/
theorem exists_mem_print_float (x : Binary64) :
    ∃ c ∈ (Number.float x).print.toList, c = '.' ∨ c = 'e' := by
  have hformat (d : Decimal) : ∃ c ∈ (numberLayout.format d).toList, c = '.' ∨ c = 'e' := by
    unfold DecimalLayout.format
    dsimp only
    split
    · exact ⟨'e', by simp [numberLayout], .inr rfl⟩
    · refine ⟨'.', ?_, .inl rfl⟩
      split
      · simp
      · split
        · simp
        · simp
  obtain ⟨c, hc, h⟩ := hformat x.shortest
  refine ⟨c, ?_, h⟩
  rw [Number.print, String.toList_append]
  exact List.mem_append_right _ hc

end GatewayPolicy
