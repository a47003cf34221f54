import GatewayPolicy.Json.Reader
import GatewayPolicy.Proofs.Json.Tokens
/-!
# JSON text, laws

Reading a text that was written gives the value that was written: the tokens of a tree are read as
the tree, and the tree of a value has the value. Numbers have to be integers of 64 bits.
-/

namespace GatewayPolicy.Json

variable {v : Raw} {ts : List Token} {outer : List Frame} {l : Layout}

/-! ## Trees -/

/-- The first token of a tree ends no array. -/
theorem exists_tokens_eq_cons (v : Raw) : ∃ t ts, v.tokens = t :: ts ∧ t ≠ .closeArray := by
  cases v with
  | array items =>
    cases items with
    | nil => exact ⟨_, _, by rw [Raw.tokens], by simp⟩
    | cons v vs => exact ⟨_, _, by rw [Raw.tokens], by simp⟩
  | object fields =>
    cases fields with
    | nil => exact ⟨_, _, by rw [Raw.tokens], by simp⟩
    | cons f fields => exact ⟨_, _, by rw [Raw.tokens], by simp⟩
  | _ => exact ⟨_, _, by rw [Raw.tokens], by simp⟩

/-- The first item of an array is read like every value in it. -/
theorem foldlM_firstItem (v : Raw) (outer : List Frame) (ts : List Token) :
    (v.tokens ++ ts).foldlM readStep (.firstItem outer) =
      (v.tokens ++ ts).foldlM readStep (.value (.items [] :: outer)) := by
  obtain ⟨t, us, hv, ht⟩ := exists_tokens_eq_cons v
  rw [hv, List.cons_append, List.foldlM_cons, List.foldlM_cons]
  congr 1
  cases t with
  | closeArray => exact absurd rfl ht
  | _ => rfl

mutual

/-- Where a value is expected, the tokens of a tree are read as the tree. -/
theorem foldlM_tokens (outer : List Frame) (ts : List Token) : ∀ v : Raw,
    (v.tokens ++ ts).foldlM readStep (.value outer) = ts.foldlM readStep (.after v outer)
  | .null => by simp [Raw.tokens, readStep, beginValue]
  | .bool _ => by simp [Raw.tokens, readStep, beginValue]
  | .number _ => by simp [Raw.tokens, readStep, beginValue]
  | .text _ => by simp [Raw.tokens, readStep, beginValue]
  | .array [] => by simp [Raw.tokens, readStep, beginValue]
  | .array (v :: vs) => by
    have hv := foldlM_tokens (.items [] :: outer) (Raw.itemTokens vs ++ ts) v
    have hvs := foldlM_itemTokens v [] outer ts vs
    rw [← foldlM_firstItem] at hv
    simp only [Raw.tokens, List.cons_append, List.append_assoc, List.foldlM_cons, readStep,
      beginValue, Option.bind_eq_bind, Option.bind_some]
    rw [hv, hvs]
    rfl
  | .object [] => by simp [Raw.tokens, readStep, beginValue]
  | .object ((k, v) :: fields) => by
    have hv := foldlM_tokens (.field [] k :: outer) (Raw.fieldTokens fields ++ ts) v
    have hfields := foldlM_fieldTokens k v [] outer ts fields
    simp only [Raw.tokens, List.cons_append, List.append_assoc, List.foldlM_cons, readStep,
      beginValue, Option.bind_eq_bind, Option.bind_some]
    rw [hv, hfields]
    rfl

/-- In an array, the items before are kept in reverse. -/
theorem foldlM_itemTokens (v : Raw) (before : List Raw) (outer : List Frame) (ts : List Token) :
    ∀ vs : List Raw, (Raw.itemTokens vs ++ ts).foldlM readStep (.after v (.items before :: outer)) =
      ts.foldlM readStep (.after (.array (before.reverse ++ v :: vs)) outer)
  | [] => by simp [Raw.itemTokens, readStep]
  | v' :: vs => by
    have hv := foldlM_tokens (.items (v :: before) :: outer) (Raw.itemTokens vs ++ ts) v'
    have hvs := foldlM_itemTokens v' (v :: before) outer ts vs
    simp only [Raw.itemTokens, List.cons_append, List.append_assoc, List.foldlM_cons, readStep,
      Option.bind_eq_bind, Option.bind_some]
    rw [hv, hvs, List.reverse_cons, List.append_assoc, List.singleton_append]

/-- In an object, the fields before are kept in reverse. -/
theorem foldlM_fieldTokens (k : StringLiteral) (v : Raw) (before : List (StringLiteral × Raw))
    (outer : List Frame) (ts : List Token) : ∀ fields : List (StringLiteral × Raw),
    (Raw.fieldTokens fields ++ ts).foldlM readStep (.after v (.field before k :: outer)) =
      ts.foldlM readStep (.after (.object (before.reverse ++ (k, v) :: fields)) outer)
  | [] => by simp [Raw.fieldTokens, readStep]
  | (k', v') :: fields => by
    have hv := foldlM_tokens (.field ((k, v) :: before) k' :: outer)
      (Raw.fieldTokens fields ++ ts) v'
    have hfields := foldlM_fieldTokens k' v' ((k, v) :: before) outer ts fields
    simp only [Raw.fieldTokens, List.cons_append, List.append_assoc, List.foldlM_cons, readStep,
      Option.bind_eq_bind, Option.bind_some]
    rw [hv, hfields, List.reverse_cons, List.append_assoc, List.singleton_append]

end

theorem ofTokens?_tokens (v : Raw) : ofTokens? v.tokens = some v := by
  have hfold := foldlM_tokens [] [] v
  rw [List.append_nil] at hfold
  rw [ofTokens?, hfold]
  rfl

/-! ## Values -/

mutual

theorem value?_raw : ∀ v : Json, v.isExact = true → v.raw.value? = some v
  | .null, _ => rfl
  | .bool _, _ => rfl
  | .number (.int n), hexact => by
    rw [raw, Raw.value?, literal_int, value?_intLiteral (by simpa [isExact] using hexact)]
    rfl
  | .number (.float _), hexact => by simp [isExact, Number.isExact] at hexact
  | .text s, _ => by rw [raw, Raw.value?, stringValue?_textLiteral, Option.map_some]
  | .array items, hexact => by
    rw [raw, Raw.value?, itemValues?_rawItems items (by simpa [isExact] using hexact),
      Option.map_some]
  | .object fields, hexact => by
    rw [raw, Raw.value?, fieldValues?_rawFields fields (by simpa [isExact] using hexact),
      Option.map_some]

theorem itemValues?_rawItems : ∀ vs : List Json, isExactItems vs = true →
    Raw.itemValues? (rawItems vs) = some vs
  | [], _ => rfl
  | v :: vs, hexact => by
    rw [isExactItems, Bool.and_eq_true] at hexact
    simp [rawItems, Raw.itemValues?, value?_raw v hexact.1, itemValues?_rawItems vs hexact.2]

theorem fieldValues?_rawFields : ∀ fields : List (String × Json), isExactFields fields = true →
    Raw.fieldValues? (rawFields fields) = some fields
  | [], _ => rfl
  | (k, v) :: fields, hexact => by
    rw [isExactFields, Bool.and_eq_true] at hexact
    simp [rawFields, Raw.fieldValues?, stringValue?_textLiteral, value?_raw v hexact.1,
      fieldValues?_rawFields fields hexact.2]

end

/-! ## Texts -/

theorem read?_write (l : Layout) (s : String) {v : Json} (hs : s.toList = l.write 0 v)
    (hexact : v.isExact = true) : read? s = some v := by
  have htokens := tokens?_write l 0 [] v hexact (by simp [EndsNumber])
  rw [List.append_nil, ← hs, tokens?, Option.map_some, List.append_nil] at htokens
  rw [read?, readRaw?, htokens, Option.bind_some, ofTokens?_tokens, Option.bind_some,
    value?_raw v hexact]

/-- Reading a value that was written with one item per line gives the value. -/
theorem read?_pretty {v : Json} (hexact : v.isExact = true) : read? v.pretty = some v :=
  read?_write .pretty v.pretty (toList_prettyAt 0 v) hexact

/-- Reading a value that was written without blanks gives the value. -/
theorem read?_compact {v : Json} (hexact : v.isExact = true) : read? v.compact = some v :=
  read?_write .compact v.compact (toList_compact 0 v) hexact

end GatewayPolicy.Json
