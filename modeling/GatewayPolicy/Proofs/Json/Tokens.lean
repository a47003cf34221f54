import GatewayPolicy.Json.Raw
import GatewayPolicy.Proofs.Json.Literals
/-!
# JSON text, tokens

A text that is written for a value, in one layout or the other, is read as the tokens of the value.
The layouts differ only in the blanks between tokens, so there is one law for both: `Layout` says
where blanks may stand.
-/

namespace GatewayPolicy.Json

open Text

variable {cs rest : List Char} {c : Char} {t : Token} {l : Layout}

/-! ## Values and their tokens -/

/-- The literal in the text of a number. -/
def Number.literal (n : Number) : NumberLiteral :=
  match readNumber? n.print.toList with
  | some (literal, _) => literal
  | none => intLiteral 0

theorem literal_int (n : Int) : (Number.int n).literal = intLiteral n := by
  have hend : EndsNumber [] := by simp [EndsNumber]
  have hread := readNumber?_toString n hend
  rw [List.append_nil] at hread
  rw [Number.literal, Number.print, hread]

mutual

/-- The value as the tree of its text. -/
def raw : Json → Raw
  | .null => .null
  | .bool b => .bool b
  | .number n => .number n.literal
  | .text s => .text (textLiteral s)
  | .array items => .array (rawItems items)
  | .object fields => .object (rawFields fields)

/-- `raw` for each item. -/
def rawItems : List Json → List Raw
  | [] => []
  | v :: vs => raw v :: rawItems vs

/-- `raw` for the value of each field, under the literal of its key. -/
def rawFields : List (String × Json) → List (StringLiteral × Raw)
  | [] => []
  | (k, v) :: rest => (textLiteral k, raw v) :: rawFields rest

end

mutual

/-- The tokens of a tree. -/
def Raw.tokens : Raw → List Token
  | .null => [.null]
  | .bool b => [.bool b]
  | .number n => [.number n]
  | .text s => [.text s]
  | .array [] => [.openArray, .closeArray]
  | .array (v :: vs) => .openArray :: (Raw.tokens v ++ Raw.itemTokens vs)
  | .object [] => [.openObject, .closeObject]
  | .object ((k, v) :: rest) =>
    .openObject :: .text k :: .colon :: (Raw.tokens v ++ Raw.fieldTokens rest)

/-- The tokens from the first item on, with the end of the array. -/
def Raw.itemTokens : List Raw → List Token
  | [] => [.closeArray]
  | v :: vs => .comma :: (Raw.tokens v ++ Raw.itemTokens vs)

/-- The tokens after the first field, with the end of the object. -/
def Raw.fieldTokens : List (StringLiteral × Raw) → List Token
  | [] => [.closeObject]
  | (k, v) :: rest => .comma :: .text k :: .colon :: (Raw.tokens v ++ Raw.fieldTokens rest)

end

mutual

/-- All numbers are integers of 64 bits. -/
def isExact : Json → Bool
  | .number n => n.isExact
  | .array items => isExactItems items
  | .object fields => isExactFields fields
  | _ => true

/-- `isExact` for all items. -/
def isExactItems : List Json → Bool
  | [] => true
  | v :: vs => isExact v && isExactItems vs

/-- `isExact` for the values of all fields. -/
def isExactFields : List (String × Json) → Bool
  | [] => true
  | (_, v) :: rest => isExact v && isExactFields rest

end

/-! ## Layouts -/

/-- The blanks between the tokens of a text. -/
structure Layout where
  /-- Before an item, a field or an end at a level. -/
  gap : Nat → List Char
  /-- After a colon. -/
  space : List Char
  /-- There is nothing but blanks before an item. -/
  gap_blank : ∀ level, ∀ c ∈ gap level, isSpace c = true
  /-- There is nothing but blanks after a colon. -/
  space_blank : ∀ c ∈ space, isSpace c = true

namespace Layout

mutual

/-- The text of a value. -/
def write (l : Layout) (level : Nat) : Json → List Char
  | .null => "null".toList
  | .bool b => (boolWord b).toList
  | .number n => n.print.toList
  | .text s => (quote s).toList
  | .array [] => ['[', ']']
  | .array (v :: vs) =>
    '[' :: (l.gap (level + 1) ++ (write l (level + 1) v ++ writeItems l level vs))
  | .object [] => ['\x7b', '\x7d']
  | .object ((k, v) :: rest) =>
    '\x7b' :: (l.gap (level + 1) ++ ((quote k).toList ++ ':' :: (l.space ++
      (write l (level + 1) v ++ writeFields l level rest))))

/-- The items after the first, with the end of the array. -/
def writeItems (l : Layout) (level : Nat) : List Json → List Char
  | [] => l.gap level ++ [']']
  | v :: vs => ',' :: (l.gap (level + 1) ++ (write l (level + 1) v ++ writeItems l level vs))

/-- The fields after the first, with the end of the object. -/
def writeFields (l : Layout) (level : Nat) : List (String × Json) → List Char
  | [] => l.gap level ++ ['\x7d']
  | (k, v) :: rest =>
    ',' :: (l.gap (level + 1) ++ ((quote k).toList ++ ':' :: (l.space ++
      (write l (level + 1) v ++ writeFields l level rest))))

end

/-- No blanks at all. -/
def compact : Layout := ⟨fun _ => [], [], by simp, by simp⟩

/-- Each item on a line of its own. -/
def pretty : Layout where
  gap level := (newline level).toList
  space := [' ']
  gap_blank level c hc := by
    rw [newline, String.toList_append] at hc
    rcases List.mem_append.1 hc with hc | hc
    · obtain rfl : c = '\n' := List.mem_singleton.1 hc
      rfl
    · rw [String.toList_ofList] at hc
      obtain rfl := List.eq_of_mem_replicate hc
      rfl
  space_blank := by simp [isSpace]

theorem gap_compact (level : Nat) : compact.gap level = [] := rfl

theorem space_compact : compact.space = [] := rfl

theorem gap_pretty (level : Nat) : pretty.gap level = (newline level).toList := rfl

theorem space_pretty : pretty.space = [' '] := rfl

end Layout

mutual

theorem toList_compact (level : Nat) : ∀ v : Json, v.compact.toList = Layout.compact.write level v
  | .null => rfl
  | .bool _ => rfl
  | .number _ => rfl
  | .text _ => rfl
  | .array [] => rfl
  | .array (v :: vs) => by
    simp [compact, Layout.write, Layout.gap_compact, toList_compact (level + 1) v,
      toList_compactItems level vs]
  | .object [] => rfl
  | .object ((k, v) :: rest) => by
    simp [compact, Layout.write, Layout.gap_compact, Layout.space_compact,
      toList_compact (level + 1) v, toList_compactFields level rest]

theorem toList_compactItems (level : Nat) : ∀ vs : List Json,
    Layout.compact.writeItems level vs = (compactItems vs).toList ++ [']']
  | [] => rfl
  | v :: vs => by
    simp [compactItems, Layout.writeItems, Layout.gap_compact, toList_compact (level + 1) v,
      toList_compactItems level vs]

theorem toList_compactFields (level : Nat) : ∀ fields : List (String × Json),
    Layout.compact.writeFields level fields = (compactFields fields).toList ++ ['\x7d']
  | [] => rfl
  | (k, v) :: rest => by
    simp [compactFields, Layout.writeFields, Layout.gap_compact, Layout.space_compact,
      toList_compact (level + 1) v, toList_compactFields level rest]

end

mutual

theorem toList_prettyAt (level : Nat) : ∀ v : Json,
    (prettyAt level v).toList = Layout.pretty.write level v
  | .null => rfl
  | .bool _ => rfl
  | .number _ => rfl
  | .text _ => rfl
  | .array [] => by simp [prettyAt, Layout.write]
  | .array (v :: vs) => by
    simp [prettyAt, Layout.write, Layout.gap_pretty, toList_prettyAt (level + 1) v,
      toList_prettyItems level vs]
  | .object [] => by simp [prettyAt, Layout.write]
  | .object ((k, v) :: rest) => by
    simp [prettyAt, Layout.write, Layout.gap_pretty, Layout.space_pretty,
      toList_prettyAt (level + 1) v, toList_prettyFields level rest]

theorem toList_prettyItems (level : Nat) : ∀ vs : List Json,
    Layout.pretty.writeItems level vs =
      (prettyItems (level + 1) vs).toList ++ ((newline level).toList ++ [']'])
  | [] => rfl
  | v :: vs => by
    simp [prettyItems, Layout.writeItems, Layout.gap_pretty, toList_prettyAt (level + 1) v,
      toList_prettyItems level vs]

theorem toList_prettyFields (level : Nat) : ∀ fields : List (String × Json),
    Layout.pretty.writeFields level fields =
      (prettyFields (level + 1) fields).toList ++ ((newline level).toList ++ ['\x7d'])
  | [] => rfl
  | (k, v) :: rest => by
    simp [prettyFields, Layout.writeFields, Layout.gap_pretty, Layout.space_pretty,
      toList_prettyAt (level + 1) v, toList_prettyFields level rest]

end

/-! ## Reading tokens -/

theorem tokens?_of_readToken? (hspace : isSpace c = false)
    (h : readToken? (c :: cs) = some (t, rest)) :
    tokens? (c :: cs) = (tokens? rest).map (t :: ·) := by
  rw [tokens?.eq_def]
  simp only [hspace, Bool.false_eq_true, if_false]
  split
  · rename_i h'
    obtain ⟨rfl, rfl⟩ := Prod.mk.inj (Option.some.inj (h.symm.trans h'))
    rfl
  · rename_i h'
    rw [h] at h'
    simp at h'

theorem tokens?_blanks_append {blanks : List Char} (h : ∀ c ∈ blanks, isSpace c = true)
    (rest : List Char) : tokens? (blanks ++ rest) = tokens? rest := by
  induction blanks with
  | nil => rfl
  | cons c blanks ih =>
    obtain ⟨hc, hblanks⟩ := List.forall_mem_cons.1 h
    rw [List.cons_append, tokens?, if_pos hc, ih hblanks]

theorem isSpace_of_punctuation? (h : punctuation? c = some t) : isSpace c = false := by
  unfold punctuation? at h
  repeat' split at h
  all_goals first | subst c; rfl | simp at h

theorem tokens?_punctuation (h : punctuation? c = some t) (rest : List Char) :
    tokens? (c :: rest) = (tokens? rest).map (t :: ·) := by
  refine tokens?_of_readToken? (isSpace_of_punctuation? h) ?_
  rw [readToken?, h]

theorem tokens?_openArray (rest : List Char) :
    tokens? ('[' :: rest) = (tokens? rest).map (.openArray :: ·) := tokens?_punctuation rfl rest

theorem tokens?_closeArray (rest : List Char) :
    tokens? (']' :: rest) = (tokens? rest).map (.closeArray :: ·) := tokens?_punctuation rfl rest

theorem tokens?_openObject (rest : List Char) :
    tokens? ('\x7b' :: rest) = (tokens? rest).map (.openObject :: ·) := tokens?_punctuation rfl rest

theorem tokens?_closeObject (rest : List Char) :
    tokens? ('\x7d' :: rest) = (tokens? rest).map (.closeObject :: ·) := tokens?_punctuation rfl rest

theorem tokens?_comma (rest : List Char) :
    tokens? (',' :: rest) = (tokens? rest).map (.comma :: ·) := tokens?_punctuation rfl rest

theorem tokens?_colon (rest : List Char) :
    tokens? (':' :: rest) = (tokens? rest).map (.colon :: ·) := tokens?_punctuation rfl rest

theorem tokens?_quote (s : String) (rest : List Char) :
    tokens? ((quote s).toList ++ rest) = (tokens? rest).map (.text (textLiteral s) :: ·) := by
  have hquote : (quote s).toList ++ rest = '"' :: (s.toList.flatMap escapeChar ++ '"' :: rest) := by
    simp [quote]
  rw [hquote]
  refine tokens?_of_readToken? rfl ?_
  simp only [readToken?, punctuation?, Char.reduceEq, if_false, readString?_flatMap_escapeChar]
  rfl

/-- A number is one token, up to its end. -/
theorem tokens?_toString (n : Int) (h : EndsNumber rest) :
    tokens? ((toString n).toList ++ rest) = (tokens? rest).map (.number (intLiteral n) :: ·) := by
  have hread := readNumber?_toString n h
  obtain ⟨c, cs, hcs, hc⟩ : ∃ c cs, (toString n).toList ++ rest = c :: cs ∧
      (c = '-' ∨ c.isDigit = true) := by
    rw [toList_toString_int]
    by_cases hn : n < 0
    · exact ⟨'-', _, by rw [if_pos hn]; rfl, .inl rfl⟩
    · cases hds : Nat.toDigits 10 n.natAbs with
      | nil => exact absurd hds Nat.toDigits_ne_nil
      | cons d ds =>
        exact ⟨d, ds ++ rest, by rw [if_neg hn]; rfl,
          .inr (isDigit_of_mem_toDigits d (hds ▸ List.mem_cons_self))⟩
  -- All that the reader tells apart by its first character starts otherwise.
  have hne (c' : Char) (hc' : c'.isDigit = false) (hminus : c' ≠ '-') : c ≠ c' := by
    rintro rfl
    rcases hc with hc | hc
    · exact hminus hc
    · simp [hc] at hc'
  rw [hcs] at hread ⊢
  refine tokens?_of_readToken? ?_ ?_
  · simp [isSpace, hne]
  · have hpunctuation : punctuation? c = none := by simp [punctuation?, hne]
    rw [readToken?, hpunctuation]
    dsimp only
    split
    · rename_i heq
      exact absurd (List.cons.inj heq).1 (hne '"' rfl (by decide))
    · rename_i heq
      exact absurd (List.cons.inj heq).1 (hne 't' rfl (by decide))
    · rename_i heq
      exact absurd (List.cons.inj heq).1 (hne 'f' rfl (by decide))
    · rename_i heq
      exact absurd (List.cons.inj heq).1 (hne 'n' rfl (by decide))
    · rw [hread, Option.map_some]

/-! ## Ends of numbers -/

theorem endsNumber_cons (h : punctuation? c = some t ∨ isSpace c = true) (cs : List Char) :
    EndsNumber (c :: cs) := by
  rintro _ ⟨⟩
  rcases h with h | h
  · unfold punctuation? at h
    repeat' split at h
    all_goals first | subst c; decide | simp at h
  · simp only [isSpace, Bool.or_eq_true, beq_iff_eq] at h
    rcases h with ((rfl | rfl) | rfl) | rfl
    all_goals decide

theorem endsNumber_gap_append {level : Nat} (h : EndsNumber rest) :
    EndsNumber (l.gap level ++ rest) := by
  cases hgap : l.gap level with
  | nil => exact h
  | cons c cs => exact endsNumber_cons (t := .comma) (.inr (l.gap_blank level c (by simp [hgap]))) _

theorem endsNumber_writeItems (l : Layout) (level : Nat) (vs : List Json) (rest : List Char) :
    EndsNumber (l.writeItems level vs ++ rest) := by
  cases vs with
  | nil =>
    rw [Layout.writeItems, List.append_assoc]
    exact endsNumber_gap_append (endsNumber_cons (.inl rfl) _)
  | cons v vs => exact endsNumber_cons (.inl rfl) _

theorem endsNumber_writeFields (l : Layout) (level : Nat) (fields : List (String × Json))
    (rest : List Char) : EndsNumber (l.writeFields level fields ++ rest) := by
  cases fields with
  | nil =>
    rw [Layout.writeFields, List.append_assoc]
    exact endsNumber_gap_append (endsNumber_cons (.inl rfl) _)
  | cons f fields => exact endsNumber_cons (.inl rfl) _

/-! ## Tokens of values -/

theorem tokens?_boolWord (b : Bool) (rest : List Char) :
    tokens? ((boolWord b).toList ++ rest) = (tokens? rest).map (.bool b :: ·) := by
  cases b <;> exact tokens?_of_readToken? rfl rfl

mutual

/-- What is written for a value is read as the tokens of the value. -/
theorem tokens?_write (l : Layout) (level : Nat) (rest : List Char) : ∀ v : Json,
    v.isExact = true → EndsNumber rest →
      tokens? (l.write level v ++ rest) = (tokens? rest).map (v.raw.tokens ++ ·)
  | .null, _, _ => tokens?_of_readToken? rfl rfl
  | .bool b, _, _ => tokens?_boolWord b rest
  | .number (.int n), _, hrest => by
    rw [raw, literal_int]
    exact tokens?_toString n hrest
  | .number (.float _), hexact, _ => by simp [isExact, Number.isExact] at hexact
  | .text s, _, _ => tokens?_quote s rest
  | .array [], _, _ => by
    simp only [Layout.write, List.cons_append, List.nil_append, tokens?_openArray,
      tokens?_closeArray, Option.map_map]
    rfl
  | .array (v :: vs), hexact, _ => by
    rw [isExact, isExactItems, Bool.and_eq_true] at hexact
    have hitems := tokens?_writeItems l level rest vs hexact.2
    have hv := tokens?_write l (level + 1) (l.writeItems level vs ++ rest) v hexact.1
      (endsNumber_writeItems l level vs rest)
    simp only [Layout.write, List.cons_append, List.append_assoc, tokens?_openArray,
      tokens?_blanks_append (l.gap_blank _), hv, hitems, Option.map_map]
    simp [raw, rawItems, Raw.tokens, Function.comp_def]
  | .object [], _, _ => by
    simp only [Layout.write, List.cons_append, List.nil_append, tokens?_openObject,
      tokens?_closeObject, Option.map_map]
    rfl
  | .object ((k, v) :: fields), hexact, _ => by
    rw [isExact, isExactFields, Bool.and_eq_true] at hexact
    have hfields := tokens?_writeFields l level rest fields hexact.2
    have hv := tokens?_write l (level + 1) (l.writeFields level fields ++ rest) v hexact.1
      (endsNumber_writeFields l level fields rest)
    simp only [Layout.write, List.cons_append, List.append_assoc, tokens?_openObject,
      tokens?_blanks_append (l.gap_blank _), tokens?_quote, tokens?_colon,
      tokens?_blanks_append l.space_blank, hv, hfields, Option.map_map]
    simp [raw, rawFields, Raw.tokens, Function.comp_def]

theorem tokens?_writeItems (l : Layout) (level : Nat) (rest : List Char) : ∀ vs : List Json,
    isExactItems vs = true →
      tokens? (l.writeItems level vs ++ rest) = (tokens? rest).map (Raw.itemTokens (rawItems vs) ++ ·)
  | [], _ => by
    simp only [Layout.writeItems, List.append_assoc, tokens?_blanks_append (l.gap_blank _),
      List.singleton_append, tokens?_closeArray]
    rfl
  | v :: vs, hexact => by
    rw [isExactItems, Bool.and_eq_true] at hexact
    have hitems := tokens?_writeItems l level rest vs hexact.2
    have hv := tokens?_write l (level + 1) (l.writeItems level vs ++ rest) v hexact.1
      (endsNumber_writeItems l level vs rest)
    simp only [Layout.writeItems, List.cons_append, List.append_assoc, tokens?_comma,
      tokens?_blanks_append (l.gap_blank _), hv, hitems, Option.map_map]
    simp [rawItems, Raw.itemTokens, Function.comp_def]

theorem tokens?_writeFields (l : Layout) (level : Nat) (rest : List Char) :
    ∀ fields : List (String × Json), isExactFields fields = true →
      tokens? (l.writeFields level fields ++ rest) =
        (tokens? rest).map (Raw.fieldTokens (rawFields fields) ++ ·)
  | [], _ => by
    simp only [Layout.writeFields, List.append_assoc, tokens?_blanks_append (l.gap_blank _),
      List.singleton_append, tokens?_closeObject]
    rfl
  | (k, v) :: fields, hexact => by
    rw [isExactFields, Bool.and_eq_true] at hexact
    have hfields := tokens?_writeFields l level rest fields hexact.2
    have hv := tokens?_write l (level + 1) (l.writeFields level fields ++ rest) v hexact.1
      (endsNumber_writeFields l level fields rest)
    simp only [Layout.writeFields, List.cons_append, List.append_assoc, tokens?_comma,
      tokens?_blanks_append (l.gap_blank _), tokens?_quote, tokens?_colon,
      tokens?_blanks_append l.space_blank, hv, hfields, Option.map_map]
    simp [rawFields, Raw.fieldTokens, Function.comp_def]

end

end GatewayPolicy.Json
