import Mathlib.Data.List.Basic
import GatewayPolicy.Proofs.Xml.Cursor
import GatewayPolicy.Proofs.Xml.Roots
/-!
# Values between quotes

An attribute value is written between double quotes, with references unless it looks like an
expression. What looks like one is written as it is, so it is read back exactly if it holds nothing
that reads as a reference and its end can be told: because it holds no double quote, or because it is
one complete expression.
-/

namespace GatewayPolicy.Xml

open Text

variable {cs r raw tail : List Char} {quote : Char} {v : String}

/-! ## The closing quote -/

/-- A value that holds a quote has an end. -/
theorem exists_splitAtQuote? (h : quote ∈ cs) : ∃ raw r, splitAtQuote? quote cs = some (raw, r) := by
  unfold splitAtQuote?
  split
  · exact ⟨_, _, rfl⟩
  · split
    · exact ⟨_, _, rfl⟩
    · rename_i hdrop
      have hall := List.dropWhile_eq_nil_iff.1 hdrop quote h
      simp at hall

/-- A value without the quote around it ends at the quote, if no other quote follows. -/
theorem splitAtQuote?_of_notMem_tail (hraw : quote ∉ raw) (htail : quote ∉ tail) :
    splitAtQuote? quote (raw ++ quote :: tail) = some (raw, tail) := by
  have hmem : quote ∈ raw ++ quote :: tail := by simp
  obtain ⟨raw', r', hsplit⟩ := exists_splitAtQuote? hmem
  obtain ⟨rfl, -, rfl⟩ :=
    (List.append_cons_inj_of_notMem hraw htail).1 (splitAtQuote?_split hsplit).symm
  exact hsplit

/-- If a value is read as a whole, its end can be told. -/
theorem ends_of_splitAtQuote? (h : splitAtQuote? quote (raw ++ quote :: tail) = some (raw, tail)) :
    quote ∉ raw ∨ scanExpression? raw = some (raw, []) := by
  cases hquoted : quotedExpression? quote (raw ++ quote :: tail) with
  | none => exact .inl (notMem_of_splitAtQuote? hquoted h)
  | some parts =>
    rw [splitAtQuote?, hquoted] at h
    obtain rfl := Option.some.inj h
    exact .inr (quotedExpression?_eq_some_iff.1 hquoted).1

/-- A value that is read as what is written for it is read as a whole. -/
theorem eq_of_splitAtQuote? {s : List Char} (htail : quote ∉ tail)
    (h : splitAtQuote? quote (s ++ quote :: tail) = some (raw, r)) (hs : unescapeChars raw = s) :
    raw = s ∧ r = tail := by
  have hlength := length_unescapeChars_le raw
  rw [hs] at hlength
  rcases List.append_eq_append_iff.1 (splitAtQuote?_split h) with ⟨a, ha, hb⟩ | ⟨a, ha, hb⟩
  · obtain rfl : a = [] := by
      rw [ha, List.length_append] at hlength
      exact List.length_eq_zero_iff.1 (by omega)
    exact ⟨by simpa using ha.symm, by simpa using hb⟩
  · cases a with
    | nil => exact ⟨by simpa using ha, by simpa using hb.symm⟩
    | cons c a =>
      obtain ⟨-, hc⟩ := List.cons.inj hb
      exact absurd (by simp [hc]) htail

/-! ## One attribute -/

/-- An element with one attribute, whose value is written between its quotes. -/
def quotedDocument (v : String) : String := "<e k=\"" ++ attributeText v ++ "\" />"

/-- What is written for the value is read back: references are, and an expression is if it reads as
itself and its end can be told. -/
def StaysInQuotes (v : String) : Prop :=
  isExpression v = false ∨
    unescape v = v ∧ ('"' ∉ v.toList ∨ scanExpression? v.toList = some (v.toList, []))

instance (v : String) : Decidable (StaysInQuotes v) := inferInstanceAs (Decidable (_ ∨ _))

theorem toList_quotedDocument (v : String) :
    (quotedDocument v).toList =
      '<' :: ("e".toList ++ (' ' :: ("k".toList ++ '=' :: '"' :: ((attributeText v).toList ++
        '"' :: [' ', '/', '>'])))) := by
  simp [quotedDocument]

/-- The attribute is read with what stands in front of the closing quote. -/
theorem readAttributes_quoted (h : splitAtQuote? '"' cs = some (raw, r)) (start : List Char)
    (name : String) :
    readAttributes start name [] (' ' :: ("k".toList ++ '=' :: '"' :: cs)) =
      readAttributes start name [("k", .ofList (unescapeChars raw))] r := by
  have hcs := splitAtQuote?_split h
  rw [← hcs] at h
  have hk : IsName "k" := by decide
  have hread := readAttribute_append hk isBlankRun_nil isBlankRun_nil (.inl rfl) h
  rw [hcs, List.nil_append, List.nil_append] at hread
  exact readAttributes_cons hk isBlankRun_space hread (by simp) start name

theorem parse_quotedDocument_of_splitAtQuote?
    (h : splitAtQuote? '"' ((attributeText v).toList ++ '"' :: [' ', '/', '>']) =
      some ((attributeText v).toList, [' ', '/', '>']))
    (hv : unescape (attributeText v) = v) :
    parse (quotedDocument v) = .ok ⟨"e", [("k", v)], []⟩ := by
  have he : IsName "e" := by decide
  have hattributes {start : List Char} :
      readAttributes start "e" [] (' ' :: ("k".toList ++ '=' :: '"' ::
        ((attributeText v).toList ++ '"' :: [' ', '/', '>']))) = .ok (([("k", v)], true), []) := by
    rw [readAttributes_quoted h, ← unescape, hv]
    exact readAttributes_closed isBlankRun_space _ _ _ []
  refine parse_of_readDocument (toList_quotedDocument v) ?_
  exact readDocument_of_readRoot (skipMisc_name he _)
    (readRoot_closedTag (readStartTag_append he rfl hattributes)) skipMisc_nil

/-- A value that is written as it is and read back has no other end than its own. -/
theorem splitAtQuote?_of_parse (h : parse (quotedDocument v) = .ok ⟨"e", [("k", v)], []⟩)
    (hv : attributeText v = v) :
    unescape v = v ∧ splitAtQuote? '"' (v.toList ++ '"' :: [' ', '/', '>']) =
      some (v.toList, [' ', '/', '>']) := by
  have he : IsName "e" := by decide
  have hmem : '"' ∈ v.toList ++ '"' :: [' ', '/', '>'] := by simp
  obtain ⟨raw, r, hsplit⟩ := exists_splitAtQuote? hmem
  have hchars := toList_quotedDocument v
  rw [hv] at hchars
  obtain ⟨r', hroot⟩ := exists_readRoot_of_readDocument he (readDocument_of_parse hchars h)
  obtain ⟨tag, r'', htag, -, hattributes⟩ := tag_eq_of_readRoot hroot
  have hvalue : unescapeChars raw = v.toList := by
    unfold readStartTag at htag
    rw [readName_append he rfl] at htag
    dsimp only at htag
    split at htag
    · simp at htag
    · rename_i hread
      rw [readAttributes_quoted hsplit] at hread
      obtain ⟨rfl, -⟩ := Prod.mk.inj (Except.ok.inj htag)
      have hfront := prefix_of_readAttributes hread
      dsimp only at hfront hattributes
      rw [← hattributes] at hfront
      have hpair := List.cons.inj (hfront.eq_of_length rfl)
      rw [← (Prod.mk.inj hpair.1).2, String.toList_ofList]
  obtain ⟨rfl, rfl⟩ := eq_of_splitAtQuote? (by decide) hsplit hvalue
  refine ⟨?_, hsplit⟩
  rw [unescape, hvalue, String.ofList_toList]

/-- A value between its quotes is read back in these cases and no others. -/
theorem parse_quotedDocument_iff (v : String) :
    parse (quotedDocument v) = .ok ⟨"e", [("k", v)], []⟩ ↔ StaysInQuotes v := by
  cases hv : isExpression v with
  | false =>
    have hclean : IsCleanValue v := .inl hv
    exact ⟨fun _ => .inl hv, fun _ => parse_quotedDocument_of_splitAtQuote?
      (isQuotable_attributeText hclean _) (unescape_attributeText hclean)⟩
  | true =>
    have hraw : attributeText v = v := if_pos hv
    constructor
    · intro h
      obtain ⟨hread, hsplit⟩ := splitAtQuote?_of_parse h hraw
      exact .inr ⟨hread, ends_of_splitAtQuote? hsplit⟩
    · rintro (hnot | ⟨hread, hend⟩)
      · rw [hv] at hnot
        cases hnot
      · refine parse_quotedDocument_of_splitAtQuote? ?_ (by rw [hraw, hread])
        rw [hraw]
        rcases hend with hquote | hscan
        · exact splitAtQuote?_of_notMem_tail hquote (by decide)
        · exact isQuotable_of_scanExpression? hscan _

/-- A quote behind an at sign ends the value too early. -/
theorem not_parse_quotedDocument :
    ¬ ∀ v : String, parse (quotedDocument v) = .ok ⟨"e", [("k", v)], []⟩ := by
  intro h
  have hrefused : parse (quotedDocument "@\"") = .error (.parse "invalid name ''" 8) := by
    with_unfolding_all rfl
  have hread := h "@\""
  rw [hrefused] at hread
  cases hread

end GatewayPolicy.Xml
