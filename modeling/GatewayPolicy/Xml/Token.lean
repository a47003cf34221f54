import GatewayPolicy.Text.Alphabetic
import GatewayPolicy.Text.Search
import GatewayPolicy.Xml.Element
import GatewayPolicy.Xml.Expression
import GatewayPolicy.Xml.Fault
import GatewayPolicy.Xml.Reference
/-!
# Markup tokens

What the content of an element is made of: tags, comments, CDATA sections, processing instructions
and runs of text. A token is decided by its first characters alone and always uses up input, so
reading tokens comes to an end on every document.

Two places know policy expressions: an attribute value that starts with a complete expression right
up to the closing quote may hold quotes, and a run of text does not end inside an expression.
-/

namespace GatewayPolicy.Xml

open Text

/-- A start tag. -/
structure StartTag where
  /-- The name of the element. -/
  name : String
  /-- The attributes, in document order. -/
  attributes : Attributes
  /-- The tag is the end of its element as well. -/
  closed : Bool
  deriving DecidableEq, Repr

/-- A piece of markup or a run of text. -/
inductive Token where
  /-- A start tag. -/
  | startTag (tag : StartTag)
  /-- An end tag. -/
  | endTag (name : String)
  /-- A comment. -/
  | comment (value : String)
  /-- A CDATA section. -/
  | cdata (value : String)
  /-- A processing instruction, which carries nothing. -/
  | instruction
  /-- A run of text. -/
  | text (value : String)
  deriving DecidableEq, Repr

/-! ## Names -/

/-- A character that can be part of a name. -/
def isNameChar (c : Char) : Bool :=
  !(isBlank c || c == '/' || c == '>' || c == '=' || c == '<' || c == '"' || c == '\'')

/-- A character that a name can start with. -/
def isNameStart (c : Char) : Bool := isAlphabetic c || c == '_' || c == ':'

/-- Reads a name. -/
def readName (cs : List Char) : Except Failure (String × List Char) :=
  let name := cs.takeWhile isNameChar
  if name.head?.any isNameStart then .ok (.ofList name, cs.dropWhile isNameChar)
  else .error ⟨.invalidName (.ofList name), cs⟩

theorem length_of_readName {cs r : List Char} {n : String} (h : readName cs = .ok (n, r)) :
    r.length < cs.length := by
  simp only [readName] at h
  split at h
  · rename_i hn
    simp only [Except.ok.injEq, Prod.mk.injEq] at h
    obtain ⟨-, rfl⟩ := h
    have hl := congrArg List.length (List.takeWhile_append_dropWhile (p := isNameChar) (l := cs))
    have : (cs.takeWhile isNameChar).length ≠ 0 := by
      intro h0
      rw [List.length_eq_zero_iff] at h0
      simp [h0] at hn
    simp only [List.length_append] at hl
    omega
  · simp at h

/-! ## Closing marks -/

/-- Splits at the closing mark of a construct. -/
def readConstruct (construct : Construct) (mark cs : List Char) :
    Except Failure (List Char × List Char) :=
  match splitAtFirst? mark cs with
  | some parts => .ok parts
  | none => .error ⟨.unterminated construct, cs⟩

theorem length_of_readConstruct {construct : Construct} {mark cs b a : List Char}
    (h : readConstruct construct mark cs = .ok (b, a)) : a.length + mark.length ≤ cs.length := by
  unfold readConstruct at h
  split at h
  · rename_i parts hp
    simp only [Except.ok.injEq] at h
    subst h
    exact length_of_splitAtFirst? hp
  · simp at h

/-- Splits at the end of a comment whose opening mark has been read. -/
def readComment (cs : List Char) : Except Failure (List Char × List Char) :=
  readConstruct .comment ['-', '-', '>'] cs

/-- Splits at the end of a CDATA section whose opening mark has been read. -/
def readCdata (cs : List Char) : Except Failure (List Char × List Char) :=
  readConstruct .cdata [']', ']', '>'] cs

/-- Splits at the end of a processing instruction, whose opening mark is part of the input. -/
def readInstruction (cs : List Char) : Except Failure (List Char × List Char) :=
  readConstruct .instruction ['?', '>'] cs

/-! ## Attributes -/

/-- A value that is one complete expression up to the closing quote. -/
def quotedExpression? (quote : Char) (cs : List Char) : Option (List Char × List Char) :=
  match scanExpression? cs with
  | some (e, c :: rest) => if c = quote then some (e, rest) else none
  | _ => none

/-- Splits at the closing quote of a value whose opening quote has been read. -/
def splitAtQuote? (quote : Char) (cs : List Char) : Option (List Char × List Char) :=
  match quotedExpression? quote cs with
  | some parts => some parts
  | none =>
    match cs.dropWhile (· != quote) with
    | _ :: rest => some (cs.takeWhile (· != quote), rest)
    | [] => none

/-- Reads an attribute value with its quotes. -/
def readValue (cs : List Char) : Except Failure (String × List Char) :=
  match cs with
  | [] => .error ⟨.unquotedValue, cs⟩
  | q :: rest =>
    if q = '"' || q = '\'' then
      match splitAtQuote? q rest with
      | some (raw, rest) => .ok (.ofList (unescapeChars raw), rest)
      | none => .error ⟨.unterminatedValue, cs⟩
    else .error ⟨.unquotedValue, cs⟩

/-- Reads an attribute: a name, an equals sign and a value, with blanks around the sign. -/
def readAttribute (cs : List Char) : Except Failure ((String × String) × List Char) :=
  match readName cs with
  | .error f => .error f
  | .ok (name, r) =>
    match skipBlanks r with
    | '=' :: r =>
      match readValue (skipBlanks r) with
      | .error f => .error f
      | .ok (value, r) => .ok ((name, value), r)
    | _ => .error ⟨.attributeWithoutValue name, cs⟩

theorem length_of_splitAtQuote? {q : Char} {cs v r : List Char}
    (h : splitAtQuote? q cs = some (v, r)) : r.length < cs.length := by
  unfold splitAtQuote? at h
  split at h
  · rename_i parts hp
    simp only [Option.some.injEq] at h
    subst h
    unfold quotedExpression? at hp
    split at hp
    · rename_i e c rest hs
      split at hp
      · simp only [Option.some.injEq, Prod.mk.injEq] at hp
        obtain ⟨-, rfl⟩ := hp
        have := length_of_scanExpression? hs
        simp only [List.length_cons] at this
        omega
      · simp at hp
    · simp at hp
  · split at h
    · rename_i c rest hd
      simp only [Option.some.injEq, Prod.mk.injEq] at h
      obtain ⟨-, rfl⟩ := h
      have hl := (List.dropWhile_sublist (l := cs) (· != q)).length_le
      rw [hd, List.length_cons] at hl
      omega
    · simp at h

theorem length_of_readValue {cs r : List Char} {v : String} (h : readValue cs = .ok (v, r)) :
    r.length < cs.length := by
  unfold readValue at h
  split at h
  · simp at h
  · split at h
    · split at h
      · rename_i hs
        simp only [Except.ok.injEq, Prod.mk.injEq] at h
        obtain ⟨-, rfl⟩ := h
        have := length_of_splitAtQuote? hs
        simp only [List.length_cons]
        omega
      · simp at h
    · simp at h

/-- Reading an attribute uses up input. -/
theorem length_of_readAttribute {cs r : List Char} {a : String × String}
    (h : readAttribute cs = .ok (a, r)) : r.length < cs.length := by
  unfold readAttribute at h
  split at h
  · simp at h
  · rename_i name r₁ hn
    have l₁ := length_of_readName hn
    have l₂ := length_skipBlanks_le r₁
    split at h
    · rename_i r₂ hs
      rw [hs, List.length_cons] at l₂
      have l₃ := length_skipBlanks_le r₂
      split at h
      · simp at h
      · rename_i hv
        simp only [Except.ok.injEq, Prod.mk.injEq] at h
        obtain ⟨-, rfl⟩ := h
        have := length_of_readValue hv
        omega
    · simp at h

/-! ## Tags -/

/-- Reads the attributes of the element `name` up to the end of its start tag, and tells whether the
tag is closed. `start` is the input from the start tag on, `before` are the attributes already
read. -/
def readAttributes (start : List Char) (name : String) (before : Attributes) (cs : List Char) :
    Except Failure ((Attributes × Bool) × List Char) :=
  match skipBlanks cs with
  | '/' :: '>' :: rest => .ok ((before, true), rest)
  | '>' :: rest => .ok ((before, false), rest)
  | [] => .error ⟨.unterminatedStartTag name, start⟩
  | _ =>
    match _h : readAttribute (skipBlanks cs) with
    | .error f => .error f
    | .ok (a, rest) =>
      if before.any (·.1 == a.1) then .error ⟨.duplicateAttribute a.1, skipBlanks cs⟩
      else readAttributes start name (before ++ [a]) rest
termination_by cs.length
decreasing_by
  have := length_of_readAttribute _h
  have := length_skipBlanks_le cs
  omega

/-- Reads a start tag whose opening bracket has been read; `start` is the input with it. -/
def readStartTag (start cs : List Char) : Except Failure (StartTag × List Char) :=
  match readName cs with
  | .error f => .error f
  | .ok (name, r) =>
    match readAttributes start name [] r with
    | .error f => .error f
    | .ok ((attributes, closed), r) => .ok (⟨name, attributes, closed⟩, r)

/-- Reads an end tag whose opening mark has been read; `start` is the input with it. -/
def readEndTag (start cs : List Char) : Except Failure (String × List Char) :=
  match readName cs with
  | .error f => .error f
  | .ok (name, r) =>
    match skipBlanks r with
    | '>' :: r => .ok (name, r)
    | _ => .error ⟨.malformedEndTag, start⟩

theorem length_of_readAttributes {start cs r : List Char} {name : String} {before : Attributes}
    {a : Attributes × Bool} (h : readAttributes start name before cs = .ok (a, r)) :
    r.length < cs.length := by
  fun_induction readAttributes start name before cs generalizing a with
  | case1 before cs rest hs =>
    simp only [Except.ok.injEq, Prod.mk.injEq] at h
    obtain ⟨-, rfl⟩ := h
    have := length_skipBlanks_le cs
    simp only [hs, List.length_cons] at this
    omega
  | case2 before cs rest hs =>
    simp only [Except.ok.injEq, Prod.mk.injEq] at h
    obtain ⟨-, rfl⟩ := h
    have := length_skipBlanks_le cs
    simp only [hs, List.length_cons] at this
    omega
  | case3 => simp at h
  | case4 => simp at h
  | case5 => simp at h
  | case6 before cs a' rest ha _ _ _ _ ih =>
    have := ih h
    have := length_of_readAttribute ha
    have := length_skipBlanks_le cs
    omega

theorem length_of_readStartTag {start cs r : List Char} {t : StartTag}
    (h : readStartTag start cs = .ok (t, r)) : r.length < cs.length := by
  unfold readStartTag at h
  split at h
  · simp at h
  · rename_i hn
    have := length_of_readName hn
    split at h
    · simp at h
    · rename_i ha
      have := length_of_readAttributes ha
      simp only [Except.ok.injEq, Prod.mk.injEq] at h
      obtain ⟨-, rfl⟩ := h
      omega

theorem length_of_readEndTag {start cs r : List Char} {t : String}
    (h : readEndTag start cs = .ok (t, r)) : r.length < cs.length := by
  unfold readEndTag at h
  split at h
  · simp at h
  · rename_i r₁ hn
    have := length_of_readName hn
    have l := length_skipBlanks_le r₁
    split at h
    · rename_i r₂ hs
      rw [hs, List.length_cons] at l
      simp only [Except.ok.injEq, Prod.mk.injEq] at h
      obtain ⟨-, rfl⟩ := h
      omega
    · simp at h

/-! ## Text -/

/-- Splits a run of text off: it ends at the next opening angle bracket outside of expressions. -/
def readText (cs : List Char) : List Char × List Char :=
  match cs with
  | [] => ([], [])
  | c :: rest =>
    if c = '<' then ([], c :: rest)
    else
      match _h : scanExpression? (c :: rest) with
      | some (e, after) =>
        let (t, r) := readText after
        (e ++ t, r)
      | none =>
        let (t, r) := readText rest
        (c :: t, r)
termination_by cs.length
decreasing_by
  · exact length_of_scanExpression? _h
  · simp

theorem length_readText_le (cs : List Char) : (readText cs).2.length ≤ cs.length := by
  fun_induction readText cs with
  | case1 => simp
  | case2 => simp
  | case3 c rest _ e after hs t r hr ih =>
    have := length_of_scanExpression? hs
    simp only [hr] at ih
    simp only
    omega
  | case4 c rest _ _ t r hr ih =>
    simp only [hr] at ih
    simp only [List.length_cons]
    omega

theorem length_readText_lt {c : Char} {cs : List Char} (h : c ≠ '<') :
    (readText (c :: cs)).2.length < (c :: cs).length := by
  rw [readText]
  simp only [h, if_false]
  split
  · rename_i e after hs
    have := length_of_scanExpression? hs
    have := length_readText_le after
    simp only
    omega
  · have := length_readText_le cs
    simp only [List.length_cons]
    omega

/-! ## Tokens -/

/-- Reads the token that the input starts with; the input is not empty. -/
def readToken (cs : List Char) : Except Failure (Token × List Char) :=
  match cs with
  | '<' :: '/' :: rest =>
    match readEndTag cs rest with
    | .error f => .error f
    | .ok (name, r) => .ok (.endTag name, r)
  | '<' :: '!' :: '-' :: '-' :: rest =>
    match readComment rest with
    | .error f => .error f
    | .ok (s, r) => .ok (.comment (.ofList s), r)
  | '<' :: '!' :: '[' :: 'C' :: 'D' :: 'A' :: 'T' :: 'A' :: '[' :: rest =>
    match readCdata rest with
    | .error f => .error f
    | .ok (s, r) => .ok (.cdata (.ofList s), r)
  | '<' :: '?' :: rest =>
    match readInstruction ('<' :: '?' :: rest) with
    | .error f => .error f
    | .ok (_, r) => .ok (.instruction, r)
  | '<' :: rest =>
    match readStartTag cs rest with
    | .error f => .error f
    | .ok (tag, r) => .ok (.startTag tag, r)
  | _ =>
    let (t, r) := readText cs
    .ok (.text (.ofList (unescapeChars t)), r)

/-- Reading a token uses up input. -/
theorem length_of_readToken {c : Char} {cs r : List Char} {t : Token}
    (h : readToken (c :: cs) = .ok (t, r)) : r.length < (c :: cs).length := by
  unfold readToken at h
  split at h
  · split at h
    · simp at h
    · rename_i hc
      have := length_of_readEndTag hc
      simp_all only [List.length_cons, Except.ok.injEq, Prod.mk.injEq]
      omega
  · split at h
    · simp at h
    · rename_i hc
      have := length_of_readConstruct hc
      simp_all only [List.length_cons, Except.ok.injEq, Prod.mk.injEq]
      omega
  · split at h
    · simp at h
    · rename_i hc
      have := length_of_readConstruct hc
      simp_all only [List.length_cons, Except.ok.injEq, Prod.mk.injEq]
      omega
  · split at h
    · simp at h
    · rename_i hc
      have := length_of_readConstruct hc
      simp_all only [List.length_cons, List.length_nil, Except.ok.injEq, Prod.mk.injEq]
      omega
  · split at h
    · simp at h
    · rename_i hc
      have := length_of_readStartTag hc
      simp_all only [List.length_cons, Except.ok.injEq, Prod.mk.injEq]
      omega
  · rename_i hne
    have hc : c ≠ '<' := fun hc => hne cs (by rw [hc])
    have : (readText (c :: cs)).2.length < (c :: cs).length := length_readText_lt hc
    simp only [Except.ok.injEq, Prod.mk.injEq] at h
    obtain ⟨-, rfl⟩ := h
    exact this

end GatewayPolicy.Xml
