import GatewayPolicy.Error
import GatewayPolicy.Xml.Token
/-!
# Documents, read

A document is one element with blanks, comments, processing instructions and document type
declarations around it. The reader takes the content of the root token by token and keeps the
elements that are still open; an end tag has to name the innermost of them.

The reader is tolerant where hand-written policies need it: text outside of expressions may hold
stray closing brackets and ampersands, and processing instructions are skipped.
-/

namespace GatewayPolicy.Xml

open Text

/-! ## Around the root element -/

/-- Skips a document type declaration, up to the closing angle bracket that is in no square
brackets. -/
def skipDoctype? (openBrackets : Nat) : List Char → Option (List Char)
  | [] => none
  | c :: cs =>
    if c = '[' then skipDoctype? (openBrackets + 1) cs
    else if c = ']' then skipDoctype? (openBrackets - 1) cs
    else if c = '>' && openBrackets = 0 then some cs
    else skipDoctype? openBrackets cs

/-- The declaration mark. -/
def doctypeMark : List Char := ['<', '!', 'D', 'O', 'C', 'T', 'Y', 'P', 'E']

/-- Skips one item that may stand around the root element; none if the input starts with no such
item. -/
def skipItem? (cs : List Char) : Option (Except Failure (List Char)) :=
  match cs with
  | '<' :: '?' :: rest => some ((readInstruction ('<' :: '?' :: rest)).map Prod.snd)
  | '<' :: '!' :: '-' :: '-' :: rest => some ((readComment rest).map Prod.snd)
  | _ =>
    if doctypeMark.isPrefixOf cs then
      some (match skipDoctype? 0 cs with
        | some r => .ok r
        | none => .error ⟨.unterminatedDoctype, cs⟩)
    else none

theorem length_of_skipDoctype? {n : Nat} {cs r : List Char} (h : skipDoctype? n cs = some r) :
    r.length < cs.length := by
  induction cs generalizing n with
  | nil => simp [skipDoctype?] at h
  | cons c cs ih =>
    unfold skipDoctype? at h
    simp only [List.length_cons]
    split at h
    · have := ih h
      omega
    · split at h
      · have := ih h
        omega
      · split at h
        · simp only [Option.some.injEq] at h
          subst h
          omega
        · have := ih h
          omega

theorem length_of_skipItem? {cs r : List Char} (h : skipItem? cs = some (.ok r)) :
    r.length < cs.length := by
  have part {e : Except Failure (List Char × List Char)} (he : e.map Prod.snd = .ok r) :
      ∃ b, e = .ok (b, r) := by
    cases e with
    | error f => simp [Except.map] at he
    | ok p => exact ⟨p.1, by simpa [Except.map, Prod.ext_iff] using he⟩
  unfold skipItem? at h
  split at h
  · obtain ⟨b, hb⟩ := part (by simpa using h)
    have := length_of_readConstruct hb
    simp only [List.length_cons, List.length_nil] at *
    omega
  · obtain ⟨b, hb⟩ := part (by simpa using h)
    have := length_of_readConstruct hb
    simp only [List.length_cons, List.length_nil] at *
    omega
  · split at h
    · split at h
      · rename_i hd
        simp only [Option.some.injEq, Except.ok.injEq] at h
        subst h
        exact length_of_skipDoctype? hd
      · simp at h
    · simp at h

/-- Skips everything that may stand around the root element. -/
def skipMisc (cs : List Char) : Except Failure (List Char) :=
  match _h : skipItem? (skipBlanks cs) with
  | none => .ok (skipBlanks cs)
  | some (.error f) => .error f
  | some (.ok rest) => skipMisc rest
termination_by cs.length
decreasing_by
  have := length_of_skipItem? _h
  have := length_skipBlanks_le cs
  omega

/-! ## Elements -/

/-- An element whose end tag has not been read. -/
structure OpenElement where
  /-- The name. -/
  name : String
  /-- The attributes. -/
  attributes : Attributes
  /-- The children read so far, the last one first. -/
  children : List Node := []
  /-- The input from the start tag on. -/
  start : List Char

namespace OpenElement

/-- Adds a child at the end. -/
def push (e : OpenElement) (n : Node) : OpenElement := { e with children := n :: e.children }

/-- The element, once it is complete. -/
def close (e : OpenElement) : Element := ⟨e.name, e.attributes, e.children.reverse⟩

end OpenElement

/-- The element of a tag that is closed. -/
def StartTag.element (tag : StartTag) : Element := ⟨tag.name, tag.attributes, []⟩

/-- The element that a tag opens; `start` is the input from the tag on. -/
def StartTag.opened (tag : StartTag) (start : List Char) : OpenElement :=
  ⟨tag.name, tag.attributes, [], start⟩

/-- Reads the content of the element `top` and of the elements around it, innermost first, until the
outermost one is closed. -/
def readContent (top : OpenElement) (around : List OpenElement) (cs : List Char) :
    Except Failure (Element × List Char) :=
  match cs with
  | [] => .error ⟨.unclosedElement top.name, top.start⟩
  | c :: rest =>
    match _h : readToken (c :: rest) with
    | .error f => .error f
    | .ok (.startTag tag, r) =>
      if tag.closed then readContent (top.push tag.element.node) around r
      else readContent (tag.opened (c :: rest)) (top :: around) r
    | .ok (.endTag name, r) =>
      if name = top.name then
        match around with
        | [] => .ok (top.close, r)
        | parent :: around => readContent (parent.push top.close.node) around r
      else .error ⟨.mismatchedEndTag name top.name, c :: rest⟩
    | .ok (.comment s, r) => readContent (top.push (.comment s)) around r
    | .ok (.cdata s, r) => readContent (top.push (.cdata s)) around r
    | .ok (.instruction, r) => readContent top around r
    | .ok (.text s, r) => readContent (top.push (.text s)) around r
termination_by cs.length
decreasing_by all_goals exact length_of_readToken _h

/-- Reads the root element; the input starts with an angle bracket, of which `rest` is what
follows. -/
def readRoot (rest : List Char) : Except Failure (Element × List Char) :=
  match readStartTag ('<' :: rest) rest with
  | .error f => .error f
  | .ok (tag, r) =>
    if tag.closed then .ok (tag.element, r) else readContent (tag.opened ('<' :: rest)) [] r

/-- Drops a byte order mark. -/
def dropMark : List Char → List Char
  | '\ufeff' :: cs => cs
  | cs => cs

/-- Reads a complete document. -/
def readDocument (cs : List Char) : Except Failure Element :=
  match skipMisc (dropMark cs) with
  | .error f => .error f
  | .ok ('<' :: rest) =>
    match readRoot rest with
    | .error f => .error f
    | .ok (root, r) =>
      match skipMisc r with
      | .error f => .error f
      | .ok [] => .ok root
      | .ok r => .error ⟨.contentAfterRoot, r⟩
  | .ok r => .error ⟨.noRoot, r⟩

/-- The root element of a document. -/
def parse (document : String) : Except Error Element :=
  match readDocument document.toList with
  | .ok root => .ok root
  | .error f => .error (.parse f.fault.message (f.position document.toList))

end GatewayPolicy.Xml
