import GatewayPolicy.Text.Blank
import GatewayPolicy.Text.Integer
/-!
# Character references

Reserved characters are written as references: all five of them in attribute values, and the three
that could be taken for markup in element text.

Reading goes through a text once, from left to right. A reference is an ampersand, a name or code
and a semicolon close behind; it is replaced by its character and reading goes on behind it, so the
result is never read again. An ampersand that starts no reference stands for itself.
-/

namespace GatewayPolicy.Xml

open Text

/-- How a character is written inside an attribute value. -/
def attributeForm (c : Char) : List Char :=
  match c with
  | '&' => ['&', 'a', 'm', 'p', ';']
  | '<' => ['&', 'l', 't', ';']
  | '>' => ['&', 'g', 't', ';']
  | '"' => ['&', 'q', 'u', 'o', 't', ';']
  | '\'' => ['&', 'a', 'p', 'o', 's', ';']
  | c => [c]

/-- How a character is written in element text; quotes are left alone. -/
def textForm (c : Char) : List Char :=
  match c with
  | '&' => ['&', 'a', 'm', 'p', ';']
  | '<' => ['&', 'l', 't', ';']
  | '>' => ['&', 'g', 't', ';']
  | c => [c]

/-- Writes the five reserved characters as references. -/
def escapeChars (cs : List Char) : List Char := cs.flatMap attributeForm

/-- Writes the three characters that could be taken for markup as references. -/
def escapeTextChars (cs : List Char) : List Char := cs.flatMap textForm

/-- Writes the five reserved characters as references. -/
def escape (s : String) : String := .ofList (escapeChars s.toList)

/-- Writes the three characters that could be taken for markup as references. -/
def escapeText (s : String) : String := .ofList (escapeTextChars s.toList)

/-- One more than the largest number that is read as a code. -/
def codeLimit : Nat := 4294967296

/-- The character with the code. -/
def charOfCode? (n : Nat) : Option Char := if n.isValidChar then some (Char.ofNat n) else none

/-- The character that the text between the ampersand and the semicolon stands for. -/
def decode? (name : List Char) : Option Char :=
  match name with
  | ['a', 'm', 'p'] => some '&'
  | ['l', 't'] => some '<'
  | ['g', 't'] => some '>'
  | ['q', 'u', 'o', 't'] => some '"'
  | ['a', 'p', 'o', 's'] => some '\''
  | '#' :: 'x' :: code => (readUnsigned? 16 codeLimit code).bind charOfCode?
  | '#' :: 'X' :: code => (readUnsigned? 16 codeLimit code).bind charOfCode?
  | '#' :: code => (readUnsigned? 10 codeLimit code).bind charOfCode?
  | _ => none

/-- How many bytes may stand between the ampersand and the semicolon. -/
def maxReference : Nat := 11

/-- Reads a reference whose ampersand has just been read. -/
def readReference? (cs : List Char) : Option (Char × List Char) :=
  match cs.dropWhile (· != ';') with
  | ';' :: rest =>
    let name := cs.takeWhile (· != ';')
    if utf8Length name ≤ maxReference then (decode? name).map (·, rest) else none
  | _ => none

/-- Reading a reference uses up its semicolon at least. -/
theorem length_of_readReference? {cs rest : List Char} {c : Char}
    (h : readReference? cs = some (c, rest)) : rest.length < cs.length := by
  unfold readReference? at h
  split at h
  · rename_i r hr
    have hl := (List.dropWhile_sublist (l := cs) (· != ';')).length_le
    rw [hr, List.length_cons] at hl
    dsimp only at h
    split at h
    · simp only [Option.map_eq_some_iff, Prod.mk.injEq] at h
      obtain ⟨_, -, -, rfl⟩ := h
      omega
    · simp at h
  · simp at h

/-- Replaces every reference by its character. -/
def unescapeChars : List Char → List Char
  | [] => []
  | c :: cs =>
    if c = '&' then
      match _h : readReference? cs with
      | some (d, rest) => d :: unescapeChars rest
      | none => c :: unescapeChars cs
    else c :: unescapeChars cs
termination_by cs => cs.length
decreasing_by
  · have := length_of_readReference? _h
    simp only [List.length_cons]
    omega
  all_goals simp

/-- Replaces every reference by its character. -/
def unescape (s : String) : String := .ofList (unescapeChars s.toList)

end GatewayPolicy.Xml
