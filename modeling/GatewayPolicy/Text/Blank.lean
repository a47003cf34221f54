/-!
# Blank characters and trimming

A character is blank when it has the Unicode property `White_Space`. Policy documents are edited by
hand, so every reader of this library skips blanks and most texts are compared after trimming.

The operations are stated on lists of characters, where they recurse; the versions on `String` wrap
them and are the ones the rest of the library calls.
-/

namespace GatewayPolicy.Text

/-- The Unicode property `White_Space`. -/
def isBlank (c : Char) : Bool :=
  c == ' ' || ('\t' ≤ c && c ≤ '\r') || c == '\u0085' || c == '\u00a0' || c == '\u1680' ||
    ('\u2000' ≤ c && c ≤ '\u200a') || c == '\u2028' || c == '\u2029' || c == '\u202f' ||
    c == '\u205f' || c == '\u3000'

/-- Drops the blanks in front. -/
def skipBlanks (cs : List Char) : List Char := cs.dropWhile isBlank

/-- Drops the blanks at the end. -/
def dropEndBlanks (cs : List Char) : List Char := (cs.reverse.dropWhile isBlank).reverse

/-- Drops the blanks at both ends. -/
def trimChars (cs : List Char) : List Char := dropEndBlanks (skipBlanks cs)

/-- Drops the blanks in front of a text. -/
def trimStart (s : String) : String := .ofList (skipBlanks s.toList)

/-- Drops the blanks at the end of a text. -/
def trimEnd (s : String) : String := .ofList (dropEndBlanks s.toList)

/-- Drops the blanks at both ends of a text. -/
def trim (s : String) : String := .ofList (trimChars s.toList)

/-- No character of the text is visible: it is empty or all blanks. -/
def isBlankText (s : String) : Bool := s.toList.all isBlank

/-- How many bytes a list of characters takes in UTF-8. -/
def utf8Length : List Char → Nat
  | [] => 0
  | c :: cs => c.utf8Size + utf8Length cs

@[simp] theorem toList_trim (s : String) : (trim s).toList = trimChars s.toList := by
  simp [trim]

@[simp] theorem toList_trimStart (s : String) : (trimStart s).toList = skipBlanks s.toList := by
  simp [trimStart]

@[simp] theorem toList_trimEnd (s : String) : (trimEnd s).toList = dropEndBlanks s.toList := by
  simp [trimEnd]

/-- Skipping blanks never lengthens the input. -/
theorem length_skipBlanks_le (cs : List Char) : (skipBlanks cs).length ≤ cs.length :=
  (List.dropWhile_sublist _).length_le

end GatewayPolicy.Text
