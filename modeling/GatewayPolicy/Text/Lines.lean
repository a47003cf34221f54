import GatewayPolicy.Text.Blank
/-!
# Lines

Texts are cut into lines at line feeds; a carriage return right before a line feed belongs to the
line end. A last line that has no line feed counts only if it is not empty. Lines are put together
again with single line feeds.

`reindent` is how raw fragments are brought into a document: outer blank lines go, trailing blanks
go, and the indentation that all remaining lines share goes, so relative indentation stays.
-/

namespace GatewayPolicy.Text

/-- The lines of a text, without their line ends. -/
def splitLines : List Char → List (List Char)
  | [] => []
  | '\r' :: '\n' :: cs => [] :: splitLines cs
  | '\n' :: cs => [] :: splitLines cs
  | c :: cs =>
    match splitLines cs with
    | [] => [[c]]
    | line :: lines => (c :: line) :: lines

/-- The lines of a text, without their line ends. -/
def lines (s : String) : List String := (splitLines s.toList).map .ofList

/-- Lines joined by line feeds, none after the last. -/
def unlines (ls : List String) : String := String.intercalate "\n" ls

/-- A blank that counts as indentation. -/
def isIndent (c : Char) : Bool := c == ' ' || c == '\t'

/-- Drops the empty lines at both ends. -/
def trimEmptyLines (ls : List (List Char)) : List (List Char) :=
  ((ls.dropWhile List.isEmpty).reverse.dropWhile List.isEmpty).reverse

/-- The indentation that all non-empty lines share; zero if every line is empty. -/
def commonIndent (ls : List (List Char)) : Nat :=
  (((ls.filter (!·.isEmpty)).map fun l => (l.takeWhile isIndent).length).min?).getD 0

/-- Lines of a raw fragment with outer blank lines, trailing blanks and the common indentation
removed. -/
def reindentChars (cs : List Char) : List (List Char) :=
  let body := trimEmptyLines ((splitLines cs).map dropEndBlanks)
  body.map (·.drop (commonIndent body))

/-- Lines of a raw fragment with outer blank lines, trailing blanks and the common indentation
removed. -/
def reindent (s : String) : List String := (reindentChars s.toList).map .ofList

/-- As many spaces as `width * depth`. -/
def indentation (width depth : Nat) : String := .ofList (.replicate (width * depth) ' ')

end GatewayPolicy.Text
