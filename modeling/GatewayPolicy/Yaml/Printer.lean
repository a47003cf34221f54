import GatewayPolicy.Json.Printer
import GatewayPolicy.Yaml.Scalar
import GatewayPolicy.Yaml.Text
/-!
# YAML text, written

Values are written in blocks: one entry or item per line, what is inside of an entry indented by two
spaces, the items of a sequence under their key. A text is written plain if it can be read back as
that text; otherwise it gets the quotes it needs, and one of several lines is written literally.
-/

namespace GatewayPolicy

namespace Yaml

/-! ## Scalars -/

/-- How a text is written. -/
inductive Style where
  /-- As it is. -/
  | plain
  /-- In single quotes. -/
  | single
  /-- In double quotes, with escapes. -/
  | double
  /-- As lines of their own. -/
  | literal
  deriving DecidableEq, Repr

/-- A byte order mark or no character at all. -/
def isMarkOrNoncharacter (c : Char) : Bool := ['\ufeff', '\ufffe', '\uffff'].contains c

/-- A character that is written as it is. -/
def isPrintable (c : Char) : Bool :=
  c == '\n' || (' ' ≤ c && c ≤ '~') || ('\u00a0' ≤ c && !isMarkOrNoncharacter c)

/-- Two neighbours of which one is a space and the next one a line end. -/
def hasSpaceBreak : List Char → Bool
  | c :: d :: cs => (c == ' ' && isBreak d) || hasSpaceBreak (d :: cs)
  | _ => false

/-- Two neighbours of which one is a line end and the next one a space. -/
def hasBreakSpace : List Char → Bool
  | c :: d :: cs => (isBreak c && d == ' ') || hasBreakSpace (d :: cs)
  | _ => false

/-- A colon or a number sign after the character `before` that would end a plain scalar. -/
def hasInnerMark (before : Char) : List Char → Bool
  | [] => false
  | c :: cs =>
    (c == ':' && atSpace cs) || (c == '#' && isSpaceOrBreak before) || hasInnerMark c cs

/-- The text begins like something else than a plain scalar. -/
def hasFirstMark (cs : List Char) : Bool :=
  ['-', '-', '-'].isPrefixOf cs || ['.', '.', '.'].isPrefixOf cs ||
    match cs with
    | [] => false
    | c :: rest =>
      isReserved c || ((c == '?' || c == ':' || c == '-') && atSpace rest)

/-- The text can be in single quotes. -/
def allowsSingle (cs : List Char) : Bool :=
  cs.all isPrintable && !hasSpaceBreak cs && !hasBreakSpace cs

/-- The text can be plain, apart from what it may be taken for. -/
def allowsPlain (cs : List Char) : Bool :=
  allowsSingle cs && !cs.any isBreak && cs.head? != some ' ' && cs.getLast? != some ' ' &&
    !hasFirstMark cs && !hasInnerMark (cs.headD ' ') cs.tail

/-- The text can be literal. -/
def allowsLiteral (cs : List Char) : Bool :=
  cs.all isPrintable && !hasSpaceBreak cs && cs.getLast? != some ' '

/-- A plain scalar with the text would be taken for something else. -/
def isAmbiguous (s : String) : Bool :=
  Plain.isZeroPadded s.toList ||
    match Plain.value? s with
    | some (.text _) => false
    | _ => true

/-- How a text is written. -/
def styleOf (s : String) : Style :=
  let cs := s.toList
  if cs.contains '\n' then
    if allowsLiteral cs then .literal else .double
  else if !isAmbiguous s && allowsPlain cs then .plain
  else if allowsSingle cs then .single
  else .double

/-- Digits of base sixteen, as many as the width says. -/
def hexDigits : (width n : Nat) → List Char
  | 0, _ => []
  | width + 1, n => hexDigits width (n / 16) ++ [(Nat.digitChar (n % 16)).toUpper]

/-- A character in double quotes. -/
def escapeChar (c : Char) : List Char :=
  if isPrintable c && !isBreak c && c != '"' && c != '\\' then [c]
  else
    match [('\x00', '0'), ('\x07', 'a'), ('\x08', 'b'), ('\t', 't'), ('\n', 'n'), ('\x0b', 'v'),
        ('\x0c', 'f'), ('\r', 'r'), ('\x1b', 'e'), ('"', '"'), ('\\', '\\'), ('\u0085', 'N'),
        ('\u2028', 'L'), ('\u2029', 'P')].lookup c with
    | some letter => ['\\', letter]
    | none =>
      if c.toNat < 0x100 then '\\' :: 'x' :: hexDigits 2 c.toNat
      else if c.toNat < 0x10000 then '\\' :: 'u' :: hexDigits 4 c.toNat
      else '\\' :: 'U' :: hexDigits 8 c.toNat

/-- A text in single quotes. -/
def singleQuoted (s : String) : String :=
  "'" ++ String.ofList (s.toList.flatMap fun c => if c = '\'' then [c, c] else [c]) ++ "'"

/-- A text in double quotes. -/
def doubleQuoted (s : String) : String :=
  "\"" ++ String.ofList (s.toList.flatMap escapeChar) ++ "\""

/-- The head of a literal text: its indentation if the text does not show it, and a mark for the
line ends at its end. -/
def literalHead (cs : List Char) : String :=
  let indent := if cs.head?.any fun c => c == ' ' || isBreak c then "2" else ""
  let chomping := match cs.reverse.takeWhile isBreak with
    | [] => "-"
    | [_] => if cs.length = 1 then "+" else ""
    | _ => "+"
  "|" ++ indent ++ chomping

/-- The lines of a text. A line feed is left out; any other line end stays where it is. -/
def cutLines : List Char → List (List Char)
  | [] => []
  | c :: cs =>
    if c = '\n' then [] :: cutLines cs
    else if isBreak c then [c] :: cutLines cs
    else match cutLines cs with
      | [] => [[c]]
      | line :: lines => (c :: line) :: lines

/-- The lines of a text. -/
def linesOf (s : String) : List String := (cutLines s.toList).map .ofList

/-- The lines of a text, as it is written. -/
def textLines (s : String) : List String :=
  match styleOf s with
  | .plain => [s]
  | .single => linesOf (singleQuoted s)
  | .double => [doubleQuoted s]
  | .literal => literalHead s.toList :: linesOf s

/-- Numbers have no plus sign in front of their exponent. -/
def numberLayout : DecimalLayout := { Json.numberLayout with plus := "" }

/-- The text of a number. -/
def numberText : Json.Number → String
  | .int n => toString n
  | .float x => (if x.negative then "-" else "") ++ numberLayout.format x.shortest

/-! ## Blocks -/

/-- Indents a line by two spaces; an empty line stays empty. -/
def indentLine (line : String) : String := if line.toList.all isBreak then line else "  " ++ line

/-- Lines behind a mark, with the later ones indented. -/
def hang (mark : String) : List String → List String
  | [] => [mark]
  | line :: lines => (mark ++ line) :: lines.map indentLine

/-- A key that stands in front of its colon on one line. -/
def isSimpleKey (key : String) : Bool := !key.toList.any isBreak && key.utf8ByteSize ≤ 128

/-- Where the lines of a value stand. -/
inductive Placement where
  /-- On the line of the key. -/
  | behind
  /-- Below the key. -/
  | below
  /-- Below the key and indented. -/
  | indented

/-- Where the lines of a value stand: those of a mapping are indented, those of a sequence not. -/
def placement : Json → Placement
  | .object (_ :: _) => .indented
  | .array (_ :: _) => .below
  | _ => .behind

/-- The lines of an entry, given those of its value. -/
def entryLines (key : String) (place : Placement) (value : List String) : List String :=
  if !isSimpleKey key then hang "? " (textLines key) ++ hang ": " value
  else
    let head := String.join (textLines key) ++ ":"
    match place with
    | .behind => hang (head ++ " ") value
    | .below => head :: value
    | .indented => head :: value.map indentLine

mutual

/-- The lines of a value. -/
def valueLines : Json → List String
  | .null => ["null"]
  | .bool b => [Json.boolWord b]
  | .number n => [numberText n]
  | .text s => textLines s
  | .array [] => ["[]"]
  | .array (v :: vs) => itemsLines (v :: vs)
  | .object [] => ["\x7b\x7d"]
  | .object (f :: fs) => fieldsLines (f :: fs)

/-- The lines of the items of a sequence. -/
def itemsLines : List Json → List String
  | [] => []
  | v :: vs => hang "- " (valueLines v) ++ itemsLines vs

/-- The lines of the entries of a mapping. -/
def fieldsLines : List (String × Json) → List String
  | [] => []
  | (k, v) :: rest => entryLines k (placement v) (valueLines v) ++ fieldsLines rest

end

/-- A line with a line feed, unless it has a line end of its own. -/
def endLine (line : String) : String :=
  if line.toList.getLast?.any isBreak then line else line ++ "\n"

/-- A value as YAML text. -/
def print (v : Json) : String := String.join ((valueLines v).map endLine)

end Yaml

end GatewayPolicy
