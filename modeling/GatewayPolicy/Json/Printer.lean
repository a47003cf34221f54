import GatewayPolicy.Json.Basic
import GatewayPolicy.Numeral.Shortest
/-!
# JSON text, written

Two layouts: `compact` without any blanks, and `pretty` with one item per line, two spaces per level
and a space after the colon of a field. Strings escape the quote, the backslash and the control
characters below the space; everything else is literal. Numbers that are not integers are written
with the fewest digits that read back.
-/

namespace GatewayPolicy

namespace Json

/-- Numbers have a fraction of at least one digit; from `1e16` on and below `1e-5` they have an
exponent with its sign. -/
def numberLayout : DecimalLayout := ⟨-5, 16, "e", "+"⟩

/-- The text of a number. -/
def Number.print : Number → String
  | .int n => toString n
  | .float x => (if x.negative then "-" else "") ++ numberLayout.format x.shortest

/-- A digit of base sixteen. -/
def hexDigit (n : Nat) : Char := Char.ofNat (if n < 10 then '0'.toNat + n else 'a'.toNat + (n - 10))

/-- A character inside a string. -/
def escapeChar (c : Char) : List Char :=
  if c = '"' then ['\\', '"']
  else if c = '\\' then ['\\', '\\']
  else if c = '\x08' then ['\\', 'b']
  else if c = '\t' then ['\\', 't']
  else if c = '\n' then ['\\', 'n']
  else if c = '\x0c' then ['\\', 'f']
  else if c = '\r' then ['\\', 'r']
  else if c < ' ' then ['\\', 'u', '0', '0', hexDigit (c.toNat / 16), hexDigit (c.toNat % 16)]
  else [c]

/-- A string with its quotes. -/
def quote (s : String) : String := "\"" ++ String.ofList (s.toList.flatMap escapeChar) ++ "\""

/-- The spelling of a truth value. -/
def boolWord (b : Bool) : String := if b then "true" else "false"

mutual

/-- JSON text without blanks. -/
def compact : Json → String
  | .null => "null"
  | .bool b => boolWord b
  | .number n => n.print
  | .text s => quote s
  | .array [] => "[]"
  | .array (v :: vs) => "[" ++ compact v ++ compactItems vs ++ "]"
  | .object [] => "\x7b\x7d"
  | .object ((k, v) :: rest) =>
    "\x7b" ++ quote k ++ ":" ++ compact v ++ compactFields rest ++ "\x7d"

/-- The items after the first. -/
def compactItems : List Json → String
  | [] => ""
  | v :: vs => "," ++ compact v ++ compactItems vs

/-- The fields after the first. -/
def compactFields : List (String × Json) → String
  | [] => ""
  | (k, v) :: rest => "," ++ quote k ++ ":" ++ compact v ++ compactFields rest

end

/-- A line end and the indentation of the next line. -/
def newline (level : Nat) : String := "\n" ++ String.ofList (.replicate (2 * level) ' ')

mutual

/-- JSON text with one item per line; `level` is the depth of the value. -/
def prettyAt (level : Nat) : Json → String
  | .null => "null"
  | .bool b => boolWord b
  | .number n => n.print
  | .text s => quote s
  | .array [] => "[]"
  | .array (v :: vs) =>
    "[" ++ newline (level + 1) ++ prettyAt (level + 1) v ++ prettyItems (level + 1) vs ++
      newline level ++ "]"
  | .object [] => "\x7b\x7d"
  | .object ((k, v) :: rest) =>
    "\x7b" ++ newline (level + 1) ++ quote k ++ ": " ++ prettyAt (level + 1) v ++
      prettyFields (level + 1) rest ++ newline level ++ "\x7d"

/-- The items after the first. -/
def prettyItems (level : Nat) : List Json → String
  | [] => ""
  | v :: vs => "," ++ newline level ++ prettyAt level v ++ prettyItems level vs

/-- The fields after the first. -/
def prettyFields (level : Nat) : List (String × Json) → String
  | [] => ""
  | (k, v) :: rest =>
    "," ++ newline level ++ quote k ++ ": " ++ prettyAt level v ++ prettyFields level rest

end

/-- JSON text with one item per line. -/
def pretty (v : Json) : String := prettyAt 0 v

end Json

end GatewayPolicy
