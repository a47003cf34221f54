import GatewayPolicy.Text.Blank
/-!
# Named values

A named value is a setting or secret that the gateway keeps. A document refers to it by a token: the
name in double braces, with or without a dollar sign in front. A text is a token only as a whole,
blanks around it and around the name aside, and names contain no braces.
-/

namespace GatewayPolicy

/-- How references to named values are written. -/
inductive NamedValueStyle where
  /-- With a dollar sign in front of the braces. -/
  | dollar
  /-- With braces only, the form that the gateway itself uses. -/
  | plain
  deriving DecidableEq, Repr, Inhabited

namespace NamedValueStyle

/-- The styles. -/
def all : List NamedValueStyle := [dollar, plain]

/-- The name of a style. -/
def name : NamedValueStyle → String
  | dollar => "dollar"
  | plain => "plain"

/-- The style with the name. -/
def ofName? (s : String) : Option NamedValueStyle := all.find? (·.name == s)

/-- What stands in front of a name. -/
def opening : NamedValueStyle → List Char
  | dollar => ['$', '\x7b', '\x7b']
  | plain => ['\x7b', '\x7b']

end NamedValueStyle

namespace NamedValue

open Text

/-- What stands behind a name. -/
def closing : List Char := ['\x7d', '\x7d']

/-- The token for a name. -/
def tokenChars (style : NamedValueStyle) (name : List Char) : List Char :=
  style.opening ++ name ++ closing

/-- The token for a name. -/
def token (style : NamedValueStyle) (name : String) : String :=
  .ofList (tokenChars style name.toList)

/-- A brace, which no name contains. -/
def isBrace (c : Char) : Bool := c == '\x7b' || c == '\x7d'

/-- The name in a token whose opening braces have been read. -/
def readName? (cs : List Char) : Option (List Char) :=
  let name := trimChars (cs.takeWhile fun c => !isBrace c)
  if cs.dropWhile (fun c => !isBrace c) = closing && name ≠ [] then some name else none

/-- The name in a text that is a token as a whole. -/
def nameChars? (cs : List Char) : Option (List Char) :=
  match trimChars cs with
  | '$' :: '\x7b' :: '\x7b' :: rest => readName? rest
  | '\x7b' :: '\x7b' :: rest => readName? rest
  | _ => none

/-- The name in a text that is a token as a whole. -/
def name? (s : String) : Option String := (nameChars? s.toList).map .ofList

/-- The text is a token as a whole. -/
def isToken (s : String) : Bool := (name? s).isSome

end NamedValue

end GatewayPolicy
