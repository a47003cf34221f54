import GatewayPolicy.Policy.NamedValue
import GatewayPolicy.Policy.Scope
import GatewayPolicy.Text.Lines
/-!
# Settings

What the reader and the writer of policy documents share: the layout, the scope that a document is
given when it is read, since the document itself does not tell, and how values are written and read.
-/

namespace GatewayPolicy

/-- Settings of the compiler. -/
structure Settings where
  /-- Spaces per level of written documents. This is an idealization: the number has no bound, so that
  the indentation of a line never overflows. A settings file can only give numbers of 64 bits. -/
  indentWidth : Nat := 2
  /-- The scope of a model that is read from a document. -/
  defaultScope : Scope := .api
  /-- Numbers and truth values in attributes are read as such and not as texts. -/
  coerceScalars : Bool := true
  /-- How references to named values are written. -/
  namedValueStyle : NamedValueStyle := .dollar
  deriving DecidableEq, Repr

/-- The spaces in front of a line at the depth. -/
def Settings.indent (settings : Settings) (depth : Nat) : String :=
  Text.indentation settings.indentWidth depth

end GatewayPolicy
