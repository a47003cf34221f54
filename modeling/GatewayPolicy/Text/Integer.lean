/-!
# Integers in text

Machine integers are read the strict way: an optional sign, then at least one digit and nothing
else, and the value has to fit. Leading zeros are allowed. Unsigned readers accept a plus sign only.
-/

namespace GatewayPolicy.Text

/-- The value of a digit in bases up to sixteen. -/
def digitValue (c : Char) : Nat :=
  if c.isDigit then c.toNat - '0'.toNat
  else if 'a' ≤ c && c ≤ 'f' then c.toNat - 'a'.toNat + 10
  else if 'A' ≤ c && c ≤ 'F' then c.toNat - 'A'.toNat + 10
  else 16

/-- A digit of the base. -/
def isDigitOf (base : Nat) (c : Char) : Bool := digitValue c < base

/-- The number that a list of digits stands for. -/
def digitsValue (base : Nat) (ds : List Char) : Nat :=
  ds.foldl (fun n d => n * base + digitValue d) 0

/-- At least one digit, and nothing but digits. -/
def isNumeral (base : Nat) (cs : List Char) : Bool := !cs.isEmpty && cs.all (isDigitOf base)

/-- Reads digits that make a natural number. -/
def readDigits? (base : Nat) (cs : List Char) : Option Nat :=
  if isNumeral base cs then some (digitsValue base cs) else none

/-- Reads an unsigned integer below `bound`, with an optional plus sign. -/
def readUnsigned? (base bound : Nat) (cs : List Char) : Option Nat :=
  let digits := match cs with
    | '+' :: rest => rest
    | _ => cs
  (readDigits? base digits).filter (· < bound)

/-- Reads a signed integer, whatever its size. -/
def readSigned? (base : Nat) (cs : List Char) : Option Int :=
  match cs with
  | '+' :: rest => (readDigits? base rest).map Int.ofNat
  | '-' :: rest => (readDigits? base rest).map fun n => -Int.ofNat n
  | _ => (readDigits? base cs).map Int.ofNat

/-- The greatest integer of 64 bits with sign. -/
def maxSigned64 : Nat := 9223372036854775807

/-- The greatest integer of 64 bits without sign. -/
def maxUnsigned64 : Nat := 18446744073709551615

/-- An integer of 64 bits with sign; there is one more below zero than above. -/
def fitsSigned64 (n : Int) : Bool := -(maxSigned64 + 1) ≤ n && n ≤ maxSigned64

/-- An integer of 64 bits without sign. -/
def fitsUnsigned64 (n : Int) : Bool := 0 ≤ n && n ≤ maxUnsigned64

/-- Reads a decimal integer of 64 bits with sign. -/
def readSigned64? (s : String) : Option Int := (readSigned? 10 s.toList).filter fitsSigned64

end GatewayPolicy.Text
