import GatewayPolicy.Json.Basic
import GatewayPolicy.Text.Integer
/-!
# JSON literals and their values

Numbers and strings as they are spelled in a text. The grammar allows spellings without a value: a
number beyond the greatest binary64 number, and a string with an escaped half of a surrogate pair
that stands alone. Whether that matters is up to the reader of the text, since a part that is
ignored needs no value.

Numbers with a fraction or an exponent get their value in steps: the leading digits that fit into 64
bits make a binary64 number, which is then scaled by a power of ten, each step rounding once.
-/

namespace GatewayPolicy

namespace Json

open Text

/-! ## Numbers -/

/-- A number as it is spelled. -/
structure NumberLiteral where
  /-- There is a minus sign. -/
  negative : Bool
  /-- The digits before the point. -/
  whole : List Char
  /-- The digits after the point, if there is one. -/
  fraction : Option (List Char)
  /-- The exponent, if there is one. -/
  power : Option Int
  deriving DecidableEq, Repr

/-- The power of ten as a binary64 number. -/
def powerOfTen (k : Nat) : Binary64 := (Binary64.ofRatio? false (Nat.pow 10 k) 1).getD (.zero false)

/-- The greatest power of ten that is finite. -/
def maxPowerOfTen : Nat := 308

/-- Divides by ten to the `k`, in steps of the greatest finite power of ten. -/
def shrink (x : Binary64) (k : Nat) : Option Binary64 :=
  if k ≤ maxPowerOfTen then x.div? (powerOfTen k)
  else if x.isZero then some x
  else (x.div? (powerOfTen maxPowerOfTen)).bind fun y => shrink y (k - maxPowerOfTen)
termination_by k
decreasing_by simp only [maxPowerOfTen] at *; omega

/-- Scales by a power of ten; none if the result is not finite. -/
def scale? (x : Binary64) (exponent : Int) : Option Binary64 :=
  if exponent < 0 then shrink x exponent.natAbs
  else if exponent ≤ maxPowerOfTen then x.mul? (powerOfTen exponent.toNat)
  else if x.isZero then some x
  else none

/-- Appends digits to a significand as long as it fits into 64 bits; gives the digits left over. -/
def accumulate (significand : Nat) : List Char → Nat × List Char
  | [] => (significand, [])
  | d :: ds =>
    let next := significand * 10 + digitValue d
    if next ≤ maxUnsigned64 then accumulate next ds else (significand, d :: ds)

/-- The number with the given digits before and after the point and the given exponent. -/
def floatOf? (negative : Bool) (whole fraction : List Char) (exponent : Int) : Option Number :=
  let (high, skipped) := accumulate 0 whole
  let (significand, unread) := accumulate high fraction
  let shift := exponent + skipped.length - (fraction.length - unread.length : Nat)
  (Binary64.ofRatio? false significand 1).bind fun x =>
    (scale? x shift).map fun y => .float { y with negative := negative }

/-- The number with the given digits: an integer if it fits into 64 bits. Minus zero is not one. -/
def wholeNumber? (negative : Bool) (digits : List Char) : Option Number :=
  let n : Int := digitsValue 10 digits
  if negative then
    if n ≠ 0 && fitsSigned64 (-n) then some (.int (-n)) else floatOf? true digits [] 0
  else if fitsUnsigned64 n then some (.int n)
  else floatOf? false digits [] 0

/-- The value of a number; none if it is not finite. -/
def NumberLiteral.value? (n : NumberLiteral) : Option Number :=
  if n.fraction.isNone && n.power.isNone then wholeNumber? n.negative n.whole
  else floatOf? n.negative n.whole (n.fraction.getD []) (n.power.getD 0)

/-! ## Strings -/

/-- A piece of a string as it is spelled. -/
inductive StringPiece where
  /-- A character, which is literal or stands after a backslash. -/
  | char (c : Char)
  /-- A code unit of sixteen bits, given by its number. -/
  | unit (n : Nat)
  deriving DecidableEq, Repr

/-- A string as it is spelled. -/
abbrev StringLiteral := List StringPiece

/-- The code unit is the first half of a surrogate pair. -/
def isHighHalf (n : Nat) : Bool := 0xD800 ≤ n && n < 0xDC00

/-- The code unit is the second half of a surrogate pair. -/
def isLowHalf (n : Nat) : Bool := 0xDC00 ≤ n && n < 0xE000

/-- The character that a surrogate pair stands for. -/
def joinHalves (high low : Nat) : Char :=
  Char.ofNat (0x10000 + (high - 0xD800) * 0x400 + (low - 0xDC00))

/-- The characters of a string; none if half of a surrogate pair stands alone. -/
def stringChars? : StringLiteral → Option (List Char)
  | [] => some []
  | .char c :: rest => (stringChars? rest).map (c :: ·)
  | .unit n :: rest =>
    if isHighHalf n then
      match rest with
      | .unit low :: rest =>
        if isLowHalf low then (stringChars? rest).map (joinHalves n low :: ·) else none
      | _ => none
    else if isLowHalf n then none
    else (stringChars? rest).map (Char.ofNat n :: ·)

/-- The text of a string; none if half of a surrogate pair stands alone. -/
def stringValue? (s : StringLiteral) : Option String := (stringChars? s).map String.ofList

end Json

end GatewayPolicy
