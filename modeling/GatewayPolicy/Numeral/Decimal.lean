import GatewayPolicy.Numeral.Binary64
import GatewayPolicy.Text.Integer
/-!
# Decimals in text

The general form of a number in text: an optional sign, digits with an optional point, an optional
exponent; or the words for infinity and for "not a number" in any case. The number is rounded once,
so the text is read as the nearest binary64 number.
-/

namespace GatewayPolicy

open Text

/-- What a text stands for as a number. -/
inductive RealText where
  /-- A finite number. -/
  | finite (value : Binary64)
  /-- The word for infinity, or a number beyond the finite ones. -/
  | infinite
  /-- The word for "not a number". -/
  | undefined
  deriving DecidableEq, Repr

namespace RealText

/-- Beyond this power of ten every number is infinite and below its negation every one is zero. -/
def exponentLimit : Nat := 400

/-- The nearest number to `± digits * 10 ^ exponent`. -/
def ofDecimal (negative : Bool) (digits : Nat) (exponent : Int) : RealText :=
  let size := (Nat.toDigits 10 digits).length
  if digits = 0 || exponent + size < -exponentLimit then .finite (.zero negative)
  else if exponentLimit < exponent + size then .infinite
  else
    match Binary64.ofRatio? negative (digits * Nat.pow 10 exponent.toNat)
        (Nat.pow 10 (-exponent).toNat) with
    | some x => .finite x
    | none => .infinite

/-- Reads an exponent with its mark; an absent one is zero. -/
def readExponent? : List Char → Option Int
  | [] => some 0
  | c :: cs => if c = 'e' || c = 'E' then readSigned? 10 cs else none

/-- Reads digits with an optional point and an optional exponent. -/
def readUnsigned? (negative : Bool) (cs : List Char) : Option RealText :=
  let whole := cs.takeWhile Char.isDigit
  let rest := cs.dropWhile Char.isDigit
  let (fraction, tail) := match rest with
    | '.' :: r => (r.takeWhile Char.isDigit, r.dropWhile Char.isDigit)
    | _ => ([], rest)
  let digits := whole ++ fraction
  if digits.isEmpty then none
  else (readExponent? tail).map fun e =>
    ofDecimal negative (digitsValue 10 digits) (e - fraction.length)

/-- Reads a number without its sign. -/
def readMagnitude? (negative : Bool) (cs : List Char) : Option RealText :=
  match cs.map Char.toLower with
  | ['i', 'n', 'f'] | ['i', 'n', 'f', 'i', 'n', 'i', 't', 'y'] => some .infinite
  | ['n', 'a', 'n'] => some .undefined
  | _ => readUnsigned? negative cs

/-- Reads a number. -/
def read? (s : String) : Option RealText :=
  match s.toList with
  | '-' :: cs => readMagnitude? true cs
  | '+' :: cs => readMagnitude? false cs
  | cs => readMagnitude? false cs

end RealText

end GatewayPolicy
