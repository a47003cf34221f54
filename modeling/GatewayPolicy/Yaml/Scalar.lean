import GatewayPolicy.Json.Basic
import GatewayPolicy.Numeral.Decimal
/-!
# Plain scalars

A scalar that is not quoted is a text, a number, a truth value or no value at all, depending on its
look. Digits after a leading zero look like a number and are a text; numbers may be in base sixteen,
eight or two.
-/

namespace GatewayPolicy

namespace Yaml.Plain

open Text

/-- The scalar says that there is no value. -/
def isNull (s : String) : Bool := ["", "~", "null", "Null", "NULL"].contains s

/-- The truth value that the scalar stands for. -/
def bool? (s : String) : Option Bool :=
  if ["true", "True", "TRUE"].contains s then some true
  else if ["false", "False", "FALSE"].contains s then some false
  else none

/-- The scalar without a sign. -/
def unsigned (cs : List Char) : List Char :=
  match cs with
  | '+' :: rest | '-' :: rest => rest
  | _ => cs

/-- Digits after a leading zero, which are a text. -/
def isZeroPadded (cs : List Char) : Bool :=
  match unsigned cs with
  | '0' :: d :: rest => (d :: rest).all Char.isDigit
  | _ => false

/-- The number that digits with a mark for their base stand for. -/
def based? : List Char → Option Nat
  | '0' :: 'x' :: ds => readDigits? 16 ds
  | '0' :: 'o' :: ds => readDigits? 8 ds
  | '0' :: 'b' :: ds => readDigits? 2 ds
  | _ => none

/-- The natural number that digits of any base stand for. -/
def magnitude? (cs : List Char) : Option Nat :=
  (based? cs).or (if isZeroPadded cs then none else readDigits? 10 cs)

/-- The natural number that the scalar stands for. -/
def nat? (s : String) : Option Nat :=
  match s.toList with
  | '+' :: cs => magnitude? cs
  | cs => magnitude? cs

/-- The number with a minus sign that the scalar stands for. -/
def negated? (s : String) : Option Nat :=
  match s.toList with
  | '-' :: cs => magnitude? cs
  | _ => none

/-- The spellings of infinity. -/
def infinities : List String := [".inf", ".Inf", ".INF"]

/-- The spellings of what is no number. -/
def undefineds : List String := [".nan", ".NaN", ".NAN"]

/-- The scalar stands for a number that is not finite. -/
def isUnbounded (s : String) : Bool :=
  undefineds.contains s || infinities.any fun w => [w, "+" ++ w, "-" ++ w].contains s

/-- The finite number that the scalar stands for. -/
def float? (s : String) : Option Binary64 :=
  match s.toList with
  | '+' :: '+' :: _ | '+' :: '-' :: _ => none
  | cs =>
    if isZeroPadded cs then none
    else
      match RealText.read? s with
      | some (.finite x) => some x
      | _ => none

/-- The greatest integer of 128 bits without sign; larger ones are not read as integers. -/
def maxWide : Nat := 340282366920938463463374607431768211455

/-- The value that the scalar stands for. Numbers that are not finite become `null`, as JSON has no
other way to write them; integers of more than 64 bits are refused as long as they have no more than
128. -/
def value? (s : String) : Option Json :=
  if isNull s then some .null
  else
    match bool? s, (nat? s).filter (· ≤ maxWide),
        (negated? s).filter (· ≤ maxWide / 2 + 1) with
    | some b, _, _ => some (.bool b)
    | none, some n, _ => if n ≤ Text.maxUnsigned64 then some (.nat n) else none
    | none, none, some n => if n ≤ Text.maxSigned64 + 1 then some (.int (-n)) else none
    | none, none, none =>
      if isUnbounded s then some .null
      else
        match float? s with
        | some x => some (.number (.float x))
        | none => some (.text s)

end Yaml.Plain

end GatewayPolicy
