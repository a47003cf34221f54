import GatewayPolicy.Numeral.Binary64
/-!
# The shortest decimal that reads back

A binary64 number is written with the fewest digits whose decimal rounds back to the number, and
among those the decimal nearest to it. Which decimals round back is decided exactly: they are the
ones within half a unit of the last binary digit, the ends included when the significand is even.

How the chosen digits are laid out is a matter of one record, `DecimalLayout`.
-/

namespace GatewayPolicy

/-- A decimal `digits * 10 ^ exponent`. -/
structure Decimal where
  /-- The digits, as one natural number. -/
  digits : Nat
  /-- The power of ten of the last digit. -/
  exponent : Int
  deriving DecidableEq, Repr

namespace Binary64

/-- Compares `digits * 10 ^ exponent` with the magnitude `num / den`: the two cross products. -/
def crossProducts (d : Decimal) (num den : Nat) : Nat × Nat :=
  (d.digits * Nat.pow 10 d.exponent.toNat * den, num * Nat.pow 10 (-d.exponent).toNat)

/-- The decimal rounds back to the number. The reals that do so lie between the midpoints to the
neighbours; below a power of two the lower neighbour is only half as far away. -/
def readsBack (x : Binary64) (d : Decimal) : Bool :=
  let quarter : Nat := 4
  let lowerGap :=
    if x.significand = Nat.pow 2 (precision - 1) && x.exponent ≠ minExponent then 1 else 2
  let low := crossProducts d ((quarter * x.significand - lowerGap) * Nat.pow 2 x.exponent.toNat)
    (quarter * x.den)
  let high := crossProducts d ((quarter * x.significand + 2) * Nat.pow 2 x.exponent.toNat)
    (quarter * x.den)
  if x.significand % 2 = 0 then low.2 ≤ low.1 && high.1 ≤ high.2
  else low.2 < low.1 && high.1 < high.2

/-- The greatest `k` with `10 ^ k ≤ num / den`, searched downwards from an upper bound. -/
def floorLog10From (num den : Nat) : Nat → Int → Int
  | 0, k => k
  | fuel + 1, k =>
    if den * Nat.pow 10 k.toNat ≤ num * Nat.pow 10 (-k).toNat then k
    else floorLog10From num den fuel (k - 1)

/-- The greatest `k` with `10 ^ k` at most the magnitude of a number that is not zero. The binary
logarithm gives a first guess that is at most a few too large. -/
def floorLog10 (x : Binary64) : Int :=
  let bits := floorLog2 x.num x.den
  floorLog10From x.num x.den 8 ((bits + 1) * 30103 / 100000 + 2)

/-- The decimals with last digit at `10 ^ e` on both sides of the number, the nearer one first; of
two equally near ones the even one. -/
def neighbours (x : Binary64) (e : Int) : List Decimal :=
  let n := x.num * Nat.pow 10 (-e).toNat
  let d := x.den * Nat.pow 10 e.toNat
  let below := n / d
  let twice := 2 * (n % d)
  if twice < d || (twice == d && below % 2 == 0) then [⟨below, e⟩, ⟨below + 1, e⟩]
  else [⟨below + 1, e⟩, ⟨below, e⟩]

/-- Tries ever finer grids until one holds a decimal that reads back. -/
def searchShortest (x : Binary64) : Nat → Int → Decimal
  | 0, e => ⟨x.num * Nat.pow 10 (-e).toNat / (x.den * Nat.pow 10 e.toNat), e⟩
  | fuel + 1, e =>
    match (neighbours x e).find? (readsBack x) with
    | some d => d
    | none => searchShortest x fuel (e - 1)

/-- Takes zeros off the end of the digits. -/
def stripZeros : Nat → Decimal → Decimal
  | 0, d => d
  | fuel + 1, d =>
    if d.digits ≠ 0 && d.digits % 10 = 0 then stripZeros fuel ⟨d.digits / 10, d.exponent + 1⟩ else d

/-- The shortest decimal that reads back, nearest to the number among the shortest. Seventeen digits
always suffice. -/
def shortest (x : Binary64) : Decimal :=
  if x.isZero then ⟨0, 0⟩ else stripZeros 20 (searchShortest x 17 (floorLog10 x))

end Binary64

/-- How a decimal is laid out as text. -/
structure DecimalLayout where
  /-- The least power of ten of the first digit that is written out with leading zeros. -/
  leastPlain : Int
  /-- The least power of ten of the first digit that needs an exponent again. -/
  leastScaled : Int
  /-- What marks the exponent. -/
  mark : String
  /-- What stands before a positive exponent. -/
  plus : String

namespace DecimalLayout

/-- The text of a positive decimal or zero. -/
def format (layout : DecimalLayout) (d : Decimal) : String :=
  let ds := Nat.toDigits 10 d.digits
  let lead : Int := ds.length - 1 + d.exponent
  if lead < layout.leastPlain || layout.leastScaled ≤ lead then
    let fraction := if ds.length = 1 then [] else '.' :: ds.drop 1
    let sign := if lead < 0 then "-" else layout.plus
    String.ofList (ds.take 1 ++ fraction) ++ layout.mark ++ sign ++ toString lead.natAbs
  else if 0 ≤ d.exponent then
    String.ofList (ds ++ List.replicate d.exponent.toNat '0') ++ ".0"
  else if 0 ≤ lead then
    String.ofList (ds.take (lead.toNat + 1) ++ '.' :: ds.drop (lead.toNat + 1))
  else
    "0." ++ String.ofList (List.replicate (-lead - 1).toNat '0' ++ ds)

end DecimalLayout

end GatewayPolicy
