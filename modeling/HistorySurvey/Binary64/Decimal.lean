import HistorySurvey.Binary64.Basic

/-! Decimal text of double-precision numbers: the fewest digits that read back as the number, and
a fixed number of decimals. Both are computed on exact quotients. -/
namespace HistorySurvey.Binary64

/-- The number `digits * 10 ^ exponent`, without trailing zeros in `digits`. -/
structure Digits where
  digits : Nat
  exponent : Int
  deriving DecidableEq

/-- What reads back as a number: everything between `lower` and `upper`, in quarters of the unit
`2 ^ -1074`. The ends belong to it when the significand is even. -/
structure Neighbourhood where
  lower : Nat
  centre : Nat
  upper : Nat
  closed : Bool

def neighbourhood (x : Binary64) : Neighbourhood :=
  let step := Nat.pow 2 x.doublings
  let below := if x.fraction = 0 ∧ 1 < x.exponentField then 1 else 2
  { lower := (4 * x.significand - below) * step
    centre := 4 * x.significand * step
    upper := (4 * x.significand + 2) * step
    closed := x.significand % 2 == 0 }

def quartersPerOne : Nat := 4 * unitsPerOne

def leadingExponent (centre : Nat) : Int :=
  let shifted := centre * Nat.pow 10 400 / quartersPerOne
  (Nat.toDigits 10 shifted).length - 401

/-- The multiple of `10 ^ exponent` nearest to the number among its two neighbours on that grid
that read back as it; of two equally near ones the even one. -/
def onGrid (near : Neighbourhood) (exponent : Int) : Option Nat :=
  let (up, down) := powerOfTen exponent
  let grid := up * quartersPerOne
  let below := near.centre * down / grid
  let inside (candidate : Nat) : Bool :=
    let place := candidate * grid
    if near.closed then near.lower * down ≤ place ∧ place ≤ near.upper * down
    else near.lower * down < place ∧ place < near.upper * down
  let gapBelow := near.centre * down - below * grid
  let gapAbove := (below + 1) * grid - near.centre * down
  match inside below, inside (below + 1) with
  | true, true =>
    if gapBelow < gapAbove then some below
    else if gapAbove < gapBelow then some (below + 1)
    else some (below + below % 2)
  | true, false => some below
  | false, true => some (below + 1)
  | false, false => none

def stripZeros : Nat → Nat → Int → Digits
  | 0, digits, exponent => ⟨digits, exponent⟩
  | fuel + 1, digits, exponent =>
    if digits % 10 = 0 ∧ digits ≠ 0 then stripZeros fuel (digits / 10) (exponent + 1)
    else ⟨digits, exponent⟩

/-- The fewest digits that read back as a finite number, nearest to it among those. Seventeen
always suffice. -/
def shortest (x : Binary64) : Digits :=
  if x.isZero then ⟨0, 0⟩
  else
    let near := x.neighbourhood
    let leading := leadingExponent near.centre
    let found := (List.range 17).findSome? fun (more : Nat) =>
      (onGrid near (leading - more)).map fun digits =>
        stripZeros (more + 2) digits (leading - more)
    found.getD ⟨0, 0⟩

def zeros (n : Nat) : String := "".pushn '0' n

def Digits.positional (d : Digits) : String :=
  let text := toString d.digits
  if 0 ≤ d.exponent then text ++ zeros d.exponent.toNat
  else
    let places := (-d.exponent).toNat
    if places < text.length then
      (text.take (text.length - places)).toString ++ "."
        ++ (text.drop (text.length - places)).toString
    else "0." ++ zeros (places - text.length) ++ text

def Digits.leading (d : Digits) : Int := (toString d.digits).length - 1 + d.exponent

def Digits.scientific (d : Digits) : String :=
  let text := toString d.digits
  let fraction := (text.drop 1).toString
  let exponent := d.leading
  (text.take 1).toString ++ (if fraction.isEmpty then "" else "." ++ fraction) ++ "e"
    ++ (if exponent < 0 then "-" else "+") ++ toString exponent.natAbs

def signText (x : Binary64) : String := if x.negative then "-" else ""

/-- The text of a number in error messages: never an exponent, and no point after a whole
number. -/
def plainText (x : Binary64) : String :=
  if x.isNaN then "NaN"
  else if x.isInfinite then x.signText ++ "inf"
  else x.signText ++ x.shortest.positional

/-- The text of a number in JSON: between `1e-5` and `1e15` positional with at least one decimal,
beyond that with an exponent. What is not finite has no text. -/
def jsonText? (x : Binary64) : Option String :=
  if !x.isFinite then none
  else
    let d := x.shortest
    let body :=
      if d.leading < -5 ∨ 15 < d.leading then d.scientific
      else if 0 ≤ d.exponent then d.positional ++ ".0"
      else d.positional
    some (x.signText ++ body)

/-- A finite number that is not negative, rounded to the given number of decimals. -/
def fixed (x : Binary64) (decimals : Nat) : String :=
  let scaled := roundHalfEven (x.magnitude * Nat.pow 10 decimals) unitsPerOne
  if decimals = 0 then toString scaled
  else
    let part := toString (scaled % Nat.pow 10 decimals)
    toString (scaled / Nat.pow 10 decimals) ++ "." ++ zeros (decimals - part.length) ++ part

end HistorySurvey.Binary64
