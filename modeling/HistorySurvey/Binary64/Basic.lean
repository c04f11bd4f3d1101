/-! Double-precision numbers by their bits. A finite number is a natural number of units of
`2 ^ -1074`, so every operation is one exact quotient, rounded once to the nearest number with a
tie going to the even significand. -/
namespace HistorySurvey

structure Binary64 where
  bits : UInt64
  deriving DecidableEq

namespace Binary64

def negative (x : Binary64) : Bool := x.bits.toNat / Nat.pow 2 63 == 1

/-- The stored exponent; `2047` marks infinities and not-a-numbers. -/
def exponentField (x : Binary64) : Nat := x.bits.toNat / Nat.pow 2 52 % Nat.pow 2 11

def fraction (x : Binary64) : Nat := x.bits.toNat % Nat.pow 2 52

def isFinite (x : Binary64) : Bool := x.exponentField != 2047

def isNaN (x : Binary64) : Bool := !x.isFinite && x.fraction != 0

def isInfinite (x : Binary64) : Bool := !x.isFinite && x.fraction == 0

/-- Below the first normal number the leading bit is not implied. -/
def significand (x : Binary64) : Nat :=
  if x.exponentField = 0 then x.fraction else x.fraction + Nat.pow 2 52

def doublings (x : Binary64) : Nat := x.exponentField - 1

/-- The size of a finite number in units of `2 ^ -1074`. -/
def magnitude (x : Binary64) : Nat := x.significand * Nat.pow 2 x.doublings

def unitsPerOne : Nat := Nat.pow 2 1074

def isZero (x : Binary64) : Bool := x.isFinite && x.magnitude == 0

def signBit (negative : Bool) : Nat := if negative then Nat.pow 2 63 else 0

def infinityBits : Nat := 2047 * Nat.pow 2 52

def infinity (negative : Bool) : Binary64 :=
  ⟨UInt64.ofNat (signBit negative + infinityBits)⟩

def nan : Binary64 := ⟨UInt64.ofNat (infinityBits + Nat.pow 2 51)⟩

/-- The natural number nearest to a quotient; a half goes to the even neighbour. -/
def roundHalfEven (dividend divisor : Nat) : Nat :=
  let quotient := dividend / divisor
  let doubled := 2 * (dividend % divisor)
  if doubled < divisor then quotient
  else if divisor < doubled then quotient + 1
  else quotient + quotient % 2

/-- The bits of the number nearest to `dividend / divisor`, without a sign. A significand that
rounds up to the next power of two carries into the exponent by itself. -/
def nearestBits (dividend divisor : Nat) : Nat :=
  let units := dividend * unitsPerOne
  let doublings := (units / divisor).log2 - 52
  min (doublings * Nat.pow 2 52 + roundHalfEven units (divisor * Nat.pow 2 doublings)) infinityBits

def nearest (negative : Bool) (dividend divisor : Nat) : Binary64 :=
  ⟨UInt64.ofNat (signBit negative + nearestBits dividend divisor)⟩

def ofNat (n : Nat) : Binary64 := nearest false n 1

instance : Inhabited Binary64 := ⟨ofNat 0⟩

def mul (x y : Binary64) : Binary64 :=
  let negative := x.negative != y.negative
  if x.isNaN || y.isNaN then nan
  else if x.isInfinite || y.isInfinite then
    if x.isZero || y.isZero then nan else infinity negative
  else nearest negative (x.magnitude * y.magnitude) (unitsPerOne * unitsPerOne)

def div (x y : Binary64) : Binary64 :=
  let negative := x.negative != y.negative
  if x.isNaN || y.isNaN then nan
  else if x.isInfinite then if y.isInfinite then nan else infinity negative
  else if y.isInfinite then nearest negative 0 1
  else if y.isZero then if x.isZero then nan else infinity negative
  else nearest negative x.magnitude y.magnitude

instance : Mul Binary64 := ⟨mul⟩

instance : Div Binary64 := ⟨div⟩

/-- Bits without the sign grow with the size, infinity included. -/
def rank (x : Binary64) : Int :=
  let size : Int := x.bits.toNat % Nat.pow 2 63
  if x.negative then -size else size

/-- A not-a-number is comparable with nothing. -/
def le (x y : Binary64) : Bool := !x.isNaN && !y.isNaN && decide (x.rank ≤ y.rank)

def lt (x y : Binary64) : Bool := !x.isNaN && !y.isNaN && decide (x.rank < y.rank)

instance : LE Binary64 := ⟨fun x y => x.le y = true⟩

instance : LT Binary64 := ⟨fun x y => x.lt y = true⟩

instance (x y : Binary64) : Decidable (x ≤ y) := inferInstanceAs (Decidable (x.le y = true))

instance (x y : Binary64) : Decidable (x < y) := inferInstanceAs (Decidable (x.lt y = true))

def powerOfTen (exponent : Int) : Nat × Nat :=
  (Nat.pow 10 exponent.toNat, Nat.pow 10 (-exponent).toNat)

end Binary64

end HistorySurvey
