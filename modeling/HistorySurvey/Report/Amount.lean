import HistorySurvey.Binary64.Decimal

/-! Amounts for people: a number of at most five characters with a unit that says how large it
is. -/
namespace HistorySurvey

inductive Multiples
  | decimal
  | binary
  deriving DecidableEq

namespace Multiples

def name : Multiples → String
  | decimal => "metric"
  | binary => "binary"

def factor : Multiples → Nat
  | decimal => 1000
  | binary => 1024

def names : Multiples → List String
  | decimal => ["k", "M", "G", "T", "P", "E"]
  | binary => ["Ki", "Mi", "Gi", "Ti", "Pi", "Ei"]

end Multiples

structure Amount where
  number : String
  unit : String
  deriving DecidableEq

namespace Amount

/-- Divides by the factor as long as there is a larger multiple and the number reaches it. -/
def scaleDown (factor : Binary64) (scaled : Binary64) (name : String) :
    List String → Binary64 × String
  | [] => (scaled, name)
  | larger :: rest =>
    if factor ≤ scaled then scaleDown factor (scaled / factor) larger rest else (scaled, name)

def decimals (scaled : Binary64) : Nat :=
  if scaled < .ofNat 10 then 2 else if scaled < .ofNat 100 then 1 else 0

/-- A value in the largest multiple of the unit that it reaches. -/
def of (value : Nat) (unit : String) (multiples : Multiples) : Amount :=
  let factor := Binary64.ofNat multiples.factor
  let whole := Binary64.ofNat value
  if whole < factor then ⟨toString value, unit⟩
  else
    let (scaled, name) := scaleDown factor whole "" multiples.names
    ⟨scaled.fixed (decimals scaled), name ++ unit⟩

def bytes (count : Nat) : String :=
  let amount := of count "B" .binary
  amount.number ++ " " ++ amount.unit

def plain (count : Nat) : String :=
  let amount := of count "" .decimal
  if amount.unit.isEmpty then amount.number else amount.number ++ " " ++ amount.unit

end Amount

end HistorySurvey
