import HistorySurvey.Text.Natural

/-! Names of objects: 160 bits, written as forty hexadecimal digits. Their order is the order of
their bytes. -/
namespace HistorySurvey

structure ObjectId where
  bits : BitVec 160
  deriving DecidableEq, Hashable

namespace ObjectId

def digitCount : Nat := 40

def ofNat (n : Nat) : ObjectId := ⟨BitVec.ofNat 160 n⟩

instance : Inhabited ObjectId := ⟨ofNat 0⟩

instance : LT ObjectId := ⟨fun a b => a.bits < b.bits⟩

instance : LE ObjectId := ⟨fun a b => a.bits ≤ b.bits⟩

instance (a b : ObjectId) : Decidable (a < b) := inferInstanceAs (Decidable (a.bits < b.bits))

instance (a b : ObjectId) : Decidable (a ≤ b) := inferInstanceAs (Decidable (a.bits ≤ b.bits))

/-- The last `count` hexadecimal digits of a number, put before the characters given. -/
def lastDigits : Nat → Nat → List Char → List Char
  | 0, _, after => after
  | count + 1, n, after => lastDigits count (n / 16) (Nat.digitChar (n % 16) :: after)

def toHex (id : ObjectId) : String :=
  String.ofList (lastDigits digitCount id.bits.toNat [])

instance : ToString ObjectId := ⟨toHex⟩

def hexValue? (c : Char) : Option Nat :=
  if c.isDigit then some (Text.digitValue c)
  else if 'a' ≤ c ∧ c ≤ 'f' then some (c.toNat - 'a'.toNat + 10)
  else none

def hexNumber? (digits : List Char) : Option Nat :=
  digits.foldlM (fun number c => (hexValue? c).map (16 * number + ·)) 0

def ofHex? (digits : List Char) : Option ObjectId :=
  if digits.length = digitCount then (hexNumber? digits).map ofNat else none

def ofBytes (bytes : List UInt8) : ObjectId :=
  ofNat (bytes.foldl (fun number byte => 256 * number + byte.toNat) 0)

end ObjectId

end HistorySurvey
