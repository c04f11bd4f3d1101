import HistorySurvey.Object.Id
import Mathlib.Algebra.Group.Nat.Defs

/-! The name of an object as text: forty digits, which read back as the name. -/
namespace HistorySurvey.ObjectId

theorem length_lastDigits (count n : Nat) (after : List Char) :
    (lastDigits count n after).length = count + after.length := by
  induction count generalizing n after with
  | zero => rw [lastDigits, Nat.zero_add]
  | succ count ih => rw [lastDigits, ih, List.length_cons, Nat.succ_add_eq_add_succ]

theorem hexValue?_digitChar {n : Nat} (digit : n < 16) : hexValue? (Nat.digitChar n) = some n := by
  revert n
  decide

theorem foldlM_lastDigits (count n number : Nat) (after : List Char) :
    (lastDigits count n after).foldlM
        (fun number c => (hexValue? c).map (16 * number + ·)) number =
      after.foldlM (fun number c => (hexValue? c).map (16 * number + ·))
        (16 ^ count * number + n % 16 ^ count) := by
  induction count generalizing n after with
  | zero => rw [lastDigits, Nat.pow_zero, Nat.one_mul, Nat.mod_one, Nat.add_zero]
  | succ count ih =>
    have digit := hexValue?_digitChar (Nat.mod_lt n (by decide : 0 < 16))
    have value : 16 * (16 ^ count * number + n / 16 % 16 ^ count) + n % 16 =
        16 ^ (count + 1) * number + n % 16 ^ (count + 1) := by
      rw [Nat.pow_succ', Nat.mod_mul, Nat.mul_add, Nat.mul_assoc, Nat.add_assoc,
        Nat.add_comm (n % 16)]
    rw [lastDigits, ih, List.foldlM_cons, digit, ← value]
    rfl

theorem toHex_length (id : ObjectId) : id.toHex.toList.length = digitCount := by
  rw [toHex, String.toList_ofList, length_lastDigits, List.length_nil, Nat.add_zero]

theorem ofHex?_toHex (id : ObjectId) : ofHex? id.toHex.toList = some id := by
  have bound : id.bits.toNat % 16 ^ digitCount = id.bits.toNat := Nat.mod_eq_of_lt id.bits.isLt
  have number : hexNumber? (lastDigits digitCount id.bits.toNat []) = some id.bits.toNat := by
    rw [hexNumber?, foldlM_lastDigits, bound, Nat.mul_zero, Nat.zero_add]
    rfl
  rw [ofHex?, if_pos id.toHex_length, toHex, String.toList_ofList, number, Option.map_some, ofNat,
    BitVec.ofNat_toNat, BitVec.setWidth_eq]

theorem toHex_injective {a b : ObjectId} (same : a.toHex = b.toHex) : a = b := by
  have read := ofHex?_toHex a
  rw [same, ofHex?_toHex] at read
  exact (Option.some.inj read).symm

end HistorySurvey.ObjectId
