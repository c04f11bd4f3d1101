/-! Counters that stick at the largest value of their width. The width is part of the type and the
bound part of the value, so a total is either exact or visibly at its limit. -/
namespace HistorySurvey

/-- The largest value of a width, which also stands for everything above it. -/
def Count.limit (width : Nat) : Nat := Nat.pow 2 width - 1

structure Count (width : Nat) where
  value : Nat
  value_le : value ≤ Count.limit width
  deriving DecidableEq

abbrev Count32 := Count 32

abbrev Count64 := Count 64

namespace Count

variable {width : Nat}

def ofNat (n : Nat) : Count width := ⟨min n (limit width), Nat.min_le_right _ _⟩

instance : Inhabited (Count width) := ⟨ofNat 0⟩

instance (n : Nat) : OfNat (Count width) n := ⟨ofNat n⟩

instance : Add (Count width) := ⟨fun a b => ofNat (a.value + b.value)⟩

instance : LT (Count width) := ⟨fun a b => a.value < b.value⟩

instance : LE (Count width) := ⟨fun a b => a.value ≤ b.value⟩

instance (a b : Count width) : Decidable (a < b) := inferInstanceAs (Decidable (a.value < b.value))

instance (a b : Count width) : Decidable (a ≤ b) := inferInstanceAs (Decidable (a.value ≤ b.value))

instance : Ord (Count width) := ⟨fun a b => compare a.value b.value⟩

instance : Max (Count width) := maxOfLe

/-- Whether the value may stand for a larger one. -/
def saturated (a : Count width) : Bool := a.value == limit width

/-- The same count with room for more. A counter at its limit stays at the limit. -/
def widen (a : Count32) : Count64 := if a.saturated then ofNat (limit 64) else ofNat a.value

theorem ext_value {a b : Count width} (same : a.value = b.value) : a = b := by
  cases a; cases b; cases same; rfl

@[simp] theorem value_ofNat (n : Nat) : (ofNat n : Count width).value = min n (limit width) := rfl

@[simp] theorem value_add (a b : Count width) :
    (a + b).value = min (a.value + b.value) (limit width) := rfl

@[simp] theorem value_max (a b : Count width) : (max a b).value = max a.value b.value := by
  change (if a ≤ b then b else a).value = _
  by_cases h : a.value ≤ b.value
  · rw [if_pos (show a ≤ b from h), Nat.max_eq_right h]
  · rw [if_neg (show ¬ a ≤ b from h), Nat.max_eq_left (by omega)]

theorem saturated_iff (a : Count width) : a.saturated = true ↔ a.value = limit width := by
  simp [saturated]

/-- Sums clamp once: adding two clamped numbers clamps their sum. -/
theorem ofNat_add (m n : Nat) : (ofNat m + ofNat n : Count width) = ofNat (m + n) := by
  apply ext_value
  simp only [value_add, value_ofNat]
  omega

end Count

end HistorySurvey
