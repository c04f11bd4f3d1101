import HistorySurvey.Proofs.Rounding
import HistorySurvey.Report.Amount
import HistorySurvey.Text.Natural

/-! The width of amounts. Dividing by the factor of a multiple brings every value of 64 bits below the
factor, and a number below a whole one is written with no more digits than that one, rounded up or
not. -/
namespace HistorySurvey

namespace Text

theorem mem_toString {n : Nat} {c : Char} (member : c ∈ (toString n).toList) : c.isDigit = true := by
  rw [Nat.toString_eq_repr, Nat.toList_repr] at member
  exact Text.isDigit_of_mem_toDigits member

theorem length_toString (n : Nat) : (toString n).length = (Nat.toDigits 10 n).length := by
  rw [← String.length_toList]
  simp

theorem length_toString_mono {m n : Nat} (le : m ≤ n) :
    (toString m).length ≤ (toString n).length := by
  have positive : 0 < (Nat.toDigits 10 n).length := Nat.length_toDigits_pos
  rw [length_toString, length_toString, Nat.length_toDigits_le_iff (by decide) positive]
  exact Nat.lt_of_le_of_lt le
    ((Nat.length_toDigits_le_iff (by decide) positive).mp (Nat.le_refl _))

end Text

namespace Binary64
open Text

/-- Rounding to decimals may reach a whole number, but does not pass it. -/
theorem length_fixed_le (x : Binary64) (decimals : Nat) {whole : Nat}
    (bound : x.magnitude ≤ whole * unitsPerOne) :
    (x.fixed decimals).length ≤
      (toString whole).length + if decimals = 0 then 0 else decimals + 1 := by
  have rounded : roundHalfEven (x.magnitude * Nat.pow 10 decimals) unitsPerOne ≤
      whole * Nat.pow 10 decimals := by
    refine (roundHalfEven_of_le unitsPerOne_pos).1 ?_
    calc x.magnitude * Nat.pow 10 decimals ≤ whole * unitsPerOne * Nat.pow 10 decimals :=
          Nat.mul_le_mul_right _ bound
      _ = whole * Nat.pow 10 decimals * unitsPerOne := Nat.mul_right_comm ..
  unfold fixed
  generalize roundHalfEven (x.magnitude * Nat.pow 10 decimals) unitsPerOne = scaled at rounded ⊢
  have scale : 0 < Nat.pow 10 decimals := Nat.pow_pos (by decide)
  cases decimals with
  | zero =>
    have within : scaled ≤ whole * 1 := rounded
    exact length_toString_mono (Nat.mul_one whole ▸ within)
  | succ places =>
    have front : scaled / Nat.pow 10 (places + 1) ≤ whole :=
      Nat.div_le_of_le_mul (Nat.mul_comm .. ▸ rounded)
    have part : (toString (scaled % Nat.pow 10 (places + 1))).length ≤ places + 1 := by
      rw [length_toString, Nat.length_toDigits_le_iff (by decide) (Nat.succ_pos places)]
      exact Nat.mod_lt _ scale
    have front := length_toString_mono front
    simp only [Nat.succ_ne_zero, if_false, String.length_append, zeros, String.length_pushn]
    have point : ".".length = 1 := rfl
    have nothing : "".length = 0 := rfl
    omega

theorem toList_zeros (n : Nat) : (zeros n).toList = List.replicate n '0' := by
  unfold zeros String.pushn
  induction n with
  | zero => rfl
  | succ n ih => rw [Nat.repeat, String.toList_push, ih, List.replicate_succ']

theorem mem_fixed {x : Binary64} {decimals : Nat} {c : Char} (member : c ∈ (x.fixed decimals).toList) :
    c.isDigit = true ∨ c = '.' := by
  unfold fixed at member
  dsimp only at member
  split at member
  · exact .inl (mem_toString member)
  · simp only [String.toList_append, List.mem_append, toList_zeros] at member
    rcases member with ((whole | point) | zero) | part
    · exact .inl (mem_toString whole)
    · exact .inr (List.mem_singleton.mp point)
    · obtain rfl := List.eq_of_mem_replicate zero
      exact .inl rfl
    · exact .inl (mem_toString part)

end Binary64

/-! Amounts. -/

namespace Amount
open Binary64 Text

/-- If dividing by the factor as often as there are multiples brings a larger number below the factor,
then dividing as long as the factor is reached ends below it. -/
theorem scaleDown_lt {factor x y : Binary64} (divisor : factor.Positive)
    (finite : factor.isFinite = true) (first : x.Unsigned) (second : y.Unsigned) (le : x ≤ y)
    (name : String) (names : List String)
    (small : names.foldl (fun y _ => y / factor) y < factor) :
    (scaleDown factor x name names).1.Unsigned ∧ (scaleDown factor x name names).1 < factor := by
  induction names generalizing x y name with
  | nil =>
    refine ⟨first, (first.lt_iff divisor.unsigned).mpr ?_⟩
    exact Nat.lt_of_le_of_lt ((first.le_iff second).mp le)
      ((second.lt_iff divisor.unsigned).mp small)
  | cons larger rest ih =>
    rw [scaleDown]
    split
    · exact ih (first.unsigned_div divisor finite) (second.unsigned_div divisor finite)
        (first.div_mono second divisor finite le) larger small
    · rename_i below
      rw [divisor.unsigned.le_iff first, Nat.not_le] at below
      exact ⟨first, (first.lt_iff divisor.unsigned).mpr below⟩

theorem scaleDown_name (factor x : Binary64) (name : String) (names : List String) :
    (scaleDown factor x name names).2 ∈ name :: names := by
  induction names generalizing x name with
  | nil => exact List.mem_cons_self
  | cons larger rest ih =>
    rw [scaleDown]
    split
    · exact List.mem_cons_of_mem _ (ih _ larger)
    · exact List.mem_cons_self

theorem scaled_lt {value : Nat} (bound : value < 2 ^ 64) (multiples : Multiples) :
    let factor := Binary64.ofNat multiples.factor
    let scaled := (scaleDown factor (.ofNat value) "" multiples.names).1
    scaled.Unsigned ∧ scaled < factor := by
  have divisor : (Binary64.ofNat multiples.factor).Positive :=
    positive_ofNat (by cases multiples <;> decide)
  have finite : (Binary64.ofNat multiples.factor).isFinite = true :=
    isFinite_ofNat (by cases multiples <;> decide)
  refine scaleDown_lt divisor finite (unsigned_ofNat value) (unsigned_ofNat (2 ^ 64))
    (ofNat_mono (Nat.le_of_lt bound)) "" multiples.names ?_
  cases multiples <;> decide +kernel

theorem length_fixed_decimals {scaled : Binary64} (unsigned : scaled.Unsigned) {factor : Nat}
    (few : factor ≤ 99999) (below : scaled < .ofNat factor) :
    (scaled.fixed (decimals scaled)).length ≤ 5 := by
  have reach (whole : Nat) (small : whole ≤ 2 ^ 53) (less : scaled < .ofNat whole) (places : Nat) :=
    scaled.length_fixed_le places (unsigned.magnitude_le_of_lt small less)
  rw [decimals]
  split
  · exact reach 10 (by decide) ‹_› 2
  · split
    · exact reach 100 (by decide) ‹_› 1
    · exact Nat.le_trans (reach factor (by omega) below 0) (length_toString_mono few)

/-- The number takes up at most five characters, with any unit. -/
theorem length_number {value : Nat} (bound : value < 2 ^ 64) (unit : String)
    (multiples : Multiples) : (of value unit multiples).number.length ≤ 5 := by
  have few : multiples.factor ≤ 99999 := by cases multiples <;> decide
  rw [of]
  split
  · rename_i less
    exact length_toString_mono (Nat.le_of_lt (Nat.lt_of_lt_of_le (lt_of_ofNat_lt less) few))
  · obtain ⟨unsigned, below⟩ := scaled_lt bound multiples
    exact length_fixed_decimals unsigned few below

example : of 999999 "" .decimal = ⟨"1000", "k"⟩ ∧ of 1048575 "B" .binary = ⟨"1024", "KiB"⟩ := by
  decide +kernel

theorem mem_number {value : Nat} {unit : String} {multiples : Multiples} {c : Char}
    (member : c ∈ (of value unit multiples).number.toList) : c.isDigit = true ∨ c = '.' := by
  rw [of] at member
  split at member
  · exact .inl (mem_toString member)
  · exact mem_fixed member

theorem unit_eq (value : Nat) (unit : String) (multiples : Multiples) :
    ∃ name ∈ "" :: multiples.names, (of value unit multiples).unit = name ++ unit := by
  rw [of]
  split
  · exact ⟨"", List.mem_cons_self, by simp⟩
  · exact ⟨_, scaleDown_name .., rfl⟩

end Amount

end HistorySurvey
