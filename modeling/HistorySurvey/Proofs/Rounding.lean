import HistorySurvey.Binary64.Basic
import Mathlib.Data.Rat.Cast.Order
import Mathlib.Tactic.SplitIfs
import Mathlib.Tactic.Ring

/-! Rounding to double precision. It is monotone and leaves alone what needs no rounding. From that
follow the order of numbers by magnitude, and that products of positive numbers and quotients by one
are monotone. -/
namespace HistorySurvey.Binary64

/-! Quotients rounded to natural numbers. -/

theorem div_le_roundHalfEven (dividend divisor : Nat) :
    dividend / divisor ≤ roundHalfEven dividend divisor := by
  simp only [roundHalfEven]
  split_ifs <;> omega

theorem roundHalfEven_le (dividend divisor : Nat) :
    roundHalfEven dividend divisor ≤ dividend / divisor + 1 := by
  simp only [roundHalfEven]
  split_ifs <;> omega

theorem roundHalfEven_mul (m : Nat) {divisor : Nat} (positive : 0 < divisor) :
    roundHalfEven (m * divisor) divisor = m := by
  simp [roundHalfEven, Nat.mul_div_cancel _ positive, positive]

theorem div_mono {a b c d : Nat} (positive : 0 < b) (positive' : 0 < d) (le : a * d ≤ c * b) :
    a / b ≤ c / d := by
  refine (Nat.le_div_iff_mul_le positive').mpr (Nat.le_of_mul_le_mul_right ?_ positive)
  calc a / b * d * b = a / b * b * d := by ring
    _ ≤ a * d := Nat.mul_le_mul_right d (Nat.div_mul_le_self a b)
    _ ≤ c * b := le

/-- Two quotients compared with one. -/
theorem reaches_of_mul_le {a b c d : Nat} (positive : 0 < b) (positive' : 0 < d)
    (le : a * d ≤ c * b) : (b ≤ a → d ≤ c) ∧ (b < a → d < c) := by
  constructor
  · intro reached
    refine Nat.le_of_mul_le_mul_right ?_ positive
    calc d * b = b * d := Nat.mul_comm d b
      _ ≤ a * d := Nat.mul_le_mul_right d reached
      _ ≤ c * b := le
  · intro passed
    refine Nat.lt_of_mul_lt_mul_right (a := b) ?_
    calc d * b = b * d := Nat.mul_comm d b
      _ < a * d := Nat.mul_lt_mul_of_pos_right passed positive'
      _ ≤ c * b := le

theorem roundHalfEven_mono {a b c d : Nat} (positive : 0 < b) (positive' : 0 < d)
    (le : a * d ≤ c * b) : roundHalfEven a b ≤ roundHalfEven c d := by
  have floors := div_mono positive positive' le
  rcases Nat.lt_or_eq_of_le floors with less | same
  · calc roundHalfEven a b ≤ a / b + 1 := roundHalfEven_le a b
      _ ≤ c / d := less
      _ ≤ roundHalfEven c d := div_le_roundHalfEven c d
  · -- With the same floor only the fractions count, and they are compared with one half.
    have left : a * d = c / d * (b * d) + a % b * d := by
      calc a * d = (b * (a / b) + a % b) * d := by rw [Nat.div_add_mod]
        _ = c / d * (b * d) + a % b * d := by rw [same]; ring
    have right : c * b = c / d * (b * d) + c % d * b := by
      calc c * b = (d * (c / d) + c % d) * b := by rw [Nat.div_add_mod]
        _ = c / d * (b * d) + c % d * b := by ring
    have fractions : 2 * (a % b) * d ≤ 2 * (c % d) * b := by
      rw [Nat.mul_assoc, Nat.mul_assoc]
      omega
    obtain ⟨reaches, passes⟩ := reaches_of_mul_le positive positive' fractions
    simp only [roundHalfEven, same]
    split_ifs <;> omega

/-- Rounding does not pass a whole number. -/
theorem roundHalfEven_of_le {m dividend divisor : Nat} (positive : 0 < divisor) :
    (dividend ≤ m * divisor → roundHalfEven dividend divisor ≤ m) ∧
      (m * divisor ≤ dividend → m ≤ roundHalfEven dividend divisor) := by
  constructor
  · intro le
    calc roundHalfEven dividend divisor ≤ roundHalfEven (m * divisor) divisor :=
          roundHalfEven_mono positive positive (Nat.mul_le_mul_right _ le)
      _ = m := roundHalfEven_mul m positive
  · intro le
    calc m = roundHalfEven (m * divisor) divisor := (roundHalfEven_mul m positive).symm
      _ ≤ roundHalfEven dividend divisor :=
          roundHalfEven_mono positive positive (Nat.mul_le_mul_right _ le)

/-! Bits of the nearest number. -/

/-- The bits of the number nearest to a quotient of units, if there were no largest number. -/
def unboundedBits (units divisor : Nat) : Nat :=
  let doublings := (units / divisor).log2 - 52
  doublings * 2 ^ 52 + roundHalfEven units (divisor * 2 ^ doublings)

theorem nearestBits_eq (dividend divisor : Nat) :
    nearestBits dividend divisor =
      min (unboundedBits (dividend * unitsPerOne) divisor) infinityBits := rfl

theorem log2_mono {m n : Nat} (le : m ≤ n) : m.log2 ≤ n.log2 := by
  by_cases zero : m = 0
  · rw [zero, Nat.log2_zero]
    exact Nat.zero_le _
  · have nonzero : n ≠ 0 := by omega
    exact (Nat.le_log2 nonzero).mpr (Nat.le_trans (Nat.log2_self_le zero) le)

theorem lt_two_pow_of_log2 {n doublings : Nat} (small : n.log2 - 52 ≤ doublings) :
    n < 2 ^ 53 * 2 ^ doublings := by
  rw [← Nat.pow_add]
  exact Nat.lt_of_lt_of_le Nat.lt_log2_self (Nat.pow_le_pow_right Nat.two_pos (by omega))

theorem two_pow_le_of_log2 {n doublings : Nat} (large : doublings < n.log2 - 52) :
    2 ^ 52 * 2 ^ (n.log2 - 52) ≤ n := by
  have nonzero : n ≠ 0 := by
    rintro rfl
    rw [Nat.log2_zero] at large
    omega
  rw [← Nat.pow_add, ← Nat.le_log2 nonzero]
  omega

theorem unboundedBits_mono {a b c d : Nat} (positive : 0 < b) (positive' : 0 < d)
    (le : a * d ≤ c * b) : unboundedBits a b ≤ unboundedBits c d := by
  have doublings : (a / b).log2 - 52 ≤ (c / d).log2 - 52 :=
    Nat.sub_le_sub_right (log2_mono (div_mono positive positive' le)) 52
  have above := @lt_two_pow_of_log2 (a / b) _ (Nat.le_refl _)
  simp only [unboundedBits]
  generalize (a / b).log2 - 52 = p at *
  rcases Nat.lt_or_eq_of_le doublings with less | same
  · have below := two_pow_le_of_log2 less
    generalize (c / d).log2 - 52 = q at *
    -- Over the last bits that fewer doublings give there are always more.
    have low : roundHalfEven a (b * 2 ^ p) ≤ 2 ^ 53 := by
      have bound : a < 2 ^ 53 * (b * 2 ^ p) := by
        have part := (Nat.div_lt_iff_lt_mul positive).mp above
        calc a < 2 ^ 53 * 2 ^ p * b := part
          _ = 2 ^ 53 * (b * 2 ^ p) := by ring
      have scale : 0 < b * 2 ^ p := Nat.mul_pos positive (Nat.two_pow_pos p)
      exact (roundHalfEven_of_le scale).1 (Nat.le_of_lt bound)
    have high : 2 ^ 52 ≤ roundHalfEven c (d * 2 ^ q) := by
      have bound : 2 ^ 52 * (d * 2 ^ q) ≤ c := by
        have part := (Nat.le_div_iff_mul_le positive').mp below
        calc 2 ^ 52 * (d * 2 ^ q) = 2 ^ 52 * 2 ^ q * d := by ring
          _ ≤ c := part
      have scale : 0 < d * 2 ^ q := Nat.mul_pos positive' (Nat.two_pow_pos q)
      exact (roundHalfEven_of_le scale).2 bound
    omega
  · rw [← same]
    refine Nat.add_le_add_left (roundHalfEven_mono ?_ ?_ ?_) _
    · exact Nat.mul_pos positive (Nat.two_pow_pos p)
    · exact Nat.mul_pos positive' (Nat.two_pow_pos p)
    · calc a * (d * 2 ^ p) = a * d * 2 ^ p := by ring
        _ ≤ c * b * 2 ^ p := Nat.mul_le_mul_right _ le
        _ = c * (b * 2 ^ p) := by ring

theorem nearestBits_mono {a b c d : Nat} (positive : 0 < b) (positive' : 0 < d)
    (le : a * d ≤ c * b) : nearestBits a b ≤ nearestBits c d := by
  have units : a * unitsPerOne * d ≤ c * unitsPerOne * b := by
    calc a * unitsPerOne * d = a * d * unitsPerOne := by ring
      _ ≤ c * b * unitsPerOne := Nat.mul_le_mul_right _ le
      _ = c * unitsPerOne * b := by ring
  have unbounded := unboundedBits_mono positive positive' units
  rw [nearestBits_eq, nearestBits_eq]
  omega

/-! Numbers as they are stored. -/

/-- A significand with a number of doublings, as a finite number has them. -/
structure Fits (significand doublings : Nat) : Prop where
  lt : significand < 2 ^ 53
  normal : 2 ^ 52 ≤ significand ∨ doublings = 0
  le : doublings ≤ 2045

theorem Fits.log2_eq {m p : Nat} (fits : Fits m p) : (m * 2 ^ p).log2 - 52 = p := by
  have upper := fits.lt
  rcases fits.normal with normal | rfl
  · have nonzero : m * 2 ^ p ≠ 0 := Nat.mul_ne_zero (by omega) (Nat.two_pow_pos p).ne'
    have log : (m * 2 ^ p).log2 = 52 + p := by
      rw [Nat.log2_eq_iff nonzero, Nat.pow_add, Nat.add_right_comm 52 p 1, Nat.pow_add]
      exact ⟨Nat.mul_le_mul_right _ normal,
        Nat.mul_lt_mul_of_pos_right upper (Nat.two_pow_pos p)⟩
    omega
  · by_cases zero : m = 0
    · simp [zero]
    · have small := (Nat.log2_lt zero).mpr upper
      simp only [Nat.pow_zero, Nat.mul_one]
      omega

theorem Fits.unboundedBits_eq {m p : Nat} (fits : Fits m p) {divisor : Nat}
    (positive : 0 < divisor) : unboundedBits (m * 2 ^ p * divisor) divisor = p * 2 ^ 52 + m := by
  have scale : 0 < divisor * 2 ^ p := Nat.mul_pos positive (Nat.two_pow_pos p)
  have units : m * 2 ^ p * divisor = m * (divisor * 2 ^ p) := by ring
  simp only [unboundedBits, Nat.mul_div_cancel _ positive, fits.log2_eq]
  rw [units, roundHalfEven_mul m scale]

theorem infinityBits_eq : infinityBits = 2047 * 2 ^ 52 := rfl

theorem Fits.lt_infinityBits {m p : Nat} (fits : Fits m p) : p * 2 ^ 52 + m < infinityBits := by
  have upper := fits.lt
  have few := fits.le
  rw [infinityBits_eq]
  omega

/-- Rounding keeps what is a number already. -/
theorem Fits.nearestBits_eq {m p dividend divisor : Nat} (fits : Fits m p) (positive : 0 < divisor)
    (exact : dividend * unitsPerOne = m * 2 ^ p * divisor) :
    nearestBits dividend divisor = p * 2 ^ 52 + m := by
  rw [Binary64.nearestBits_eq, exact, fits.unboundedBits_eq positive]
  exact Nat.min_eq_left (Nat.le_of_lt fits.lt_infinityBits)

theorem exists_fits {m p : Nat} (small : m < 2 ^ 53) (few : p ≤ 2045) :
    ∃ n q, Fits n q ∧ m * 2 ^ p = n * 2 ^ q := by
  by_cases zero : m = 0
  · exact ⟨0, 0, ⟨by decide, .inr rfl, by decide⟩, by simp [zero]⟩
  · have log : m.log2 ≤ 52 := Nat.le_of_lt_succ ((Nat.log2_lt zero).mpr small)
    -- As many doublings as it takes to fill the significand go into it.
    obtain ⟨s, within, room, full⟩ :
        ∃ s ≤ p, s ≤ 52 - m.log2 ∧ (s = 52 - m.log2 ∨ s = p) :=
      ⟨min (52 - m.log2) p, by omega, by omega, by omega⟩
    refine ⟨m * 2 ^ s, p - s, ⟨?_, ?_, by omega⟩, ?_⟩
    · calc m * 2 ^ s < 2 ^ (m.log2 + 1) * 2 ^ s :=
            Nat.mul_lt_mul_of_pos_right Nat.lt_log2_self (Nat.two_pow_pos s)
        _ = 2 ^ (m.log2 + 1 + s) := (Nat.pow_add ..).symm
        _ ≤ 2 ^ 53 := Nat.pow_le_pow_right Nat.two_pos (by omega)
    · rcases full with rfl | rfl
      · left
        calc 2 ^ 52 = 2 ^ m.log2 * 2 ^ (52 - m.log2) := by
              rw [← Nat.pow_add, Nat.add_sub_of_le log]
          _ ≤ m * 2 ^ (52 - m.log2) := Nat.mul_le_mul_right _ (Nat.log2_self_le zero)
      · exact .inr (Nat.sub_self _)
    · rw [Nat.mul_assoc, ← Nat.pow_add, Nat.add_sub_of_le within]

variable {x y f : Binary64}

theorem exponentField_eq (x : Binary64) :
    x.exponentField = x.bits.toNat / 2 ^ 52 % 2 ^ 11 := rfl

theorem fraction_eq (x : Binary64) : x.fraction = x.bits.toNat % 2 ^ 52 := rfl

theorem significand_eq (x : Binary64) :
    x.significand = if x.exponentField = 0 then x.fraction else x.fraction + 2 ^ 52 := rfl

theorem magnitude_eq (x : Binary64) : x.magnitude = x.significand * 2 ^ x.doublings := rfl

/-- A number from zero to infinity. -/
def Unsigned (x : Binary64) : Prop := x.bits.toNat ≤ infinityBits

theorem Unsigned.negative_eq (unsigned : x.Unsigned) : x.negative = false := by
  have bound : x.bits.toNat < 2 ^ 63 := Nat.lt_of_le_of_lt unsigned (by decide)
  have sign : x.bits.toNat / Nat.pow 2 63 = 0 := Nat.div_eq_of_lt bound
  rw [negative, sign]
  rfl

theorem Unsigned.isFinite_iff (unsigned : x.Unsigned) :
    x.isFinite = true ↔ x.bits.toNat < infinityBits := by
  rw [Unsigned, infinityBits_eq] at unsigned
  rw [isFinite, bne_iff_ne, exponentField_eq, infinityBits_eq]
  omega

theorem Unsigned.fraction_eq_zero (unsigned : x.Unsigned) (infinite : x.isFinite = false) :
    x.fraction = 0 := by
  have top : ¬ x.bits.toNat < infinityBits := by
    rw [← unsigned.isFinite_iff, infinite]
    exact Bool.false_ne_true
  rw [Unsigned, infinityBits_eq] at unsigned
  rw [infinityBits_eq] at top
  rw [fraction_eq]
  omega

theorem Unsigned.isNaN_eq (unsigned : x.Unsigned) : x.isNaN = false := by
  cases finite : x.isFinite with
  | true => simp [isNaN, finite]
  | false => simp [isNaN, finite, unsigned.fraction_eq_zero finite]

theorem Unsigned.isInfinite_eq (unsigned : x.Unsigned) : x.isInfinite = !x.isFinite := by
  cases finite : x.isFinite with
  | true => simp [isInfinite, finite]
  | false => simp [isInfinite, finite, unsigned.fraction_eq_zero finite]

theorem Unsigned.rank_eq (unsigned : x.Unsigned) : x.rank = x.bits.toNat := by
  have bound : x.bits.toNat < 2 ^ 63 := Nat.lt_of_le_of_lt unsigned (by decide)
  simp only [rank, unsigned.negative_eq, Bool.false_eq_true, if_false]
  exact Int.emod_eq_of_lt (Int.natCast_nonneg _) (Int.ofNat_lt.mpr bound)

theorem Unsigned.le_iff (first : x.Unsigned) (second : y.Unsigned) :
    x ≤ y ↔ x.bits.toNat ≤ y.bits.toNat := by
  change x.le y = true ↔ _
  rw [le, first.isNaN_eq, second.isNaN_eq, first.rank_eq, second.rank_eq]
  simp

theorem Unsigned.lt_iff (first : x.Unsigned) (second : y.Unsigned) :
    x < y ↔ x.bits.toNat < y.bits.toNat := by
  change x.lt y = true ↔ _
  rw [lt, first.isNaN_eq, second.isNaN_eq, first.rank_eq, second.rank_eq]
  simp

/-! Finite numbers and their magnitudes. -/

theorem fits (finite : x.isFinite = true) : Fits x.significand x.doublings := by
  rw [isFinite, bne_iff_ne, exponentField_eq] at finite
  constructor
  · rw [significand_eq, exponentField_eq, fraction_eq]
    split <;> omega
  · rw [significand_eq, doublings, exponentField_eq, fraction_eq]
    split <;> omega
  · rw [doublings, exponentField_eq]
    omega

theorem Unsigned.bits_eq (unsigned : x.Unsigned) :
    x.bits.toNat = x.doublings * 2 ^ 52 + x.significand := by
  rw [Unsigned, infinityBits_eq] at unsigned
  rw [significand_eq, doublings, exponentField_eq, fraction_eq]
  split <;> omega

theorem Fits.magnitude_eq {m p : Nat} (fits : Fits m p)
    (stored : x.bits.toNat = p * 2 ^ 52 + m) : x.magnitude = m * 2 ^ p := by
  obtain ⟨lt, normal, le⟩ := fits
  have parts : x.significand = m ∧ x.doublings = p := by
    rw [significand_eq, doublings, exponentField_eq, fraction_eq, stored]
    split <;> omega
  rw [Binary64.magnitude_eq, parts.1, parts.2]

theorem nearestBits_magnitude (unsigned : x.Unsigned) (finite : x.isFinite = true)
    {dividend divisor : Nat} (positive : 0 < divisor)
    (exact : dividend * unitsPerOne = x.magnitude * divisor) :
    nearestBits dividend divisor = x.bits.toNat := by
  rw [unsigned.bits_eq]
  exact (fits finite).nearestBits_eq positive exact

theorem unitsPerOne_pos : 0 < unitsPerOne := by decide +kernel

theorem unitsPerOne_eq : unitsPerOne = 2 ^ 1074 := by decide +kernel

theorem Unsigned.magnitude_le_iff (first : x.Unsigned) (second : y.Unsigned)
    (finite : x.isFinite = true) (finite' : y.isFinite = true) :
    x.magnitude ≤ y.magnitude ↔ x ≤ y := by
  rw [first.le_iff second]
  have mono {x y : Binary64} (first : x.Unsigned) (second : y.Unsigned)
      (finite : x.isFinite = true) (finite' : y.isFinite = true)
      (le : x.magnitude ≤ y.magnitude) : x.bits.toNat ≤ y.bits.toNat := by
    rw [← nearestBits_magnitude first finite unitsPerOne_pos rfl,
      ← nearestBits_magnitude second finite' unitsPerOne_pos rfl]
    exact nearestBits_mono unitsPerOne_pos unitsPerOne_pos (Nat.mul_le_mul_right _ le)
  refine ⟨mono first second finite finite', fun le => ?_⟩
  by_contra more
  have back := mono second first finite' finite (Nat.le_of_not_le more)
  have same : x.bits = y.bits := UInt64.toNat_inj.mp (Nat.le_antisymm le back)
  obtain rfl : x = y := by cases x; cases y; cases same; rfl
  exact more (Nat.le_refl _)

/-! Nearest numbers, products and the numbers of values. -/

theorem bits_nearest (dividend divisor : Nat) :
    (nearest false dividend divisor).bits.toNat = nearestBits dividend divisor := by
  have bound : nearestBits dividend divisor ≤ infinityBits := Nat.min_le_right _ _
  rw [infinityBits_eq] at bound
  simp only [nearest, signBit, Bool.false_eq_true, if_false, Nat.zero_add, UInt64.toNat_ofNat']
  exact Nat.mod_eq_of_lt (by omega)

theorem unsigned_nearest (dividend divisor : Nat) : (nearest false dividend divisor).Unsigned := by
  rw [Unsigned, bits_nearest]
  exact Nat.min_le_right _ _

theorem nearest_mono {a b c d : Nat} (positive : 0 < b) (positive' : 0 < d) (le : a * d ≤ c * b) :
    nearest false a b ≤ nearest false c d := by
  rw [(unsigned_nearest a b).le_iff (unsigned_nearest c d), bits_nearest, bits_nearest]
  exact nearestBits_mono positive positive' le

/-- What needs no rounding is taken over with its magnitude. -/
theorem nearest_exact {m p dividend divisor : Nat} (small : m < 2 ^ 53) (few : p ≤ 2045)
    (positive : 0 < divisor) (exact : dividend * unitsPerOne = m * 2 ^ p * divisor) :
    (nearest false dividend divisor).isFinite = true ∧
      (nearest false dividend divisor).magnitude = m * 2 ^ p := by
  obtain ⟨n, q, fits, same⟩ := exists_fits small few
  rw [same] at exact ⊢
  have stored := (bits_nearest dividend divisor).trans (fits.nearestBits_eq positive exact)
  refine ⟨?_, fits.magnitude_eq stored⟩
  rw [(unsigned_nearest dividend divisor).isFinite_iff, stored]
  exact fits.lt_infinityBits

theorem unsigned_ofNat (n : Nat) : (ofNat n).Unsigned := unsigned_nearest n 1

theorem ofNat_mono {m n : Nat} (le : m ≤ n) : ofNat m ≤ ofNat n :=
  nearest_mono Nat.one_pos Nat.one_pos (Nat.mul_le_mul_right 1 le)

theorem lt_of_ofNat_lt {m n : Nat} (less : ofNat m < ofNat n) : m < n := by
  by_contra more
  have back := ofNat_mono (Nat.not_lt.mp more)
  rw [(unsigned_ofNat n).le_iff (unsigned_ofNat m)] at back
  rw [(unsigned_ofNat m).lt_iff (unsigned_ofNat n)] at less
  omega

/-- A number above zero, infinity among them. -/
structure Positive (x : Binary64) : Prop where
  unsigned : x.Unsigned
  pos : 0 < x.bits.toNat

theorem Unsigned.le_trans {x y z : Binary64} (first : x.Unsigned) (second : y.Unsigned)
    (third : z.Unsigned) (le : x ≤ y) (le' : y ≤ z) : x ≤ z := by
  rw [first.le_iff second] at le
  rw [second.le_iff third] at le'
  rw [first.le_iff third]
  exact Nat.le_trans le le'

theorem le_of_lt (less : x < y) : x ≤ y := by
  change x.lt y = true at less
  change x.le y = true
  simp only [lt, le, Bool.and_eq_true, decide_eq_true_eq] at less ⊢
  exact ⟨less.1, Int.le_of_lt less.2⟩

theorem Unsigned.positive_of_lt (first : x.Unsigned) (less : x < y) : y.Positive := by
  change x.lt y = true at less
  simp only [lt, first.rank_eq, Bool.and_eq_true, Bool.not_eq_true', decide_eq_true_eq] at less
  obtain ⟨⟨_, number⟩, above⟩ := less
  have bound : y.bits.toNat < 2 ^ 64 := y.bits.toNat_lt
  have sign : y.negative = false := by
    by_contra negative
    rw [Bool.not_eq_false] at negative
    simp only [rank, negative, if_true] at above
    omega
  have half : y.bits.toNat < 2 ^ 63 := by
    have quotient : y.bits.toNat / 2 ^ 63 ≠ 1 := fun one => by
      rw [negative, show Nat.pow 2 63 = 2 ^ 63 from rfl, one] at sign
      contradiction
    omega
  constructor
  · rw [isNaN, Bool.and_eq_false_iff, Bool.not_eq_false', isFinite, bne_iff_ne, bne_eq_false_iff_eq,
      exponentField_eq, fraction_eq] at number
    rw [Unsigned, infinityBits_eq]
    omega
  · have size : y.rank = ((y.bits.toNat % 2 ^ 63 : Nat) : Int) := by
      simp only [rank, sign, Bool.false_eq_true, if_false]
      rfl
    rw [size, Nat.mod_eq_of_lt half] at above
    omega

theorem positive_of_one_lt (above : ofNat 1 < y) : y.Positive :=
  (unsigned_ofNat 1).positive_of_lt above

theorem positive_ofNat {n : Nat} (positive : 0 < n) : (ofNat n).Positive := by
  have one : 0 < (ofNat 1).bits.toNat := by decide +kernel
  have least := ((unsigned_ofNat 1).le_iff (unsigned_ofNat n)).mp (ofNat_mono positive)
  exact ⟨unsigned_ofNat n, Nat.lt_of_lt_of_le one least⟩

/-! Products of positive numbers. -/

theorem unsigned_infinity : (infinity false).Unsigned := by
  rw [Unsigned]
  decide +kernel

theorem Unsigned.le_infinity (unsigned : x.Unsigned) : x ≤ infinity false :=
  (unsigned.le_iff unsigned_infinity).mpr unsigned

theorem Positive.magnitude_pos (positive : x.Positive) : 0 < x.magnitude := by
  refine Nat.mul_pos (Nat.pos_of_ne_zero fun zero => ?_) (Nat.two_pow_pos x.doublings)
  have stored := positive.unsigned.bits_eq
  have above := positive.pos
  rw [zero, doublings] at stored
  rw [significand_eq] at zero
  split at zero <;> omega

theorem Positive.isZero_eq (positive : x.Positive) : x.isZero = false := by
  simp [isZero, positive.magnitude_pos.ne']

theorem Positive.mul_eq (first : x.Positive) (second : y.Positive) (finite : x.isFinite = true)
    (finite' : y.isFinite = true) :
    x * y = nearest false (x.magnitude * y.magnitude) (unitsPerOne * unitsPerOne) := by
  change mul x y = _
  simp [mul, first.unsigned.isNaN_eq, second.unsigned.isNaN_eq, first.unsigned.negative_eq,
    second.unsigned.negative_eq, first.unsigned.isInfinite_eq, second.unsigned.isInfinite_eq,
    finite, finite']

theorem Positive.mul_infinite (first : x.Positive) (second : y.Positive)
    (infinite : x.isFinite = false ∨ y.isFinite = false) : x * y = infinity false := by
  change mul x y = _
  simp [mul, first.unsigned.isNaN_eq, second.unsigned.isNaN_eq, first.unsigned.negative_eq,
    second.unsigned.negative_eq, first.unsigned.isInfinite_eq, second.unsigned.isInfinite_eq,
    first.isZero_eq, second.isZero_eq, infinite]

theorem Positive.unsigned_mul (first : x.Positive) (second : y.Positive) : (x * y).Unsigned := by
  cases finite : x.isFinite with
  | false => exact first.mul_infinite second (.inl finite) ▸ unsigned_infinity
  | true =>
    cases finite' : y.isFinite with
    | false => exact first.mul_infinite second (.inr finite') ▸ unsigned_infinity
    | true => exact first.mul_eq second finite finite' ▸ unsigned_nearest _ _

theorem Unsigned.isFinite_of_le (first : x.Unsigned) (second : y.Unsigned) (le : x ≤ y)
    (finite : y.isFinite = true) : x.isFinite = true := by
  rw [second.isFinite_iff] at finite
  rw [first.isFinite_iff]
  exact Nat.lt_of_le_of_lt ((first.le_iff second).mp le) finite

theorem isFinite_ofNat {v : Nat} (bound : v < 2 ^ 64) : (ofNat v).isFinite = true := by
  have limit : (ofNat (2 ^ 64)).isFinite = true := by decide +kernel
  exact (unsigned_ofNat v).isFinite_of_le (unsigned_ofNat _) (ofNat_mono (Nat.le_of_lt bound)) limit

theorem units_pos : 0 < unitsPerOne * unitsPerOne := Nat.mul_pos unitsPerOne_pos unitsPerOne_pos

theorem Positive.mul_mono {x' y' : Binary64} (first : x.Positive) (second : y.Positive)
    (first' : x'.Positive) (second' : y'.Positive) (le : x ≤ x') (le' : y ≤ y') :
    x * y ≤ x' * y' := by
  have unsigned := first.unsigned_mul second
  by_cases finite : x'.isFinite = true ∧ y'.isFinite = true
  · obtain ⟨some, other⟩ := finite
    have smaller := first.unsigned.isFinite_of_le first'.unsigned le some
    have smaller' := second.unsigned.isFinite_of_le second'.unsigned le' other
    have magnitudes :=
      (first.unsigned.magnitude_le_iff first'.unsigned smaller some).mpr le
    have magnitudes' :=
      (second.unsigned.magnitude_le_iff second'.unsigned smaller' other).mpr le'
    rw [first.mul_eq second smaller smaller', first'.mul_eq second' some other]
    exact nearest_mono units_pos units_pos
      (Nat.mul_le_mul_right _ (Nat.mul_le_mul magnitudes magnitudes'))
  · rw [not_and_or, Bool.not_eq_true, Bool.not_eq_true] at finite
    rw [first'.mul_infinite second' finite]
    exact unsigned.le_infinity

theorem magnitude_one : (ofNat 1).magnitude = unitsPerOne := by decide +kernel

/-- Rounding takes nothing of a product by more than one. -/
theorem Positive.le_mul (first : x.Positive) (above : ofNat 1 < y) : x ≤ x * y := by
  have second := positive_of_one_lt above
  by_cases finite : x.isFinite = true ∧ y.isFinite = true
  · obtain ⟨some, other⟩ := finite
    have larger : unitsPerOne ≤ y.magnitude := by
      have one : (ofNat 1).isFinite = true := by decide +kernel
      have order := (unsigned_ofNat 1).magnitude_le_iff second.unsigned one other
      exact magnitude_one ▸ order.mpr (le_of_lt above)
    rw [first.mul_eq second some other, first.unsigned.le_iff (unsigned_nearest _ _), bits_nearest,
      ← nearestBits_magnitude first.unsigned some units_pos
        (Nat.mul_assoc x.magnitude unitsPerOne unitsPerOne)]
    exact nearestBits_mono units_pos units_pos
      (Nat.mul_le_mul_right _ (Nat.mul_le_mul_left _ larger))
  · rw [not_and_or, Bool.not_eq_true, Bool.not_eq_true] at finite
    rw [first.mul_infinite second finite]
    exact first.unsigned.le_infinity

theorem Positive.mul (first : x.Positive) (above : ofNat 1 < y) : (x * y).Positive := by
  have second := positive_of_one_lt above
  have unsigned := first.unsigned_mul second
  have larger := (first.unsigned.le_iff unsigned).mp (first.le_mul above)
  exact ⟨unsigned, Nat.lt_of_lt_of_le first.pos larger⟩

/-! Quotients by a positive number. -/

theorem Unsigned.div_eq (unsigned : x.Unsigned) (divisor : f.Positive) (finite : x.isFinite = true)
    (finite' : f.isFinite = true) : x / f = nearest false x.magnitude f.magnitude := by
  change div x f = _
  simp [div, unsigned.isNaN_eq, divisor.unsigned.isNaN_eq, unsigned.negative_eq,
    divisor.unsigned.negative_eq, unsigned.isInfinite_eq, divisor.unsigned.isInfinite_eq,
    divisor.isZero_eq, finite, finite']

theorem Unsigned.div_infinite (unsigned : x.Unsigned) (divisor : f.Positive)
    (infinite : x.isFinite = false) (finite : f.isFinite = true) : x / f = infinity false := by
  change div x f = _
  simp [div, unsigned.isNaN_eq, divisor.unsigned.isNaN_eq, unsigned.negative_eq,
    divisor.unsigned.negative_eq, unsigned.isInfinite_eq, divisor.unsigned.isInfinite_eq, infinite,
    finite]

theorem Unsigned.unsigned_div (unsigned : x.Unsigned) (divisor : f.Positive)
    (finite : f.isFinite = true) : (x / f).Unsigned := by
  cases finite' : x.isFinite with
  | false => exact unsigned.div_infinite divisor finite' finite ▸ unsigned_infinity
  | true => exact unsigned.div_eq divisor finite' finite ▸ unsigned_nearest _ _

theorem Unsigned.div_mono (first : x.Unsigned) (second : y.Unsigned) (divisor : f.Positive)
    (finite : f.isFinite = true) (le : x ≤ y) : x / f ≤ y / f := by
  have unsigned := first.unsigned_div divisor finite
  cases large : y.isFinite with
  | false => exact second.div_infinite divisor large finite ▸ unsigned.le_infinity
  | true =>
    have small := first.isFinite_of_le second le large
    rw [first.div_eq divisor small finite, second.div_eq divisor large finite]
    have magnitudes := (first.magnitude_le_iff second small large).mpr le
    exact nearest_mono divisor.magnitude_pos divisor.magnitude_pos
      (Nat.mul_le_mul_right _ magnitudes)

/-! Exact values. -/

/-- The exact value of a finite number. -/
def toRat (x : Binary64) : ℚ :=
  (if x.negative then -1 else 1) * ((x.magnitude : ℚ) / (unitsPerOne : ℚ))

theorem Unsigned.toRat_eq (unsigned : x.Unsigned) :
    x.toRat = (x.magnitude : ℚ) / (unitsPerOne : ℚ) := by
  rw [toRat, unsigned.negative_eq, if_neg Bool.false_ne_true, one_mul]

/-- Powers that are numbers are not passed in rounding a value. -/
theorem le_magnitude_ofNat {m p v : Nat} (small : m < 2 ^ 53) (few : p ≤ 2045)
    (finite : (ofNat v).isFinite = true) :
    (m * 2 ^ p ≤ v * unitsPerOne → m * 2 ^ p ≤ (ofNat v).magnitude) ∧
      (v * unitsPerOne ≤ m * 2 ^ p → (ofNat v).magnitude ≤ m * 2 ^ p) := by
  have units : m * 2 ^ p * unitsPerOne = m * 2 ^ p * unitsPerOne := rfl
  obtain ⟨finite', power⟩ := nearest_exact small few unitsPerOne_pos units
  have unsigned := unsigned_nearest (m * 2 ^ p) unitsPerOne
  rw [← power, unsigned.magnitude_le_iff (unsigned_ofNat v) finite' finite,
    (unsigned_ofNat v).magnitude_le_iff unsigned finite finite', power]
  constructor
  · intro le
    exact nearest_mono unitsPerOne_pos Nat.one_pos (by rwa [Nat.mul_one])
  · intro le
    exact nearest_mono Nat.one_pos unitsPerOne_pos (by rwa [Nat.mul_one])

/-- Up to the limit of the significand every value is a number. -/
theorem magnitude_ofNat {v : Nat} (small : v ≤ 2 ^ 53) :
    (ofNat v).magnitude = v * unitsPerOne := by
  rcases Nat.lt_or_eq_of_le small with less | rfl
  · rw [unitsPerOne_eq]
    exact (nearest_exact less (by decide) Nat.one_pos (by rw [unitsPerOne_eq, Nat.mul_one])).2
  · decide +kernel

theorem Unsigned.magnitude_le_of_lt (unsigned : x.Unsigned) {whole : Nat} (small : whole ≤ 2 ^ 53)
    (less : x < ofNat whole) : x.magnitude ≤ whole * unitsPerOne := by
  have limit := isFinite_ofNat (Nat.lt_of_le_of_lt small (by decide))
  have finite := unsigned.isFinite_of_le (unsigned_ofNat whole) (le_of_lt less) limit
  rw [← magnitude_ofNat small, unsigned.magnitude_le_iff (unsigned_ofNat whole) finite limit]
  exact le_of_lt less

end HistorySurvey.Binary64
