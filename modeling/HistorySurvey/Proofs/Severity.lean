import HistorySurvey.Concern.Scale
import HistorySurvey.Proofs.Rounding
import Mathlib.Data.Rat.Cast.Order
import Mathlib.Data.List.Count

/-! Stars. On every scale they grow with the value and shrink as the base grows, because rounding is
monotone at every step. On the standard scale no threshold is rounded, so the stars of a value are
the powers of two that the double nearest to the value reaches. They are those that the value
itself reaches unless a threshold lies above the value and not above that double. -/
namespace HistorySurvey

open Binary64

namespace Scale

/-! Any scale. -/

theorem positive_of_baseline {baseline : Binary64} (valid : ofNat 0 < baseline) :
    baseline.Positive :=
  (unsigned_ofNat 0).positive_of_lt valid

theorem reasonable_usual (metric : Metric) :
    ofNat 0 < metric.reasonable ∧ metric.reasonable.isFinite = true := by
  cases metric <;> decide +kernel

theorem positive_reasonable (s : Scale) (metric : Metric) : (s.reasonable metric).Positive := by
  rw [reasonable]
  split
  · rename_i baseline found
    exact positive_of_baseline (s.positive baseline (List.mem_of_find?_eq_some found)).1
  · exact positive_of_baseline (reasonable_usual metric).1

theorem positive_base (s : Scale) : s.base.Positive :=
  positive_of_one_lt s.one_lt_base

theorem starsFrom_of_not_le {base value threshold : Binary64} (above : ¬ threshold ≤ value)
    (steps : Nat) : starsFrom base value steps threshold = 0 := by
  cases steps with
  | zero => rfl
  | succ steps => rw [starsFrom, if_neg above]

/-- Two runs through the thresholds side by side: where they are lower, and grow by less, a larger
value reaches at least as many. -/
theorem starsFrom_mono {base base' value value' threshold threshold' : Binary64}
    (above : ofNat 1 < base) (above' : ofNat 1 < base') (first : value.Unsigned)
    (second : value'.Unsigned) (values : value ≤ value') (bases : base' ≤ base)
    (positive : threshold.Positive) (positive' : threshold'.Positive)
    (thresholds : threshold' ≤ threshold) (steps : Nat) :
    starsFrom base value steps threshold ≤ starsFrom base' value' steps threshold' := by
  induction steps generalizing threshold threshold' with
  | zero => exact Nat.le_refl 0
  | succ steps ih =>
    rw [starsFrom]
    split
    · rename_i reached
      have lower := positive'.unsigned.le_trans positive.unsigned first thresholds reached
      have reached' := positive'.unsigned.le_trans first second lower values
      have next := positive'.mul_mono (positive_of_one_lt above') positive
        (positive_of_one_lt above) thresholds bases
      rw [starsFrom, if_pos reached']
      exact Nat.succ_le_succ (ih (positive.mul above) (positive'.mul above') next)
    · exact Nat.zero_le _

theorem severity_zero (s : Scale) (metric : Metric) : s.severity metric 0 = 0 := by
  have positive := (s.positive_reasonable metric).mul s.one_lt_base
  refine starsFrom_of_not_le (fun reached => ?_) maxStars
  have none := (positive.unsigned.le_iff (unsigned_ofNat 0)).mp reached
  have zero : (ofNat 0).bits.toNat = 0 := by decide +kernel
  have some := positive.pos
  omega

theorem severity_mono {s t : Scale} {metric : Metric}
    (baselines : t.reasonable metric = s.reasonable metric) (bases : s.base ≤ t.base) {v w : Nat}
    (values : v ≤ w) : t.severity metric v ≤ s.severity metric w := by
  have baseline := s.positive_reasonable metric
  have same : s.reasonable metric ≤ s.reasonable metric :=
    (baseline.unsigned.le_iff baseline.unsigned).mpr (Nat.le_refl _)
  rw [severity, severity, baselines]
  exact starsFrom_mono t.one_lt_base s.one_lt_base (unsigned_ofNat v) (unsigned_ofNat w)
    (ofNat_mono values) bases (baseline.mul t.one_lt_base) (baseline.mul s.one_lt_base)
    (baseline.mul_mono s.positive_base baseline t.positive_base same bases) maxStars

/-- A scale after one baseline after the other was replaced. -/
def adjusted (s : Scale) (changes : List (Metric × Binary64)) : Scale :=
  changes.foldl (fun s change => s.withBaseline change.1 change.2) s

theorem adjusted_cons (s : Scale) (change : Metric × Binary64) (rest : List (Metric × Binary64)) :
    s.adjusted (change :: rest) = (s.withBaseline change.1 change.2).adjusted rest := by
  rw [adjusted, adjusted, List.foldl_cons]

theorem base_adjusted (s : Scale) (changes : List (Metric × Binary64)) :
    (s.adjusted changes).base = s.base := by
  induction changes generalizing s with
  | nil => rfl
  | cons change rest ih =>
    rw [adjusted_cons, ih, withBaseline]
    split <;> rfl

theorem baselines_adjusted {s t : Scale} (same : t.baselines = s.baselines)
    (changes : List (Metric × Binary64)) :
    (t.adjusted changes).baselines = (s.adjusted changes).baselines := by
  induction changes generalizing s t with
  | nil => exact same
  | cons change rest ih =>
    rw [adjusted_cons, adjusted_cons]
    refine ih ?_
    rw [withBaseline, withBaseline]
    split
    · exact congrArg (change :: ·) same
    · exact same

/-- However a scale was made, no value has stars for nothing or more than the most, a larger value
has no fewer stars, and on the same scale with a larger base no value has more. -/
theorem severity_monotone (start : Scale) (changes : List (Metric × Binary64)) (metric : Metric) :
    (start.adjusted changes).severity metric 0 = 0 ∧
      (∀ v w, v ≤ w →
        (start.adjusted changes).severity metric v ≤ (start.adjusted changes).severity metric w ∧
          (start.adjusted changes).severity metric w ≤ maxStars) ∧
      ∀ other : Scale, other.baselines = start.baselines → start.base ≤ other.base → ∀ v,
        (other.adjusted changes).severity metric v ≤
          (start.adjusted changes).severity metric v := by
  refine ⟨severity_zero _ metric, fun v w values => ⟨?_, starsFrom_le ..⟩, ?_⟩
  · have base := (start.adjusted changes).positive_base.unsigned
    exact severity_mono rfl ((base.le_iff base).mpr (Nat.le_refl _)) values
  · intro other same larger v
    have baselines : (other.adjusted changes).reasonable metric =
        (start.adjusted changes).reasonable metric := by
      rw [reasonable, reasonable, baselines_adjusted same changes]
    refine severity_mono baselines ?_ (Nat.le_refl v)
    rwa [base_adjusted, base_adjusted]

theorem severity_monotone_tenfold :
    ∃ other : Scale, ofBase (.ofNat 10) = .ok other ∧ other.baselines = standard.baselines ∧
      standard.base ≤ other.base ∧
      (standard.adjusted [(.maxBlobSize, .ofNat 1000)]).severity .maxBlobSize 9999 ≤
        (standard.adjusted [(.maxBlobSize, .ofNat 1000)]).severity .maxBlobSize 100000 ∧
      (standard.adjusted [(.maxBlobSize, .ofNat 1000)]).severity .maxBlobSize 100000 = 6 ∧
      (other.adjusted [(.maxBlobSize, .ofNat 1000)]).severity .maxBlobSize 100000 ≤ 6 := by
  have valid : (Binary64.ofNat 10).isFinite = true ∧ ofNat 1 < Binary64.ofNat 10 := by
    decide +kernel
  have larger : standard.base ≤ Binary64.ofNat 10 := by decide +kernel
  have six :
      (standard.adjusted [(.maxBlobSize, .ofNat 1000)]).severity .maxBlobSize 100000 = 6 := by
    decide +kernel
  obtain ⟨other, made, base, baselines⟩ : ∃ other : Scale,
      ofBase (.ofNat 10) = .ok other ∧ other.base = .ofNat 10 ∧ other.baselines = [] :=
    ⟨_, dif_pos valid, rfl, rfl⟩
  obtain ⟨_, values, bases⟩ :=
    severity_monotone standard [(.maxBlobSize, .ofNat 1000)] .maxBlobSize
  rw [← base] at larger
  exact ⟨other, made, baselines, larger, (values 9999 100000 (by decide)).1, six,
    six ▸ bases other baselines larger 100000⟩

/-! The standard scale. -/

/-- How many powers of two, from the first on, lift a baseline up to an amount at most. -/
def powersReached (baseline amount : ℚ) : Nat :=
  (List.range' 1 maxStars).countP fun k => baseline * 2 ^ k ≤ amount

/-- Doubling rounds nothing. -/
theorem mul_standardBase {x : Binary64} (positive : x.Positive) (finite : x.isFinite = true)
    {m p : Nat} (small : m < 2 ^ 53) (few : p + 1 ≤ 2045) (power : x.magnitude = m * 2 ^ p) :
    (x * standardBase).isFinite = true ∧ (x * standardBase).magnitude = m * 2 ^ (p + 1) := by
  have two : standardBase.Positive := positive_of_one_lt standard.one_lt_base
  have doubled : standardBase.magnitude = 2 * unitsPerOne := by decide +kernel
  have exact : x.magnitude * standardBase.magnitude * unitsPerOne =
      m * 2 ^ (p + 1) * (unitsPerOne * unitsPerOne) := by
    rw [power, doubled, Nat.pow_succ]
    ring
  rw [positive.mul_eq two finite standard.base_finite]
  exact nearest_exact small few units_pos exact

theorem starsFrom_standardBase {value : Binary64} (unsigned : value.Unsigned)
    (finite : value.isFinite = true) {m p : Nat} (small : m < 2 ^ 53) (steps first : Nat)
    (few : p + first + steps ≤ 2045) {threshold : Binary64} (positive : threshold.Positive)
    (finite' : threshold.isFinite = true) (power : threshold.magnitude = m * 2 ^ (p + first)) :
    starsFrom standardBase value steps threshold =
      (List.range' first steps).countP fun k => m * 2 ^ (p + k) ≤ value.magnitude := by
  induction steps generalizing first threshold with
  | zero => rfl
  | succ steps ih =>
    have order := positive.unsigned.magnitude_le_iff unsigned finite' finite
    rw [power] at order
    by_cases reached : threshold ≤ value
    · obtain ⟨nextFinite, nextPower⟩ :=
        mul_standardBase positive finite' small (by omega) power
      have above : ofNat 1 < standardBase := standard.one_lt_base
      have next := ih (first + 1) (by omega) (positive.mul above) nextFinite nextPower
      rw [starsFrom, if_pos reached, next, List.range'_succ, List.countP_cons]
      simp [order.mpr reached]
    · rw [starsFrom_of_not_le reached, eq_comm, List.countP_eq_zero]
      intro k member
      have later : first ≤ k := (List.mem_range'_1.mp member).1
      have larger : m * 2 ^ (p + first) ≤ m * 2 ^ (p + k) :=
        Nat.mul_le_mul_left m (Nat.pow_le_pow_right Nat.two_pos (by omega))
      rw [← order] at reached
      simp only [decide_eq_true_eq]
      omega

theorem doublings_usual (metric : Metric) : metric.reasonable.doublings ≤ 2000 := by
  cases metric <;> decide +kernel

theorem severity_standard (metric : Metric) {v : Nat} (finite : (ofNat v).isFinite = true) :
    standard.severity metric v = (List.range' 1 maxStars).countP fun k =>
      metric.reasonable.magnitude * 2 ^ k ≤ (ofNat v).magnitude := by
  obtain ⟨valid, finite'⟩ := reasonable_usual metric
  have positive := positive_of_baseline valid
  have small := (fits finite').lt
  have few := doublings_usual metric
  obtain ⟨first, power⟩ := mul_standardBase positive finite' small (by omega) rfl
  have above : ofNat 1 < standardBase := standard.one_lt_base
  have counted := starsFrom_standardBase (unsigned_ofNat v) finite small maxStars 1
    (by rw [maxStars]; omega) (positive.mul above) first power
  have run : standard.severity metric v =
      starsFrom standardBase (ofNat v) maxStars (metric.reasonable * standardBase) := rfl
  simpa only [run, magnitude_eq, Nat.pow_add, Nat.mul_assoc] using counted

theorem power_le_iff (metric : Metric) (k units : Nat) :
    metric.reasonable.toRat * 2 ^ k ≤ (units : ℚ) / (unitsPerOne : ℚ) ↔
      metric.reasonable.magnitude * 2 ^ k ≤ units := by
  have positive := positive_of_baseline (reasonable_usual metric).1
  have one : (0 : ℚ) < (unitsPerOne : ℚ) := by exact_mod_cast unitsPerOne_pos
  rw [positive.unsigned.toRat_eq, div_mul_eq_mul_div, div_le_div_iff_of_pos_right one]
  exact_mod_cast Iff.rfl

theorem natCast_eq_units (v : Nat) :
    (v : ℚ) = ((v * unitsPerOne : Nat) : ℚ) / (unitsPerOne : ℚ) := by
  have one : (unitsPerOne : ℚ) ≠ 0 := by exact_mod_cast unitsPerOne_pos.ne'
  rw [Nat.cast_mul, mul_div_cancel_right₀ _ one]

/-- What a value reaches its nearest number reaches, and what that number reaches is at most twice
of what the value reaches. -/
theorem reached_nearest (metric : Metric) {v : Nat} (finite : (ofNat v).isFinite = true) {k : Nat}
    (few : k ≤ maxStars) :
    (metric.reasonable.toRat * 2 ^ k ≤ v →
        metric.reasonable.toRat * 2 ^ k ≤ (Binary64.ofNat v).toRat) ∧
      (metric.reasonable.toRat * 2 ^ (k + 1) ≤ (Binary64.ofNat v).toRat →
        metric.reasonable.toRat * 2 ^ k ≤ v) := by
  obtain ⟨valid, finite'⟩ := reasonable_usual metric
  have fit := fits finite'
  have doublings := doublings_usual metric
  rw [maxStars] at few
  obtain ⟨below, above⟩ := le_magnitude_ofNat (v := v) fit.lt
    (p := metric.reasonable.doublings + k) (by omega) finite
  rw [Nat.pow_add, ← Nat.mul_assoc, ← magnitude_eq] at below above
  rw [natCast_eq_units, (unsigned_ofNat v).toRat_eq, power_le_iff, power_le_iff, power_le_iff]
  refine ⟨below, fun reached => ?_⟩
  by_contra short
  have positive := (positive_of_baseline valid).magnitude_pos
  have gap : metric.reasonable.magnitude * 2 ^ k < metric.reasonable.magnitude * 2 ^ (k + 1) :=
    Nat.mul_lt_mul_of_pos_left (Nat.pow_lt_pow_right Nat.one_lt_two (Nat.lt_succ_self k)) positive
  have passed := above (by omega)
  omega

/-! Counting what holds along a range. -/

theorem countP_eq_iff {p q : Nat → Bool} {l : List Nat} (weaker : ∀ k ∈ l, p k → q k) :
    l.countP q = l.countP p ↔ ∀ k ∈ l, q k → p k := by
  induction l with
  | nil => simp
  | cons first rest ih =>
    obtain ⟨head, tail⟩ := List.forall_mem_cons.mp weaker
    have fewer := List.countP_mono_left tail
    rw [List.forall_mem_cons, ← ih tail, List.countP_cons, List.countP_cons]
    by_cases reached : q first = true <;> by_cases kept : p first = true
    · simp [reached, kept]
    · rw [if_pos reached, if_neg kept]
      exact iff_of_false (by omega) fun all => kept (all.1 reached)
    · exact absurd (head kept) reached
    · simp [reached, kept]

theorem countP_range'_succ_le {p q : Nat → Bool} (first steps : Nat)
    (earlier : ∀ k < first + steps, q (k + 1) → p k) :
    (List.range' (first + 1) steps).countP q ≤ (List.range' first steps).countP p := by
  induction steps generalizing first with
  | zero => exact Nat.le_refl 0
  | succ steps ih =>
    have next := ih (first + 1) fun k within => earlier k (by omega)
    rw [List.range'_succ, List.range'_succ, List.countP_cons, List.countP_cons]
    by_cases late : q (first + 1) = true
    · rw [if_pos late, if_pos (earlier first (by omega) late)]
      exact Nat.add_le_add_right next 1
    · rw [if_neg late]
      exact Nat.le_add_right_of_le next

theorem countP_range'_le_succ {p q : Nat → Bool} (first steps : Nat)
    (earlier : ∀ k < first + steps, q (k + 1) → p k) :
    (List.range' first (steps + 1)).countP q ≤
      (List.range' first (steps + 1)).countP p + 1 := by
  have shorter : (List.range' first steps).countP p ≤ (List.range' first (steps + 1)).countP p :=
    (List.range'_sublist_right.mpr (Nat.le_succ steps)).countP_le
  calc (List.range' first (steps + 1)).countP q
      = (List.range' (first + 1) steps).countP q + if q first then 1 else 0 := by
        rw [List.range'_succ, List.countP_cons]
    _ ≤ (List.range' first steps).countP p + 1 :=
        Nat.add_le_add (countP_range'_succ_le first steps earlier) (by split <;> omega)
    _ ≤ (List.range' first (steps + 1)).countP p + 1 := Nat.add_le_add_right shorter 1

/-- On the standard scale a value has a star for each power of two, up to the most stars, that the
number nearest to the value reaches. The value itself may lie below the last of these powers, but
not below the one before it, and it lies below none if it is at most `2 ^ 53`. -/
theorem severity_floor_of_nearest (metric : Metric) {v : Nat} (bound : v < 2 ^ 64) :
    standard.severity metric v =
        powersReached metric.reasonable.toRat (Binary64.ofNat v).toRat ∧
      powersReached metric.reasonable.toRat v ≤ standard.severity metric v ∧
      standard.severity metric v ≤ powersReached metric.reasonable.toRat v + 1 ∧
      (standard.severity metric v = powersReached metric.reasonable.toRat v ↔
        ∀ k ∈ List.range' 1 maxStars,
          metric.reasonable.toRat * 2 ^ k ≤ (Binary64.ofNat v).toRat →
            metric.reasonable.toRat * 2 ^ k ≤ v) ∧
      (v ≤ 2 ^ 53 → standard.severity metric v = powersReached metric.reasonable.toRat v) := by
  have finite := isFinite_ofNat bound
  have counted : standard.severity metric v =
      powersReached metric.reasonable.toRat (Binary64.ofNat v).toRat := by
    rw [severity_standard metric finite, powersReached, (unsigned_ofNat v).toRat_eq]
    simp only [power_le_iff]
  have within {k : Nat} (member : k ∈ List.range' 1 maxStars) : k ≤ maxStars := by
    have range := (List.mem_range'_1.mp member).2
    omega
  have weaker : ∀ k ∈ List.range' 1 maxStars, decide (metric.reasonable.toRat * 2 ^ k ≤ v) →
      decide (metric.reasonable.toRat * 2 ^ k ≤ (Binary64.ofNat v).toRat) := by
    intro k member
    rw [decide_eq_true_eq, decide_eq_true_eq]
    exact (reached_nearest metric finite (within member)).1
  rw [counted]
  refine ⟨rfl, List.countP_mono_left weaker, ?_, ?_, fun small => ?_⟩
  · refine countP_range'_le_succ 1 (maxStars - 1) fun k less => ?_
    rw [decide_eq_true_eq, decide_eq_true_eq]
    exact (reached_nearest metric finite (by rw [maxStars] at less ⊢; omega)).2
  · rw [powersReached, powersReached, countP_eq_iff weaker]
    simp only [decide_eq_true_eq]
  · rw [(unsigned_ofNat v).toRat_eq, magnitude_ofNat small, ← natCast_eq_units]

theorem severity_floor_of_nearest_inexact :
    10485760000000001 < 2 ^ 64 ∧
      standard.severity .blobBytes 10485760000000001 =
        powersReached Metric.blobBytes.reasonable.toRat ((10485760000000001 : Nat) : ℚ) ∧
      standard.severity .blobBytes 10485760000000001 = 20 := by
  have bound : 10485760000000001 < 2 ^ 64 := by decide
  have apart : ∀ k ∈ List.range' 1 maxStars,
      Metric.blobBytes.reasonable.toRat * 2 ^ k ≤ (Binary64.ofNat 10485760000000001).toRat →
        Metric.blobBytes.reasonable.toRat * 2 ^ k ≤ ((10485760000000001 : Nat) : ℚ) := by
    decide +kernel
  obtain ⟨_, _, _, floor, _⟩ := severity_floor_of_nearest .blobBytes bound
  exact ⟨bound, floor.mpr apart, by decide +kernel⟩

/-- Just below a threshold that is far up, values are rounded to it and get its star. -/
theorem severity_above_floor :
    standard.severity .blobBytes 10485759999999999 = 20 ∧
      powersReached Metric.blobBytes.reasonable.toRat 10485759999999999 = 19 := by
  decide +kernel

end Scale

end HistorySurvey
