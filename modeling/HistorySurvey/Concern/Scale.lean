import HistorySurvey.Binary64.Decimal
import HistorySurvey.Concern.Metric

/-! The level of concern. A value earns a star for every factor of the base by which it is over the
baseline of its metric, so stars compare across metrics. -/
namespace HistorySurvey

def maxStars : Nat := 30

structure Scale where
  base : Binary64
  base_finite : base.isFinite = true
  one_lt_base : Binary64.ofNat 1 < base
  /-- Baselines that differ from the usual ones; the first for a metric counts. -/
  baselines : List (Metric × Binary64)
  positive : ∀ b ∈ baselines, Binary64.ofNat 0 < b.2 ∧ b.2.isFinite = true

namespace Scale

structure InvalidBase where
  base : Binary64

def InvalidBase.message (e : InvalidBase) : String :=
  "invalid severity base " ++ Text.quoted e.base.plainText ++ ": expected a number greater than 1"

def ofBase (base : Binary64) : Except InvalidBase Scale :=
  if valid : base.isFinite = true ∧ Binary64.ofNat 1 < base then
    .ok { base := base
          base_finite := valid.1
          one_lt_base := valid.2
          baselines := []
          positive := by simp }
  else .error ⟨base⟩

/-- One star for each doubling. -/
def standardBase : Binary64 := Binary64.ofNat 2

def standard : Scale :=
  { base := standardBase
    base_finite := by decide +kernel
    one_lt_base := by decide +kernel
    baselines := []
    positive := by simp }

instance : Inhabited Scale := ⟨standard⟩

/-- Replaces the baseline of a metric. What is not a positive number is no baseline and changes
nothing. -/
def withBaseline (s : Scale) (metric : Metric) (baseline : Binary64) : Scale :=
  if valid : Binary64.ofNat 0 < baseline ∧ baseline.isFinite = true then
    { s with
      baselines := (metric, baseline) :: s.baselines
      positive := by
        intro b member
        rcases List.mem_cons.mp member with rfl | earlier
        · exact valid
        · exact s.positive b earlier }
  else s

def reasonable (s : Scale) (metric : Metric) : Binary64 :=
  match s.baselines.find? (·.1 = metric) with
  | some baseline => baseline.2
  | none => metric.reasonable

def level (s : Scale) (metric : Metric) (value : Nat) : Binary64 :=
  .ofNat value / s.reasonable metric

/-- How many of the next thresholds a value reaches in a row, each the one before times the base. -/
def starsFrom (base value : Binary64) : Nat → Binary64 → Nat
  | 0, _ => 0
  | steps + 1, threshold =>
    if threshold ≤ value then starsFrom base value steps (threshold * base) + 1 else 0

theorem starsFrom_le (base value : Binary64) (steps : Nat) (threshold : Binary64) :
    starsFrom base value steps threshold ≤ steps := by
  induction steps generalizing threshold with
  | zero => exact Nat.le_refl 0
  | succ steps ih =>
    rw [starsFrom]
    split
    · exact Nat.succ_le_succ (ih _)
    · exact Nat.zero_le _

/-- Stars count powers of the base and take no logarithm. What is compared with the powers is the
number nearest to the value. -/
def severity (s : Scale) (metric : Metric) (value : Nat) : Nat :=
  starsFrom s.base (.ofNat value) maxStars (s.reasonable metric * s.base)

end Scale

end HistorySurvey
