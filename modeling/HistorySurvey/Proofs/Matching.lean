import Mathlib.Data.Nat.Bitwise
import HistorySurvey.Regex.Basic

/-! What it means that a regular expression matches a part of a text, and that the sets of places
through which a match is looked for say just that. -/
namespace HistorySurvey.Regex

/-- So many steps in a row lead from one place to another. -/
def Rounds (step : Nat → Nat → Prop) : Nat → Nat → Nat → Prop
  | 0, i, j => i = j
  | n + 1, i, j => ∃ k, step i k ∧ Rounds step n k j

/-- An expression matches a text from one place to another. A repetition takes the rounds that it
has to and then some more, up to its bound. -/
def Matches (text : Text) : Regex → Nat → Nat → Prop
  | .empty, i, j => i = j
  | .set characters, i, j => (∃ c, text[i]? = some c ∧ characters.contains c = true) ∧ j = i + 1
  | .look condition, i, j => condition.holds text i = true ∧ i = j
  | .concat first second, i, j => ∃ k, Matches text first i k ∧ Matches text second k j
  | .either first second, i, j => Matches text first i j ∨ Matches text second i j
  | .repeated regex min max, i, j => ∃ more, (∀ limit ∈ max, more ≤ limit - min) ∧
      Rounds (Matches text regex) (min + more) i j
  | .capture regex, i, j => Matches text regex i j

/-- An expression matches a text from its first to its last character. -/
def MatchesWhole (regex : Regex) (text : String) : Prop :=
  let characters := text.toList.toArray
  Matches characters regex 0 characters.size

variable {step : Nat → Nat → Prop}

theorem rounds_add (m n i j : Nat) :
    Rounds step (m + n) i j ↔ ∃ k, Rounds step m i k ∧ Rounds step n k j := by
  induction m generalizing i with
  | zero => simp [Rounds]
  | succ m ih =>
    rw [Nat.succ_add, Rounds]
    simp only [ih, Rounds]
    constructor
    · rintro ⟨h, first, k, some, more⟩
      exact ⟨k, ⟨h, first, some⟩, more⟩
    · rintro ⟨k, ⟨h, first, some⟩, more⟩
      exact ⟨h, first, k, some, more⟩

/-- Steps go on in a text of this length, or they stay where they are. -/
def Forward (size : Nat) (step : Nat → Nat → Prop) : Prop :=
  ∀ i j, step i j → i ≤ j ∧ (i < j → j ≤ size)

theorem Forward.rounds {size : Nat} (forward : Forward size step) (n : Nat) :
    Forward size (Rounds step n) := by
  induction n with
  | zero =>
    rintro i j rfl
    exact ⟨Nat.le_refl _, fun more => absurd more (Nat.lt_irrefl _)⟩
  | succ n ih =>
    rintro i j ⟨k, first, more⟩
    have one := forward i k first
    have others := ih k j more
    omega

/-- Rounds that stay where they are can be left out. -/
theorem Forward.exists_few {size : Nat} (forward : Forward size step) {n i j : Nat}
    (rounds : Rounds step n i j) : ∃ m ≤ j - i, Rounds step m i j := by
  induction n generalizing i with
  | zero => exact ⟨0, Nat.zero_le _, rounds⟩
  | succ n ih =>
    obtain ⟨k, first, more⟩ := rounds
    obtain ⟨m, few, rest⟩ := ih more
    rcases Nat.eq_or_lt_of_le (forward i k first).1 with rfl | less
    · exact ⟨m, few, rest⟩
    · have further := (forward.rounds n k j more).1
      exact ⟨m + 1, by omega, k, first, rest⟩

theorem forward_matches (text : Text) (regex : Regex) : Forward text.size (Matches text regex) := by
  induction regex with
  | empty =>
    rintro i j rfl
    exact ⟨Nat.le_refl _, fun more => absurd more (Nat.lt_irrefl _)⟩
  | set characters =>
    rintro i j ⟨⟨c, here, _⟩, rfl⟩
    have inside := (Array.getElem?_eq_some_iff.mp here).1
    omega
  | look condition =>
    rintro i j ⟨_, rfl⟩
    exact ⟨Nat.le_refl _, fun more => absurd more (Nat.lt_irrefl _)⟩
  | concat first second before after =>
    rintro i j ⟨k, left, right⟩
    have one := before i k left
    have other := after k j right
    omega
  | either first second left right =>
    rintro i j (one | other)
    · exact left i j one
    · exact right i j other
  | repeated regex min max ih =>
    rintro i j ⟨more, _, rounds⟩
    exact ih.rounds _ i j rounds
  | capture regex ih => exact ih

/-! Sets of places. -/

namespace Places

private theorem testBit_foldl (keep : Nat → Bool) (order : List Nat) (kept : Places) (place : Nat) :
    (order.foldl (fun kept place => if keep place then kept ||| 1 <<< place else kept)
      kept).testBit place = true ↔
      kept.testBit place = true ∨ place ∈ order ∧ keep place = true := by
  induction order generalizing kept with
  | nil => simp
  | cons next rest ih =>
    rw [List.foldl_cons, ih]
    by_cases here : keep next = true
    · rw [if_pos here, Nat.testBit_or, Nat.one_shiftLeft, Nat.testBit_two_pow]
      grind
    · rw [if_neg here]
      grind

theorem testBit_filter_iff (property : Nat → Bool) (places : Places) (place : Nat) :
    (filter property places).testBit place = true ↔
      places.testBit place = true ∧ property place = true := by
  rw [filter, testBit_foldl (fun place => places.testBit place && property place)]
  have inside (member : places.testBit place = true) : place < places.log2 + 1 := by
    have large := Nat.ge_two_pow_of_testBit member
    have some : places ≠ 0 := by
      rintro rfl
      simp at member
    exact Nat.lt_succ_of_le ((Nat.le_log2 some).mpr large)
  rw [Nat.zero_testBit, Bool.and_eq_true, List.mem_range]
  constructor
  · rintro (nothing | ⟨_, kept⟩)
    · contradiction
    · exact kept
  · exact fun kept => .inr ⟨inside kept.1, kept⟩

/-- From a set of places a map gives the set of those to which a step leads. -/
def Leads (map : Places → Places) (step : Nat → Nat → Prop) : Prop :=
  ∀ places j, (map places).testBit j = true ↔ ∃ i, places.testBit i = true ∧ step i j

variable {map : Places → Places}

theorem Leads.rounds_succ (leads : Leads map step) (n : Nat) (places : Places) (j : Nat) :
    (∃ i, places.testBit i = true ∧ Rounds step (n + 1) i j) ↔
      ∃ k, (map places).testBit k = true ∧ Rounds step n k j := by
  constructor
  · rintro ⟨i, inside, k, first, more⟩
    exact ⟨k, (leads places k).mpr ⟨i, inside, first⟩, more⟩
  · rintro ⟨k, reached, more⟩
    obtain ⟨i, inside, first⟩ := (leads places k).mp reached
    exact ⟨i, inside, k, first, more⟩

private theorem iterate_fixed {places : Places} (same : map places = places) (n : Nat) :
    iterate map n places = places := by
  cases n with
  | zero => rfl
  | succ n => exact if_pos same

theorem Leads.iterate (leads : Leads map step) (n : Nat) :
    Leads (Places.iterate map n) (Rounds step n) := by
  intro places j
  induction n generalizing places with
  | zero => simp [Places.iterate, Rounds]
  | succ n ih =>
    rw [leads.rounds_succ, ← ih, Places.iterate]
    split
    · rename_i same
      rw [same, iterate_fixed same]
    · rfl

/-- Places from which one round leads nowhere else are never left. -/
private theorem Leads.mem_of_closed (leads : Leads map step) {places : Places}
    (closed : map places ||| places = places) {n i j : Nat} (inside : places.testBit i = true)
    (rounds : Rounds step n i j) : places.testBit j = true := by
  induction n generalizing i with
  | zero => exact rounds ▸ inside
  | succ n ih =>
    obtain ⟨k, first, more⟩ := rounds
    refine ih ?_ more
    rw [← closed, Nat.testBit_or, (leads places k).mpr ⟨i, inside, first⟩, Bool.true_or]

theorem Leads.reached (leads : Leads map step) (n : Nat) :
    Leads (Places.reached map n) fun i j => ∃ m ≤ n, Rounds step m i j := by
  intro places j
  have start {places : Places} (inside : places.testBit j = true) (n : Nat) :
      ∃ i, places.testBit i = true ∧ ∃ m ≤ n, Rounds step m i j :=
    ⟨j, inside, 0, Nat.zero_le n, rfl⟩
  induction n generalizing places with
  | zero =>
    refine ⟨fun inside => start inside 0, ?_⟩
    rintro ⟨i, inside, m, none, rounds⟩
    obtain rfl := Nat.le_zero.mp none
    exact rounds ▸ inside
  | succ n ih =>
    rw [Places.reached]
    split
    · rename_i closed
      refine ⟨fun inside => start inside _, ?_⟩
      rintro ⟨i, inside, m, _, rounds⟩
      exact leads.mem_of_closed closed inside rounds
    · have later : _ ↔ _ := ih (map places)
      rw [Nat.testBit_or, Bool.or_eq_true, later]
      constructor
      · rintro (inside | ⟨i, next, m, few, rounds⟩)
        · exact start inside _
        · obtain ⟨h, inside, rounds⟩ := (leads.rounds_succ m places j).mpr ⟨i, next, rounds⟩
          exact ⟨h, inside, m + 1, by omega, rounds⟩
      · rintro ⟨i, inside, m, few, rounds⟩
        cases m with
        | zero => exact .inl (rounds ▸ inside)
        | succ m =>
          obtain ⟨k, next, rounds⟩ := (leads.rounds_succ m places j).mp ⟨i, inside, rounds⟩
          exact .inr ⟨k, next, m, by omega, rounds⟩

end Places

open Places

/-- The places to which an expression leads are those where its matches end. -/
theorem leads_ends (text : Text) (regex : Regex) :
    Leads (ends text regex) (Matches text regex) := by
  induction regex with
  | empty =>
    intro places j
    simp [ends, Matches]
  | set characters =>
    intro places j
    rw [ends, Nat.testBit_shiftLeft, Bool.and_eq_true, testBit_filter_iff, decide_eq_true_eq,
      Option.any_eq_true]
    constructor
    · rintro ⟨positive, inside, c, here, member⟩
      exact ⟨j - 1, inside, ⟨c, here, member⟩, by omega⟩
    · rintro ⟨i, inside, ⟨c, here, member⟩, rfl⟩
      exact ⟨Nat.le_add_left 1 i, inside, c, here, member⟩
  | look condition =>
    intro places j
    rw [ends, testBit_filter_iff]
    constructor
    · rintro ⟨inside, holds⟩
      exact ⟨j, inside, holds, rfl⟩
    · rintro ⟨i, inside, holds, rfl⟩
      exact ⟨inside, holds⟩
  | concat first second before after =>
    intro places j
    rw [ends, after]
    simp only [before _, Matches]
    constructor
    · rintro ⟨k, ⟨i, inside, left⟩, right⟩
      exact ⟨i, inside, k, left, right⟩
    · rintro ⟨i, inside, k, left, right⟩
      exact ⟨k, ⟨i, inside, left⟩, right⟩
  | either first second left right =>
    intro places j
    rw [ends, Nat.testBit_or, Bool.or_eq_true, left, right]
    simp only [Matches, and_or_left, exists_or]
  | repeated regex min max ih =>
    intro places j
    have every (n : Nat) :
        (reached (ends text regex) n (iterate (ends text regex) min places)).testBit j = true ↔
          ∃ i, places.testBit i = true ∧
            ∃ more ≤ n, Rounds (Matches text regex) (min + more) i j := by
      rw [ih.reached n]
      simp only [ih.iterate min _, rounds_add]
      constructor
      · rintro ⟨k, ⟨i, inside, first⟩, more, few, rest⟩
        exact ⟨i, inside, more, few, k, first, rest⟩
      · rintro ⟨i, inside, more, few, k, first, rest⟩
        exact ⟨k, ⟨i, inside, first⟩, more, few, rest⟩
    cases max with
    | some limit =>
      refine (every (limit - min)).trans ?_
      simp [Matches]
    | none =>
      refine (every (text.size + 1)).trans (exists_congr fun i => and_congr_right fun _ => ?_)
      simp only [Matches, Option.mem_def, reduceCtorEq, false_implies, implies_true, true_and]
      refine ⟨fun ⟨more, _, rounds⟩ => ⟨more, rounds⟩, fun ⟨more, rounds⟩ => ?_⟩
      -- Rounds that get nowhere are dropped, and the others are no more than the characters.
      obtain ⟨k, first, rest⟩ := (rounds_add min more i j).mp rounds
      obtain ⟨m, few, fewer⟩ := (forward_matches text regex).exists_few rest
      have inside := ((forward_matches text regex).rounds more k j rest)
      exact ⟨m, by omega, (rounds_add min m i j).mpr ⟨k, first, fewer⟩⟩
  | capture regex ih => exact ih

/-- An expression that is not bound to a place may match anywhere in the text. -/
theorem isMatch_iff (regex : Regex) (text : String) :
    regex.isMatch text = true ↔ ∃ i ≤ text.toList.toArray.size, ∃ j,
      Matches text.toList.toArray regex i j := by
  have everywhere (i : Nat) :
      (all text.toList.toArray).testBit i = true ↔ i ≤ text.toList.toArray.size := by
    rw [all, Nat.one_shiftLeft, Nat.testBit_two_pow_sub_one, decide_eq_true_eq, Nat.lt_succ_iff]
  have leads := leads_ends text.toList.toArray regex (all text.toList.toArray)
  simp only [everywhere] at leads
  rw [isMatch, bne_iff_ne]
  constructor
  · intro some
    by_contra none
    refine some (Nat.zero_of_testBit_eq_false fun j => ?_)
    rw [Bool.eq_false_iff, ne_eq, leads]
    exact fun ⟨i, inside, matched⟩ => none ⟨i, inside, j, matched⟩
  · rintro ⟨i, inside, j, matched⟩ nothing
    have ending := (leads j).mpr ⟨i, inside, matched⟩
    rw [nothing, Nat.zero_testBit] at ending
    contradiction

private theorem textStart_holds (text : Text) {i : Nat} (inside : i ≤ text.size)
    (holds : Look.textStart.holds text i = true) : i = 0 := by
  by_contra positive
  have before : i - 1 < text.size := by omega
  simp [Look.holds, before?, Nat.pos_of_ne_zero positive, before] at holds

private theorem textEnd_holds_iff (text : Text) (i : Nat) :
    Look.textEnd.holds text i = true ↔ text.size ≤ i := by
  simp [Look.holds, after?]

/-- Bound to both ends of a text, an expression has to match all of it. -/
theorem isMatch_bound (regex : Regex) (text : String) :
    isMatch (.concat (.look .textStart) (.concat regex (.look .textEnd))) text = true ↔
      regex.MatchesWhole text := by
  rw [isMatch_iff]
  constructor
  · rintro ⟨i, inside, j, _, ⟨start, rfl⟩, k, matched, stop, rfl⟩
    obtain rfl := textStart_holds _ inside start
    have last := (textEnd_holds_iff _ k).mp stop
    have forward := forward_matches _ regex 0 k matched
    obtain rfl : k = text.toList.toArray.size := by omega
    exact matched
  · intro whole
    exact ⟨0, Nat.zero_le _, _, 0, ⟨rfl, rfl⟩, _, whole,
      (textEnd_holds_iff _ _).mpr (Nat.le_refl _), rfl⟩

end HistorySurvey.Regex
