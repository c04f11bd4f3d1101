import Mathlib.Data.List.Induction
import HistorySurvey.Proofs.Shelving

/-! What a shelf holds after any sequence of calls. Each call touches the place of one id only, so the
place of an id tells the calls that named it: the first put fills it, later puts find it taken, and
uses and releases after it empty it once and for all. -/
namespace HistorySurvey.Shelf

/-- A call that may change a shelf. -/
inductive Call
  | put (id : ObjectId) (m : Measure) (uses : Option Nat)
  | consume (id : ObjectId)
  | release (id : ObjectId)
  deriving DecidableEq

/-- A place whose measure was taken away. -/
def withdrawn (place : Place) : Place := ⟨none, place.remaining⟩

namespace Call

def apply (s : Shelf) : Call → Shelf
  | put id m uses => s.put id m uses
  | consume id => s.consume id
  | release id => s.release id

def putId? : Call → Option ObjectId
  | put id _ _ => some id
  | _ => none

/-- What a call does to the place of an id. -/
def on (id : ObjectId) (place : Option Place) : Call → Option Place
  | put other m uses => if other = id then place <|> some (placeAfter uses m 0) else place
  | consume other => if other = id then place.map usedOnce else place
  | release other => if other = id then place.map withdrawn else place

end Call

/-- The shelf after some calls, the first one first. -/
def after (calls : List Call) : Shelf := calls.foldl Call.apply empty

/-- The ids of the puts among some calls. -/
def putIds (calls : List Call) : List ObjectId := calls.filterMap Call.putId?

theorem after_concat (calls : List Call) (call : Call) :
    after (calls ++ [call]) = call.apply (after calls) := by
  rw [after, List.foldl_append]
  rfl

theorem putIds_concat (calls : List Call) (call : Call) :
    putIds (calls ++ [call]) = putIds calls ++ call.putId?.toList := by
  rw [putIds, List.filterMap_append]
  cases call <;> rfl

/-! One call. -/

theorem places_apply (s : Shelf) (call : Call) (id : ObjectId) :
    (call.apply s).places[id]? = call.on id s.places[id]? := by
  cases call with
  | put other m uses =>
    rw [Call.apply, Call.on]
    cases known : s.isFinalized other with
    | true =>
      rw [put_of_known known]
      split
      · rename_i same
        subst same
        obtain ⟨place, found⟩ := Option.ne_none_iff_exists'.mp ((isFinalized_iff s other).mp known)
        rw [found]
        rfl
      · rfl
    | false =>
      rw [places_put known]
      split
      · rename_i same
        subst same
        rw [Std.HashMap.getElem?_eq_none_of_contains_eq_false known]
        rfl
      · rfl
  | consume other => exact places_consume s other id
  | release other => exact places_release s other id

theorem isFinalized_release (s : Shelf) (id other : ObjectId) :
    (s.release id).isFinalized other = s.isFinalized other := by
  rw [Bool.eq_iff_iff, isFinalized_iff, isFinalized_iff, places_release]
  split <;> simp

theorem isFinalized_apply (s : Shelf) (call : Call) (id : ObjectId) :
    (call.apply s).isFinalized id = true ↔ s.isFinalized id = true ∨ call.putId? = some id := by
  cases call with
  | put other m uses =>
    rw [Call.apply, isFinalized_put, Bool.or_eq_true, beq_iff_eq]
    simp [Call.putId?]
  | consume other => simp [Call.apply, Call.putId?]
  | release other => simp [Call.apply, Call.putId?, isFinalized_release]

theorem Counted.apply {s : Shelf} (counted : s.Counted) (call : Call) : (call.apply s).Counted := by
  cases call with
  | put id m uses => exact counted.put id m uses
  | consume id => exact counted.consume id
  | release id => exact counted.release id

theorem size_of_contains {s : Shelf} {id : ObjectId} {place other : Place}
    (found : s.places[id]? = some place) : (s.places.insert id other).size = s.places.size := by
  have inside : id ∈ s.places := by
    rw [Std.HashMap.mem_iff_isSome_getElem?, found]
    rfl
  rw [Std.HashMap.size_insert, if_pos inside]

theorem size_release (s : Shelf) (id : ObjectId) : (s.release id).size = s.size := by
  unfold release
  split
  · rename_i found
    exact size_of_contains found
  · rfl

theorem size_consume (s : Shelf) (id : ObjectId) : (s.consume id).size = s.size := by
  unfold consume
  split
  · rename_i found
    dsimp only
    split
    · rw [size_release]
      exact size_of_contains found
    · exact size_of_contains found
  · rfl

theorem size_put (s : Shelf) (id : ObjectId) (m : Measure) (uses : Option Nat) :
    (s.put id m uses).size = if s.isFinalized id = true then s.size else s.size + 1 := by
  cases known : s.isFinalized id with
  | true => rw [put_of_known known, if_pos rfl]
  | false =>
    have outside : id ∉ s.places := fun inside => by
      rw [isFinalized, Std.HashMap.contains_eq_false_iff_not_mem] at known
      exact known inside
    unfold put accepts
    rw [known, if_neg Bool.false_ne_true, Bool.not_false, if_pos rfl]
    split <;> simp only [size, Std.HashMap.size_insert, outside, if_false]

/-! Sequences of calls. -/

theorem places_after (calls : List Call) (id : ObjectId) :
    (after calls).places[id]? = calls.foldl (Call.on id) none := by
  induction calls using List.reverseRecOn with
  | nil => exact places_empty id
  | append_singleton calls call ih =>
    rw [after_concat, places_apply, ih, List.foldl_append]
    rfl

theorem isFinalized_after (calls : List Call) (id : ObjectId) :
    (after calls).isFinalized id = true ↔ id ∈ putIds calls := by
  induction calls using List.reverseRecOn with
  | nil => simp [after, putIds, isFinalized, empty]
  | append_singleton calls call ih =>
    rw [after_concat, isFinalized_apply, ih, putIds_concat, List.mem_append, Option.mem_toList]

theorem accepts_after (calls : List Call) (id : ObjectId) :
    (after calls).accepts id = true ↔ id ∉ putIds calls := by
  rw [accepts, Bool.not_eq_true', ← isFinalized_after, Bool.not_eq_true]

/-- What an id has before its first put cannot be told from nothing. -/
theorem foldl_on_none {calls : List Call} {id : ObjectId} (unput : id ∉ putIds calls) :
    calls.foldl (Call.on id) none = none := by
  rw [← places_after]
  refine Std.HashMap.getElem?_eq_none_of_contains_eq_false (Bool.eq_false_iff.mpr fun known => ?_)
  exact unput ((isFinalized_after calls id).mp known)

theorem places_after_append {before : List Call} {id : ObjectId} (unput : id ∉ putIds before)
    (rest : List Call) : (after (before ++ rest)).places[id]? = (after rest).places[id]? := by
  rw [places_after, places_after, List.foldl_append, foldl_on_none unput]

theorem counted_after (calls : List Call) : (after calls).Counted := by
  induction calls using List.reverseRecOn with
  | nil => exact counted_empty
  | append_singleton calls call ih =>
    rw [after_concat]
    exact ih.apply call

theorem size_after (calls : List Call) : (after calls).size = (putIds calls).toFinset.card := by
  induction calls using List.reverseRecOn with
  | nil => rfl
  | append_singleton calls call ih =>
    rw [after_concat, putIds_concat]
    cases call with
    | put id m uses =>
      have ids : (putIds calls ++ [id]).toFinset = insert id (putIds calls).toFinset := by
        rw [List.toFinset_append, Finset.union_comm]
        rfl
      rw [Call.apply, size_put, Call.putId?, Option.toList_some, ids, ih]
      by_cases known : id ∈ putIds calls
      · rw [if_pos ((isFinalized_after calls id).mpr known),
          Finset.insert_eq_of_mem (List.mem_toFinset.mpr known)]
      · rw [if_neg fun finalized => known ((isFinalized_after calls id).mp finalized),
          Finset.card_insert_of_notMem fun member => known (List.mem_toFinset.mp member)]
    | consume id =>
      rw [Call.apply, size_consume, ih]
      simp [Call.putId?]
    | release id =>
      rw [Call.apply, size_release, ih]
      simp [Call.putId?]

/-! The place of an id after its first put. -/

/-- The place of a measure that was put, when some calls came after that. -/
def placeThrough (id : ObjectId) (m : Measure) (uses : Option Nat) (later : List Call) : Place :=
  let place := placeAfter uses m (later.count (.consume id))
  if .release id ∈ later then withdrawn place else place

theorem usedOnce_withdrawn (place : Place) :
    usedOnce (withdrawn place) = withdrawn (usedOnce place) := by
  obtain ⟨m, _ | remaining⟩ := place
  · rfl
  · simp [usedOnce, withdrawn]

theorem on_placeThrough (id : ObjectId) (m : Measure) (uses : Option Nat) (later : List Call)
    (call : Call) : call.on id (some (placeThrough id m uses later)) =
      some (placeThrough id m uses (later ++ [call])) := by
  unfold placeThrough
  dsimp only
  rw [List.count_append, List.count_singleton]
  cases call with
  | put other n times => simp [Call.on]
  | consume other =>
    rw [Call.on]
    by_cases same : other = id
    · subst same
      simp only [if_true, Option.map_some, beq_self_eq_true, List.mem_append, List.mem_singleton,
        reduceCtorEq, or_false, ← usedOnce_placeAfter]
      split
      · rw [usedOnce_withdrawn]
      · rfl
    · simp [same]
  | release other =>
    rw [Call.on]
    by_cases same : other = id
    · subst same
      simp only [if_true, Option.map_some, List.mem_append, List.mem_singleton, or_true]
      split <;> simp [withdrawn]
    · simp [same, Ne.symm same]

theorem foldl_on_placed (id : ObjectId) (m : Measure) (uses : Option Nat) (later : List Call) :
    later.foldl (Call.on id) (some (placeAfter uses m 0)) = some (placeThrough id m uses later) := by
  induction later using List.reverseRecOn with
  | nil => rfl
  | append_singleton later call ih =>
    rw [List.foldl_append, ih, List.foldl_cons, List.foldl_nil, on_placeThrough]

/-- The first put of an id: what was put for how many uses, and the calls after it. -/
def firstPut? (id : ObjectId) : List Call → Option (Measure × Option Nat × List Call)
  | .put other m uses :: later => if other = id then some (m, uses, later) else firstPut? id later
  | _ :: later => firstPut? id later
  | [] => none

theorem places_eq_firstPut? (calls : List Call) (id : ObjectId) :
    (after calls).places[id]? =
      (firstPut? id calls).map fun put => placeThrough id put.1 put.2.1 put.2.2 := by
  rw [places_after]
  induction calls with
  | nil => rfl
  | cons call later ih =>
    rw [List.foldl_cons]
    cases call with
    | put other m uses =>
      rw [Call.on, firstPut?]
      split
      · exact foldl_on_placed id m uses later
      · exact ih
    | consume other =>
      rw [Call.on, Option.map_none, ite_self]
      exact ih
    | release other =>
      rw [Call.on, Option.map_none, ite_self]
      exact ih

/-- A measure stays until it is released or used up. -/
def Stays (id : ObjectId) (uses : Option Nat) (later : List Call) : Prop :=
  .release id ∉ later ∧ ∀ n ∈ uses, later.count (.consume id) < n

instance (id : ObjectId) (uses : Option Nat) (later : List Call) : Decidable (Stays id uses later) :=
  inferInstanceAs (Decidable (_ ∧ _))

theorem measure_placeThrough (id : ObjectId) (m : Measure) (uses : Option Nat) (later : List Call) :
    (placeThrough id m uses later).measure = if Stays id uses later then some m else none := by
  unfold placeThrough
  dsimp only
  by_cases released : .release id ∈ later
  · rw [if_pos released, if_neg fun stays : Stays id uses later => stays.1 released]
    rfl
  · rw [if_neg released, measure_placeAfter]
    exact if_congr (and_iff_right released).symm rfl rfl

/-- Every id is put once: later puts change nothing, and what is called before the first one leaves
no trace. Its measure is there until it is released or was used as often as the first put said, the
measures are counted without the count ever falling below them, and every place is counted. -/
theorem after_write_once (calls : List Call) :
    (∀ id, (after calls).isFinalized id = true ↔ id ∈ putIds calls) ∧
    (∀ id, (after calls).accepts id = true ↔ id ∉ putIds calls) ∧
    (∀ id m uses, id ∈ putIds calls → (after calls).put id m uses = after calls) ∧
    (∀ id, (after calls).get? id = (firstPut? id calls).bind fun (m, uses, later) =>
      if Stays id uses later then some m else none) ∧
    (∀ before later id, calls = before ++ later → id ∉ putIds before →
      (after calls).places[id]? = (after later).places[id]?) ∧
    (after calls).live = {id | ((after calls).get? id).isSome = true}.ncard ∧
    (∀ id, ((after calls).get? id).isSome = true → 0 < (after calls).live) ∧
    (after calls).size = (putIds calls).toFinset.card := by
  refine ⟨isFinalized_after calls, accepts_after calls, fun id m uses known => ?_, fun id => ?_,
    ?_, (counted_after calls).live_eq, fun id held => ?_, size_after calls⟩
  · exact put_of_known ((isFinalized_after calls id).mpr known) m uses
  · rw [get?, places_eq_firstPut?, Option.bind_map]
    exact Option.bind_congr fun put _ => measure_placeThrough id put.1 put.2.1 put.2.2
  · rintro before later id rfl unput
    exact places_after_append unput later
  · obtain ⟨ids, _, listed, live⟩ := counted_after calls
    rw [live]
    exact List.length_pos_of_mem ((listed id).mpr held)

/-- A measure that is used before it is put, put again, and used once of two times, and one that is
released. -/
def reusedCalls : List Call :=
  [.consume (.ofNat 1), .put (.ofNat 1) (.blob 9) (some 2), .put (.ofNat 1) (.blob 5) none,
    .consume (.ofNat 1), .put (.ofNat 2) (.blob 7) none, .release (.ofNat 2)]

theorem after_write_once_reused :
    .ofNat 1 ∈ putIds reusedCalls ∧ .ofNat 1 ∉ putIds (reusedCalls.take 1) ∧
    (after reusedCalls).put (.ofNat 1) (.blob 5) none = after reusedCalls ∧
    (after reusedCalls).places[ObjectId.ofNat 1]? =
      (after (reusedCalls.drop 1)).places[ObjectId.ofNat 1]? ∧
    (after reusedCalls).get? (.ofNat 1) = some (.blob 9) ∧
    (after reusedCalls).get? (.ofNat 2) = none ∧
    0 < (after reusedCalls).live ∧ (after reusedCalls).size = 2 := by
  have known : .ofNat 1 ∈ putIds reusedCalls := by decide
  have unput : .ofNat 1 ∉ putIds (reusedCalls.take 1) := by decide
  obtain ⟨_, _, again, get, before, _, positive, size⟩ := after_write_once reusedCalls
  have held : (after reusedCalls).get? (.ofNat 1) = some (.blob 9) := by
    rw [get]
    decide
  refine ⟨known, unput, again _ _ _ known, before _ _ _ rfl unput, held, ?_,
    positive (.ofNat 1) (by rw [held]; rfl), ?_⟩
  · rw [get]
    decide
  · rw [size]
    decide

end HistorySurvey.Shelf
