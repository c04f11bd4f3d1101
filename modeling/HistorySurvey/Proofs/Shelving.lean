import Mathlib.Data.Set.Card
import HistorySurvey.Assembly.Shelf

/-! What a shelf holds after measures were put and used: a place depends on how often its measure
was used since it was put, and the count of measures is exact. -/
namespace HistorySurvey.Shelf

@[simp] theorem places_empty (id : ObjectId) : empty.places[id]? = none := Std.HashMap.getElem?_empty

theorem isFinalized_iff (s : Shelf) (id : ObjectId) :
    s.isFinalized id = true ↔ s.places[id]? ≠ none := by
  rw [isFinalized, Std.HashMap.contains_eq_isSome_getElem?, Option.isSome_iff_ne_none]

theorem get?_eq_none_of_new {s : Shelf} {id : ObjectId} (fresh : s.isFinalized id = false) :
    s.get? id = none := by
  rw [get?, Std.HashMap.getElem?_eq_none_of_contains_eq_false fresh]
  rfl

theorem isFinalized_of_get? {s : Shelf} {id : ObjectId} (held : (s.get? id).isSome = true) :
    s.isFinalized id = true := by
  by_contra unknown
  rw [get?_eq_none_of_new (Bool.eq_false_iff.mpr unknown)] at held
  contradiction

/-! Single steps. -/

theorem put_of_known {s : Shelf} {id : ObjectId} (known : s.isFinalized id = true) (m : Measure)
    (uses : Option Nat) : s.put id m uses = s := by
  simp [put, accepts, known]

theorem isFinalized_put (s : Shelf) (id : ObjectId) (m : Measure) (uses : Option Nat)
    (other : ObjectId) :
    (s.put id m uses).isFinalized other = (s.isFinalized other || id == other) := by
  unfold put accepts
  cases known : s.isFinalized id with
  | true =>
    simp only [Bool.not_true, Bool.false_eq_true, if_false]
    by_cases same : id = other
    · subst same; simp [known]
    · simp [same]
  | false =>
    simp only [Bool.not_false, if_true]
    split <;> simp only [isFinalized, Std.HashMap.contains_insert, Bool.or_comm]

theorem places_release (s : Shelf) (id other : ObjectId) :
    (s.release id).places[other]? =
      if id = other then s.places[other]?.map fun place => ⟨none, place.remaining⟩
      else s.places[other]? := by
  unfold release
  by_cases same : id = other
  · subst same
    rw [if_pos rfl]
    cases found : s.places[id]? with
    | none => simp [found]
    | some place =>
      obtain ⟨measure, remaining⟩ := place
      cases measure <;> simp [found]
  · rw [if_neg same]
    split
    · simp [Std.HashMap.getElem?_insert, same]
    · rfl

/-- A place after one more use. -/
def usedOnce (place : Place) : Place :=
  match place.remaining with
  | none => place
  | some remaining => ⟨if remaining ≤ 1 then none else place.measure, some (remaining - 1)⟩

theorem places_consume (s : Shelf) (id other : ObjectId) :
    (s.consume id).places[other]? =
      if id = other then s.places[other]?.map usedOnce else s.places[other]? := by
  unfold consume
  cases found : s.places[id]? with
  | none =>
    by_cases same : id = other
    · subst same; simp [found]
    · simp [same]
  | some place =>
    obtain ⟨measure, remaining⟩ := place
    by_cases same : id = other
    · subst same
      rw [if_pos rfl, found]
      cases remaining with
      | none => exact found
      | some remaining =>
        simp only [usedOnce, Option.map_some]
        split <;> simp [places_release]
    · rw [if_neg same]
      cases remaining with
      | none => rfl
      | some remaining =>
        simp only
        split <;> simp [places_release, Std.HashMap.getElem?_insert, same]

@[simp] theorem isFinalized_consume (s : Shelf) (id other : ObjectId) :
    (s.consume id).isFinalized other = s.isFinalized other := by
  rw [Bool.eq_iff_iff, isFinalized_iff, isFinalized_iff, places_consume]
  split <;> simp

@[simp] theorem isFinalized_consumeAll (s : Shelf) (ids : List ObjectId) (other : ObjectId) :
    (ids.foldl consume s).isFinalized other = s.isFinalized other := by
  induction ids generalizing s with
  | nil => rfl
  | cons id rest ih => rw [List.foldl_cons, ih, isFinalized_consume]

/-! Uses. -/

/-- The place of a measure that will be used so many times, when it was used so many times. -/
def placeAfter (uses : Option Nat) (m : Measure) (used : Nat) : Place :=
  match uses with
  | none => ⟨some m, none⟩
  | some n => ⟨if n ≤ used then none else some m, some (n - used)⟩

theorem usedOnce_placeAfter (uses : Option Nat) (m : Measure) (used : Nat) :
    usedOnce (placeAfter uses m used) = placeAfter uses m (used + 1) := by
  cases uses with
  | none => rfl
  | some n =>
    simp only [placeAfter, usedOnce, Place.mk.injEq, Option.some.injEq]
    refine ⟨?_, by omega⟩
    by_cases spent : n ≤ used + 1
    · rw [if_pos (by omega), if_pos spent]
    · rw [if_neg (by omega), if_neg (by omega), if_neg spent]

theorem measure_placeAfter (uses : Option Nat) (m : Measure) (used : Nat) :
    (placeAfter uses m used).measure = if ∀ n, uses = some n → used < n then some m else none := by
  cases uses with
  | none => simp [placeAfter]
  | some n =>
    simp only [placeAfter, Option.some.injEq, forall_eq']
    by_cases spent : n ≤ used
    · rw [if_pos spent, if_neg (by omega)]
    · rw [if_neg spent, if_pos (by omega)]

theorem places_put {s : Shelf} {id : ObjectId} (fresh : s.isFinalized id = false) (m : Measure)
    (uses : Option Nat) (other : ObjectId) :
    (s.put id m uses).places[other]? =
      if id = other then some (placeAfter uses m 0) else s.places[other]? := by
  have placed : (s.put id m uses).places = s.places.insert id (placeAfter uses m 0) := by
    unfold put accepts
    rw [fresh]
    cases uses with
    | none => simp [placeAfter]
    | some n => cases n <;> simp [placeAfter]
  rw [placed, Std.HashMap.getElem?_insert]
  simp only [beq_iff_eq]

theorem places_consumeAll (s : Shelf) (ids : List ObjectId) (other : ObjectId)
    (uses : Option Nat) (m : Measure) (used : Nat)
    (found : s.places[other]? = some (placeAfter uses m used)) :
    (ids.foldl consume s).places[other]? = some (placeAfter uses m (used + ids.count other)) := by
  induction ids generalizing s used with
  | nil => exact found
  | cons id rest ih =>
    rw [List.foldl_cons, List.count_cons]
    by_cases same : id = other
    · rw [ih (s.consume id) (used + 1) (by
        rw [places_consume, if_pos same, found, Option.map_some, usedOnce_placeAfter])]
      simp only [same, beq_self_eq_true, if_true]
      congr 2
      omega
    · rw [ih (s.consume id) used (by rw [places_consume, if_neg same, found])]
      simp [same]

/-! The count of measures. -/

/-- The count of measures is the number of ids that have one. -/
def Counted (s : Shelf) : Prop :=
  ∃ ids : List ObjectId, ids.Nodup ∧ (∀ id, id ∈ ids ↔ (s.get? id).isSome = true) ∧
    s.live = ids.length

theorem ncard_eq_length {ids : List ObjectId} {p : ObjectId → Prop} (distinct : ids.Nodup)
    (listed : ∀ id, id ∈ ids ↔ p id) : {id | p id}.ncard = ids.length := by
  have same : {id | p id} = (ids.toFinset : Set ObjectId) := by
    ext id
    simp [listed]
  rw [same, Set.ncard_coe_finset, List.toFinset_card_of_nodup distinct]

theorem Counted.live_eq {s : Shelf} (counted : s.Counted) :
    s.live = {id | (s.get? id).isSome = true}.ncard := by
  obtain ⟨ids, distinct, held, live⟩ := counted
  rw [live, ncard_eq_length distinct held]

theorem counted_empty : Counted empty := by
  refine ⟨[], List.nodup_nil, fun id => ?_, rfl⟩
  simp [get?]

theorem Counted.put {s : Shelf} (counted : s.Counted) (id : ObjectId) (m : Measure)
    (uses : Option Nat) : (s.put id m uses).Counted := by
  obtain ⟨ids, nodup, held, live⟩ := counted
  unfold Shelf.put accepts
  cases known : s.isFinalized id with
  | true => exact ⟨ids, nodup, held, live⟩
  | false =>
    have nothing := get?_eq_none_of_new known
    have outside : id ∉ ids := by simp [held, nothing]
    simp only [Bool.not_false, if_true]
    split
    · refine ⟨ids, nodup, fun other => ?_, live⟩
      rw [held]
      by_cases same : id = other
      · subst same; rw [nothing]; simp [get?]
      · simp [get?, Std.HashMap.getElem?_insert, same]
    · refine ⟨id :: ids, List.nodup_cons.mpr ⟨outside, nodup⟩, fun other => ?_, by simp [live]⟩
      rw [List.mem_cons, held]
      by_cases same : id = other
      · subst same; simp [get?]
      · simp [get?, Std.HashMap.getElem?_insert, same, Ne.symm same]

theorem Counted.release {s : Shelf} (counted : s.Counted) (id : ObjectId) :
    (s.release id).Counted := by
  obtain ⟨ids, nodup, held, live⟩ := counted
  unfold Shelf.release
  split
  · rename_i m remaining found
    have inside : id ∈ ids := by rw [held, get?, found]; rfl
    refine ⟨ids.erase id, nodup.erase id, fun other => ?_, ?_⟩
    · rw [nodup.mem_erase_iff, held]
      by_cases same : id = other
      · subst same; simp [get?]
      · simp [get?, Std.HashMap.getElem?_insert, same, Ne.symm same]
    · rw [List.length_erase_of_mem inside, ← live]
  · exact ⟨ids, nodup, held, live⟩

theorem Counted.consume {s : Shelf} (counted : s.Counted) (id : ObjectId) :
    (s.consume id).Counted := by
  unfold Shelf.consume
  split
  · rename_i m remaining found
    have lowered : Counted { s with places := s.places.insert id ⟨m, some (remaining - 1)⟩ } := by
      obtain ⟨ids, nodup, held, live⟩ := counted
      refine ⟨ids, nodup, fun other => ?_, live⟩
      rw [held]
      by_cases same : id = other
      · subst same; simp [get?, found]
      · simp [get?, Std.HashMap.getElem?_insert, same]
    simp only
    split
    · exact lowered.release id
    · exact lowered
  · exact counted

theorem Counted.consumeAll {s : Shelf} (counted : s.Counted) (ids : List ObjectId) :
    (ids.foldl Shelf.consume s).Counted := by
  induction ids generalizing s with
  | nil => exact counted
  | cons id rest ih => exact ih (counted.consume id)

end HistorySurvey.Shelf
