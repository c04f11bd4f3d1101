import Mathlib.Data.List.Dedup
import Mathlib.Data.List.Flatten
import Mathlib.Data.List.Induction
import HistorySurvey.Stream

/-! The distinct objects of a list, each by its first occurrence, and the number of links among
them. A source that counts links counts these, as long as their number fits its counters. -/
namespace HistorySurvey.ObjectStream

private def collect (state : Std.HashMap ObjectId Unit × List HistoryObject)
    (object : HistoryObject) : Std.HashMap ObjectId Unit × List HistoryObject :=
  if state.1.contains object.id then state
  else (state.1.insert object.id (), object :: state.2)

private theorem contains_collected (objects : List HistoryObject)
    (state : Std.HashMap ObjectId Unit × List HistoryObject) (id : ObjectId) :
    (objects.foldl collect state).1.contains id = true ↔
      state.1.contains id = true ∨ id ∈ objects.map HistoryObject.id := by
  induction objects generalizing state with
  | nil => simp
  | cons object rest ih =>
    rw [List.foldl_cons, ih]
    by_cases seen : state.1.contains object.id = true
    · rw [collect, if_pos seen, List.map_cons, List.mem_cons]
      constructor
      · rintro (present | later)
        · exact .inl present
        · exact .inr (.inr later)
      · rintro (present | rfl | later)
        · exact .inl present
        · exact .inl seen
        · exact .inr later
    · rw [collect, if_neg seen]
      simp only [Std.HashMap.contains_insert, Bool.or_eq_true, beq_iff_eq, List.map_cons,
        List.mem_cons]
      constructor
      · rintro ((same | present) | later)
        · exact .inr (.inl same.symm)
        · exact .inl present
        · exact .inr (.inr later)
      · rintro (present | same | later)
        · exact .inl (.inr present)
        · exact .inl (.inl same.symm)
        · exact .inr later

@[simp] theorem firstOccurrences_nil : firstOccurrences [] = [] := rfl

theorem firstOccurrences_concat (objects : List HistoryObject) (object : HistoryObject) :
    firstOccurrences (objects ++ [object]) =
      if object.id ∈ objects.map HistoryObject.id then firstOccurrences objects
      else firstOccurrences objects ++ [object] := by
  change ((objects ++ [object]).foldl collect (∅, [])).2.reverse = _
  rw [List.foldl_append, List.foldl_cons, List.foldl_nil]
  have seen := contains_collected objects (∅, []) object.id
  simp only [Std.HashMap.contains_empty, Bool.false_eq_true, false_or] at seen
  by_cases known : object.id ∈ objects.map HistoryObject.id
  · rw [if_pos known, collect, if_pos (seen.mpr known)]
    rfl
  · rw [if_neg known, collect, if_neg (fun present => known (seen.mp present)), List.reverse_cons]
    rfl

theorem ids_firstOccurrences (objects : List HistoryObject) (id : ObjectId) :
    id ∈ (firstOccurrences objects).map HistoryObject.id ↔ id ∈ objects.map HistoryObject.id := by
  induction objects using List.reverseRecOn with
  | nil => rfl
  | append_singleton objects object ih =>
    rw [firstOccurrences_concat]
    split
    · rename_i known
      rw [ih, List.map_append, List.mem_append, List.map_singleton, List.mem_singleton]
      exact ⟨.inl, fun either => either.elim (fun member => member) (fun same => same ▸ known)⟩
    · simp only [List.map_append, List.mem_append, ih]

theorem nodup_firstOccurrences (objects : List HistoryObject) :
    ((firstOccurrences objects).map HistoryObject.id).Nodup := by
  induction objects using List.reverseRecOn with
  | nil => exact List.nodup_nil
  | append_singleton objects object ih =>
    rw [firstOccurrences_concat]
    split
    · exact ih
    · rename_i fresh
      rw [List.map_append, List.map_singleton, ← List.concat_eq_append]
      exact ih.concat fun member => fresh ((ids_firstOccurrences objects object.id).mp member)

theorem firstOccurrences_of_nodup {objects : List HistoryObject}
    (distinct : (objects.map HistoryObject.id).Nodup) : firstOccurrences objects = objects := by
  induction objects using List.reverseRecOn with
  | nil => rfl
  | append_singleton objects object ih =>
    rw [List.map_append, List.nodup_append] at distinct
    rw [firstOccurrences_concat, if_neg, ih distinct.1]
    exact fun member => distinct.2.2 _ member object.id (by simp) rfl

theorem firstOccurrences_sublist (objects : List HistoryObject) :
    (firstOccurrences objects).Sublist objects := by
  induction objects using List.reverseRecOn with
  | nil => exact List.Sublist.refl _
  | append_singleton objects last ih =>
    rw [firstOccurrences_concat]
    split
    · exact ih.trans (List.sublist_append_left objects _)
    · exact ih.append (List.Sublist.refl _)

theorem mem_of_mem_firstOccurrences {objects : List HistoryObject} {object : HistoryObject}
    (member : object ∈ firstOccurrences objects) : object ∈ objects :=
  (firstOccurrences_sublist objects).subset member

theorem firstOccurrences_isPrefix {first objects : List HistoryObject} (before : first <+: objects) :
    firstOccurrences first <+: firstOccurrences objects := by
  obtain ⟨rest, rfl⟩ := before
  induction rest using List.reverseRecOn with
  | nil => simp
  | append_singleton rest object ih =>
    rw [← List.append_assoc, firstOccurrences_concat]
    split
    · exact ih
    · exact ih.trans (List.prefix_append _ _)

theorem firstOccurrences_injective {objects : List HistoryObject} {a b : HistoryObject}
    (left : a ∈ firstOccurrences objects) (right : b ∈ firstOccurrences objects)
    (same : a.id = b.id) : a = b :=
  List.inj_on_of_nodup_map (nodup_firstOccurrences objects) left right same

theorem find?_eq_some_iff (objects : List HistoryObject) (id : ObjectId) (object : HistoryObject) :
    objects.find? (·.id = id) = some object ↔
      object ∈ firstOccurrences objects ∧ object.id = id := by
  induction objects using List.reverseRecOn with
  | nil => simp
  | append_singleton objects last ih =>
    rw [List.find?_append, firstOccurrences_concat]
    cases found : objects.find? (·.id = id) with
    | some first =>
      rw [found] at ih
      have spot := List.find?_some found
      have inside := List.mem_of_find?_eq_some found
      simp only [decide_eq_true_eq] at spot
      simp only [Option.some_or, ih]
      split
      · rfl
      · rename_i fresh
        rw [List.mem_append, List.mem_singleton]
        constructor
        · exact fun both => ⟨.inl both.1, both.2⟩
        · rintro ⟨before | rfl, same⟩
          · exact ⟨before, same⟩
          · exact absurd (List.mem_map.mpr ⟨first, inside, spot.trans same.symm⟩) fresh
    | none =>
      rw [found] at ih
      have absent : id ∉ objects.map HistoryObject.id := by
        intro member
        obtain ⟨other, inside, same⟩ := List.mem_map.mp member
        have missed := List.find?_eq_none.mp found other inside
        simp [same] at missed
      have outside : ¬ (object ∈ firstOccurrences objects ∧ object.id = id) :=
        fun both => Option.some_ne_none _ (ih.mpr both).symm
      simp only [Option.none_or, List.find?_cons, List.find?_nil]
      by_cases same : last.id = id
      · rw [same, if_neg absent]
        simp only [decide_true, Option.some.injEq, List.mem_append, List.mem_singleton]
        constructor
        · rintro rfl
          exact ⟨.inr rfl, same⟩
        · rintro ⟨before | rfl, named⟩
          · exact absurd ⟨before, named⟩ outside
          · rfl
      · simp only [same, decide_false, reduceCtorEq, false_iff]
        rintro ⟨member, named⟩
        split at member
        · exact outside ⟨member, named⟩
        · rcases List.mem_append.mp member with before | equal
          · exact outside ⟨before, named⟩
          · exact same (by rw [← List.mem_singleton.mp equal, named])

/-- The targets of all links that have to be followed, once for each link. -/
def dependencyLinks (objects : List HistoryObject) : List ObjectId :=
  objects.flatMap HistoryObject.dependencies

/-- The links among the distinct objects are fewer than 2^32, so that 32 bits count them. -/
def FewLinks (objects : List HistoryObject) : Prop :=
  (dependencyLinks (firstOccurrences objects)).length ≤ Count.limit 32

theorem FewLinks.of_listed {objects : List HistoryObject}
    (few : (dependencyLinks objects).length ≤ Count.limit 32) : FewLinks objects :=
  Nat.le_trans ((firstOccurrences_sublist objects).flatMap _).length_le few

private theorem counted_links (targets : List ObjectId) (counts : Std.HashMap ObjectId Nat)
    (id : ObjectId) (fits : counts[id]?.getD 0 + targets.count id ≤ Count.limit 32) :
    (targets.foldl countLink counts)[id]?.getD 0 = counts[id]?.getD 0 + targets.count id := by
  induction targets generalizing counts with
  | nil => rfl
  | cons target rest ih =>
    rw [List.count_cons] at fits
    have stepped : (countLink counts target)[id]?.getD 0 =
        counts[id]?.getD 0 + if target == id then 1 else 0 := by
      rw [countLink, Std.HashMap.getElem?_alter]
      by_cases same : target = id
      · subst same
        simp only [beq_self_eq_true, if_true, Option.getD_some] at fits ⊢
        exact Nat.mod_eq_of_lt (by omega)
      · simp [same]
    rw [List.foldl_cons, ih _ (by rw [stepped]; omega), stepped, List.count_cons]
    omega

/-- With fewer links than a counter holds, the hint for an object is the number of links of the
distinct objects that point at it. -/
theorem countedLinks_linkCounts {objects : List HistoryObject} (few : FewLinks objects)
    (id : ObjectId) :
    countedLinks (linkCounts objects) id =
      some ((dependencyLinks (firstOccurrences objects)).count id) := by
  have fits : (dependencyLinks (firstOccurrences objects)).count id ≤ Count.limit 32 :=
    Nat.le_trans List.count_le_length few
  have counted := counted_links (dependencyLinks (firstOccurrences objects)) ∅ id
    (by simpa using fits)
  rw [countedLinks, linkCounts, ← List.foldl_flatMap]
  simpa [dependencyLinks] using counted

end HistorySurvey.ObjectStream
