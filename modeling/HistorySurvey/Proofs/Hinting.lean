import Mathlib.Data.List.Perm.Subperm
import HistorySurvey.Proofs.Account

/-! Hints that tell the number of links of a history. Whoever uses a measure is one of those links,
so no measure is gone while an object that depends on it is still to be measured. -/
namespace HistorySurvey.Assembly
open ObjectStream

/-- Wherever the number of links to an object is told, it is the true one. -/
def Truthful (hints : Hints) (objects : List HistoryObject) : Prop :=
  ∀ id n, hints id = some n → n = (dependencyLinks (firstOccurrences objects)).count id

theorem truthful_none (objects : List HistoryObject) : Truthful (fun _ => none) objects :=
  fun _ _ told => by contradiction

theorem truthful_counted {objects : List HistoryObject} (few : FewLinks objects) :
    Truthful (countedLinks (linkCounts objects)) objects := by
  intro id n told
  rw [countedLinks_linkCounts few] at told
  exact (Option.some.inj told).symm

variable {hints : Hints} {start : Summary} {accepted objects : List HistoryObject}
  {journal : Journal} {a : Assembly}

theorem Accounted.nodup_journal (accounted : Accounted hints start accepted journal a) :
    journal.objects.Nodup := by
  have distinct := accounted.justified.nodup
  rw [Journal.ids_eq_map_objects] at distinct
  exact distinct.of_map

/-- The distinct objects of a history that begins with what was accepted are the measured ones and
some others. -/
theorem Accounted.unmeasured (accounted : Accounted hints start accepted journal a)
    (taken : accepted <+: objects) :
    ∃ others, (journal.objects ++ others).Perm (firstOccurrences objects) := by
  have within : journal.objects.Subperm (firstOccurrences objects) := by
    refine List.subperm_of_subset accounted.nodup_journal fun object inside => ?_
    exact (firstOccurrences_isPrefix taken).subset ((accounted.members object).mpr (.inl inside))
  obtain ⟨all, permuted, part⟩ := List.subperm_iff.mp within
  obtain ⟨others, split⟩ := part.exists_perm_append
  exact ⟨others, split.symm.trans permuted⟩

/-- A measure was used less often than there are links to it, exactly if one of the objects that
depend on it is not measured. -/
theorem Accounted.uses_lt_iff (accounted : Accounted hints start accepted journal a)
    (taken : accepted <+: objects) (child : ObjectId) :
    journal.uses child < (dependencyLinks (firstOccurrences objects)).count child ↔
      ∃ object ∈ firstOccurrences objects, object.id ∉ journal.ids ∧
        child ∈ object.dependencies := by
  obtain ⟨others, permuted⟩ := accounted.unmeasured taken
  have apart : ∀ object ∈ others, object.id ∉ journal.ids := by
    have distinct := (permuted.map HistoryObject.id).nodup_iff.mpr (nodup_firstOccurrences objects)
    rw [List.map_append, ← Journal.ids_eq_map_objects, List.nodup_append] at distinct
    exact fun object member measured =>
      distinct.2.2 _ measured _ (List.mem_map_of_mem member) rfl
  have total : (dependencyLinks (firstOccurrences objects)).count child =
      journal.uses child + (dependencyLinks others).count child := by
    rw [dependencyLinks, ← (permuted.flatMap_right HistoryObject.dependencies).count_eq,
      List.flatMap_append, List.count_append, Journal.objects, List.flatMap_map]
    rfl
  rw [total, Nat.lt_add_right_iff_pos, List.count_pos_iff, dependencyLinks, List.mem_flatMap]
  constructor
  · rintro ⟨object, member, needed⟩
    exact ⟨object, permuted.subset (List.mem_append_right _ member), apart object member, needed⟩
  · rintro ⟨object, member, unmeasured, needed⟩
    rcases List.mem_append.mp (permuted.symm.subset member) with measured | other
    · exact absurd (Journal.mem_ids measured) unmeasured
    · exact ⟨object, other, needed⟩

/-- The measures that a ready object needs are all on the shelf. -/
theorem Accounted.ready_held (accounted : Accounted hints start accepted journal a)
    (taken : accepted <+: objects) (truthful : Truthful hints objects) {object : HistoryObject}
    (ready : object ∈ a.ready) {child : ObjectId} (needed : child ∈ object.dependencies) :
    a.shelf.get? child = journal.measure? child := by
  refine accounted.shelved.get?_eq_measure? fun n told => ?_
  rw [truthful child n told, accounted.uses_lt_iff taken]
  have distinct := (accounted.members object).mpr (.inr (.inl ready))
  refine ⟨object, (firstOccurrences_isPrefix taken).subset distinct, ?_, needed⟩
  rw [← accounted.shelved.isFinalized_eq_false_iff]
  exact accounted.fresh.2 object ready

/-! With kinds that fit, nothing fails. -/

theorem kindIn_eq_some_iff (objects : List HistoryObject) (id : ObjectId) (kind : Kind) :
    Reference.kindIn objects id = some kind ↔
      ∃ object ∈ firstOccurrences objects, object.id = id ∧ object.kind = kind := by
  simp only [Reference.kindIn, Option.map_eq_some_iff, find?_eq_some_iff, and_assoc]

theorem Accounted.kindOf_eq (accounted : Accounted hints start accepted journal a)
    (taken : accepted <+: objects) {id : ObjectId} (measured : id ∈ journal.ids) :
    journal.kindOf id = Reference.kindIn objects id := by
  obtain ⟨object, inside, rfl⟩ := Journal.exists_of_mem_ids measured
  have distinct := (accounted.members object).mpr (.inl inside)
  rw [accounted.justified.kindOf_eq inside, eq_comm, kindIn_eq_some_iff]
  exact ⟨object, (firstOccurrences_isPrefix taken).subset distinct, rfl, rfl⟩

theorem Accounted.fits (accounted : Accounted hints start accepted journal a)
    (taken : accepted <+: objects) {object : HistoryObject} (measured : object ∈ journal.objects) :
    object.Fits (Reference.kindIn objects) := by
  refine (accounted.justified.fits measured).mono fun child needed kind known => ?_
  rw [← accounted.kindOf_eq taken (accounted.justified.rank_lt measured (.inr needed)).1]
  exact known

theorem Accounted.ready_measured (accounted : Accounted hints start accepted journal a)
    (taken : accepted <+: objects) (truthful : Truthful hints objects) {object : HistoryObject}
    {rest : List HistoryObject} (ready : a.ready = object :: rest) (followed : object.Followed)
    (fits : object.Fits (Reference.kindIn objects)) : ∃ m, measure a.shelf object = .ok m := by
  have first := mem_ready ready
  have held {child : ObjectId} (needed : child ∈ object.consulted) :
      child ∈ journal.ids ∧ a.shelf.get? child = journal.measure? child := by
    have depends := followed.consulted_subset needed
    exact ⟨(accounted.ready_new ready).2 child depends,
      accounted.ready_held taken truthful first depends⟩
  refine ⟨_, (measure_ok_iff _ _ _).mpr ⟨fun child needed => ?_, ?_, rfl⟩⟩
  · rw [(held needed).2, Journal.measure?_isSome_iff]
    exact (held needed).1
  · refine fits.mono fun child needed kind known => ?_
    rw [Shelf.kindOf, (held needed).2, ← known, ← accounted.kindOf_eq taken (held needed).1]
    rfl

theorem acceptAll_fine (references : List String) {objects : List HistoryObject}
    (truthful : Truthful hints objects) (followed : ∀ object ∈ objects, object.Followed)
    (fitting : Reference.WellKinded objects) :
    (Survey.acceptAll hints objects (ofReferences references)).2 = none := by
  cases ended : Survey.acceptAll hints objects (ofReferences references) with
  | mk b outcome =>
    cases outcome with
    | none => rfl
    | some error =>
      -- It stopped at a ready object, but all that a ready object needs is held and fits.
      obtain ⟨taken, first, journal, c, object, rest, accounted, ready, failed, _⟩ :=
        (accounted_start hints references).acceptAll_error (ready_ofReferences references) ended
      rw [List.nil_append] at accounted
      have distinct : object ∈ firstOccurrences objects := by
        exact (firstOccurrences_isPrefix first).subset
          ((accounted.members object).mpr (.inr (.inl (mem_ready ready))))
      obtain ⟨m, measured⟩ := accounted.ready_measured first truthful ready
        (followed object (mem_of_mem_firstOccurrences distinct)) (fitting object distinct)
      rw [measured] at failed
      contradiction

end HistorySurvey.Assembly
