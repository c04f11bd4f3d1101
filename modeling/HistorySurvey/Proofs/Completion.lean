import HistorySurvey.Proofs.Hinting

/-! What is measured after each accepted object: exactly what is complete. The assembly only counts
links, one by one; that the counts decide completeness follows from its account. -/
namespace HistorySurvey.Assembly
open ObjectStream Dependency

variable {hints : Hints} {start : Summary} {accepted : List HistoryObject} {journal : Journal}
  {a : Assembly}

theorem Accounted.rank_lt (accounted : Accounted hints start accepted journal a)
    {parent child : ObjectId} (measured : parent ∈ journal.ids)
    (depends : Depends accepted parent child) :
    child ∈ journal.ids ∧ journal.rank child < journal.rank parent := by
  obtain ⟨object, distinct, rfl, needed⟩ := (depends_iff accepted parent child).mp depends
  exact accounted.justified.rank_lt (accounted.mem_journal distinct measured) (.inl needed)

theorem Accounted.rank_lt_of_transGen (accounted : Accounted hints start accepted journal a)
    {first last : ObjectId} (measured : first ∈ journal.ids)
    (way : Relation.TransGen (Depends accepted) first last) :
    last ∈ journal.ids ∧ journal.rank last < journal.rank first := by
  induction way with
  | single depends => exact accounted.rank_lt measured depends
  | tail _ depends ih =>
    obtain ⟨known, less⟩ := accounted.rank_lt ih.1 depends
    exact ⟨known, less.trans ih.2⟩

theorem Accounted.complete_of_measured (accounted : Accounted hints start accepted journal a)
    {id : ObjectId} (measured : id ∈ journal.ids) : Complete accepted id := by
  intro other reached
  have known : other ∈ journal.ids := by
    rcases Relation.reflTransGen_iff_eq_or_transGen.mp reached with rfl | way
    · exact measured
    · exact (accounted.rank_lt_of_transGen measured way).1
  refine ⟨accounted.mem_accepted known, fun cycle => ?_⟩
  exact Nat.lt_irrefl _ (accounted.rank_lt_of_transGen known cycle).2

/-- A complete object cannot be parked: it would miss a dependency, which is complete as well. -/
theorem Accounted.measured_of_complete (accounted : Accounted hints start accepted journal a)
    (idle : a.ready = []) {id : ObjectId} (complete : Complete accepted id) :
    id ∈ journal.ids := by
  -- The induction goes down the dependencies. One that is missing would be complete, so measured.
  refine complete_induction (fun id complete ih => ?_) id complete
  have known := (accounted.knows_iff idle id).mpr (complete id .refl).1
  rw [knows, Bool.or_eq_true, accounted.shelved.isFinalized_iff, contains_parked_iff] at known
  rcases known with measured | ⟨entry, found⟩
  · exact measured
  · obtain ⟨named, _, positive, missing⟩ := accounted.balanced.parked id entry found
    have distinct : entry.object ∈ firstOccurrences accepted :=
      (accounted.members entry.object).mpr (.inr (.inr ⟨entry.missing, by rw [named, found]⟩))
    have met : unmet a.shelf entry.object = [] := by
      rw [unmet_eq_nil_iff]
      intro child member
      rw [accounted.shelved.isFinalized_iff]
      exact ih child ((depends_iff accepted id child).mpr ⟨entry.object, distinct, named, member⟩)
    rw [met, List.count_nil, List.length_nil] at missing
    omega

theorem Accounted.isFinalized_iff_complete (accounted : Accounted hints start accepted journal a)
    (idle : a.ready = []) (id : ObjectId) :
    a.shelf.isFinalized id = true ↔ Complete accepted id := by
  rw [accounted.shelved.isFinalized_iff]
  exact ⟨accounted.complete_of_measured, accounted.measured_of_complete idle⟩

theorem Accounted.parked_iff_incomplete (accounted : Accounted hints start accepted journal a)
    (idle : a.ready = []) (id : ObjectId) :
    a.parked.contains id = true ↔ id ∈ accepted.map HistoryObject.id ∧ ¬ Complete accepted id := by
  rw [← accounted.knows_iff idle, ← accounted.isFinalized_iff_complete idle, knows, Bool.or_eq_true]
  constructor
  · intro parked
    obtain ⟨entry, found⟩ := (contains_parked_iff a id).mp parked
    refine ⟨.inr parked, ?_⟩
    rw [(accounted.balanced.parked id entry found).2.1]
    exact Bool.false_ne_true
  · rintro ⟨measured | parked, unmeasured⟩
    · exact absurd measured unmeasured
    · exact parked

theorem Accounted.ncard_finalized (accounted : Accounted hints start accepted journal a) :
    {id | a.shelf.isFinalized id = true}.ncard = journal.length := by
  rw [Shelf.ncard_eq_length accounted.justified.nodup
    fun id => (accounted.shelved.isFinalized_iff id).symm]
  exact List.length_map _

private theorem length_firstOccurrences (objects : List HistoryObject) :
    (firstOccurrences objects).length = (objects.map HistoryObject.id).dedup.length := by
  rw [← List.length_map HistoryObject.id]
  refine List.Perm.length_eq ((List.perm_ext_iff_of_nodup (nodup_firstOccurrences objects)
    (List.nodup_dedup _)).mpr fun id => ?_)
  rw [ids_firstOccurrences, List.mem_dedup]

/-- The state after each of a sequence of objects that are accepted without a failure, for a source
that knows no numbers of links. -/
theorem finalized_iff_complete (objects before : List HistoryObject)
    (fine : (Survey.acceptAll (fun _ => none) objects Assembly.empty).2 = none)
    (sofar : before <+: objects) :
    let a := (Survey.acceptAll (fun _ => none) before Assembly.empty).1
    (∀ id, a.shelf.isFinalized id = true ↔
      id ∈ before.map HistoryObject.id ∧ Complete before id) ∧
    (∀ id, a.parked.contains id = true ↔
      id ∈ before.map HistoryObject.id ∧ ¬ Complete before id) ∧
    a.ready = [] ∧
    (∃ journal : Journal, Runs (fun _ => none) [] Assembly.empty before journal a ∧
      journal.ids.Nodup ∧ (∀ id, id ∈ journal.ids ↔ a.shelf.isFinalized id = true) ∧
      ∀ (later earlier : Journal) (object : HistoryObject) (m : Measure),
        journal = later ++ (object, m) :: earlier →
          ∀ child ∈ object.dependencies, child ∈ earlier.ids) ∧
    a.statistics.finalized = {id | a.shelf.isFinalized id = true}.ncard ∧
    a.progress = {id | a.shelf.isFinalized id = true}.ncard ∧
    a.statistics.duplicates + (before.map HistoryObject.id).dedup.length = before.length := by
  intro a
  obtain ⟨after, rfl⟩ := sofar
  have accepted : Survey.acceptAll (fun _ => none) before Assembly.empty = (a, none) :=
    Prod.ext rfl (acceptAll_left fine)
  obtain ⟨journal, runs, accounted, idle⟩ := accounted_of_acceptAll [] accepted
  have done := accounted.isFinalized_iff_complete idle
  refine ⟨fun id => ?_, accounted.parked_iff_incomplete idle, idle,
    ⟨journal, runs, accounted.justified.nodup, fun id => ?_, ?_⟩, ?_, ?_, ?_⟩
  · rw [done]
    exact (and_iff_right_of_imp fun complete => (complete id .refl).1).symm
  · exact (accounted.shelved.isFinalized_iff id).symm
  · rintro later earlier object m rfl
    cases accounted.justified.of_suffix with
    | cons _ _ _ _ dependencies => exact dependencies
  · rw [accounted.finalized, accounted.ncard_finalized]
  · rw [accounted.progress, accounted.ncard_finalized]
  · rw [← length_firstOccurrences]
    exact accounted.duplicates

/-- A tree that lists a blob twice and arrives twice, and a tree that is its own entry. -/
def loopedHistory : List HistoryObject :=
  [.tree (.ofNat 2) 70 [.toObject (.ofNat 3), .toObject (.ofNat 3)],
    .tree (.ofNat 2) 70 [.toObject (.ofNat 3), .toObject (.ofNat 3)],
    .blob (.ofNat 3) 9,
    .tree (.ofNat 5) 35 [.toObject (.ofNat 5)]]

private theorem loopedHistory_fine :
    (Survey.acceptAll (fun _ => none) loopedHistory Assembly.empty).2 = none :=
  acceptAll_fine [] (truthful_none loopedHistory) (by decide) (.of_forall (by decide))

theorem finalized_iff_complete_looped :
    (Survey.acceptAll (fun _ => none) loopedHistory Assembly.empty).2 = none ∧
    let a := (Survey.acceptAll (fun _ => none) loopedHistory Assembly.empty).1
    a.ready = [] ∧ a.parked.contains (.ofNat 5) = true := by
  have all := finalized_iff_complete loopedHistory loopedHistory loopedHistory_fine
    (List.prefix_refl _)
  have cycle : Depends loopedHistory (.ofNat 5) (.ofNat 5) :=
    ⟨.tree (.ofNat 5) 35 [.toObject (.ofNat 5)], by decide, by decide⟩
  refine ⟨loopedHistory_fine, all.2.2.1, (all.2.1 _).mpr ⟨by decide, fun complete => ?_⟩⟩
  exact (complete _ .refl).2 (.single cycle)

end HistorySurvey.Assembly
