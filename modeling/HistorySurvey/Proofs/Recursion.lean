import HistorySurvey.Proofs.Completion
import HistorySurvey.Proofs.Totals

/-! A survey against the recursive account of a history. It gives a summary exactly if the recursion
is well-founded and always finds what it needs, and then the summary is the one of the measures by
recursion. -/
namespace HistorySurvey

/-- Only one assignment of measures to the measured objects obeys the recursion. -/
theorem Journal.Justified.figure_unique {journal : Journal} (justified : journal.Justified)
    {other : ObjectId → Measure}
    (recursive : ∀ object ∈ journal.objects, other object.id = Reference.combine other object)
    {id : ObjectId} (measured : id ∈ journal.ids) : other id = journal.figure id := by
  induction rank : journal.rank id using Nat.strong_induction_on generalizing id with
  | _ n ih =>
    obtain ⟨object, inside, rfl⟩ := Journal.exists_of_mem_ids measured
    rw [recursive object inside, Journal.figure, justified.measure?_eq inside]
    refine Reference.combine_congr fun child needed => ?_
    obtain ⟨known, less⟩ := justified.rank_lt inside (.inr needed)
    exact ih _ (rank ▸ less) known rfl

namespace Assembly
open ObjectStream Dependency

variable {hints : Hints} {start : Summary} {accepted : List HistoryObject} {journal : Journal}
  {a : Assembly}

private theorem Accounted.figureWithin_eq (accounted : Accounted hints start accepted journal a)
    (depth : Nat) {id : ObjectId} (measured : id ∈ journal.ids) (deep : journal.rank id ≤ depth) :
    Reference.figureWithin accepted depth id = journal.figure id := by
  -- The rank falls from an object to what it is made of, so the depth is not used up.
  induction depth generalizing id with
  | zero => exact absurd deep (Nat.not_le.mpr (Journal.rank_pos measured))
  | succ depth ih =>
    obtain ⟨object, inside, rfl⟩ := Journal.exists_of_mem_ids measured
    have distinct := (accounted.members object).mpr (.inl inside)
    have found := (find?_eq_some_iff accepted object.id object).mpr ⟨distinct, rfl⟩
    rw [Reference.figureWithin, found, Journal.figure, accounted.justified.measure?_eq inside]
    refine Reference.combine_congr fun child needed => ?_
    obtain ⟨known, less⟩ := accounted.justified.rank_lt inside (.inr needed)
    exact ih known (by omega)

theorem Accounted.rank_le (accounted : Accounted hints start accepted journal a) (id : ObjectId) :
    journal.rank id ≤ accepted.length := by
  obtain ⟨others, permuted⟩ := accounted.unmeasured (List.prefix_refl accepted)
  calc
    journal.rank id ≤ journal.length := Journal.rank_le_length journal id
    _ = journal.objects.length := (List.length_map _).symm
    _ ≤ (journal.objects ++ others).length := by rw [List.length_append]; omega
    _ = (firstOccurrences accepted).length := permuted.length_eq
    _ ≤ accepted.length := (firstOccurrences_sublist accepted).length_le

theorem Accounted.figure_eq (accounted : Accounted hints start accepted journal a)
    {id : ObjectId} (measured : id ∈ journal.ids) :
    Reference.figure accepted id = journal.figure id :=
  accounted.figureWithin_eq accepted.length measured (accounted.rank_le id)

theorem Accounted.figure_recursive (accounted : Accounted hints start accepted journal a)
    {object : HistoryObject} (measured : object ∈ journal.objects) :
    Reference.figure accepted object.id =
      Reference.combine (Reference.figure accepted) object := by
  rw [accounted.figure_eq (Journal.mem_ids measured), Journal.figure,
    accounted.justified.measure?_eq measured]
  refine Reference.combine_congr fun child needed => (accounted.figure_eq ?_).symm
  exact (accounted.justified.rank_lt measured (.inr needed)).1

theorem Accounted.journal_perm (accounted : Accounted hints start accepted journal a)
    (all : ∀ object ∈ firstOccurrences accepted, object.id ∈ journal.ids) :
    journal.Perm ((firstOccurrences accepted).map fun object =>
      (object, Reference.figure accepted object.id)) := by
  have entries : journal =
      journal.objects.map fun object => (object, Reference.figure accepted object.id) := by
    rw [Journal.objects, List.map_map]
    refine (List.map_id journal).symm.trans (List.map_congr_left fun entry member => ?_)
    have measured : entry.1.id ∈ journal.ids := List.mem_map_of_mem member
    have found := accounted.justified.measure?_of_mem member
    refine Prod.ext rfl ?_
    change entry.2 = Reference.figure accepted entry.1.id
    rw [accounted.figure_eq measured, Journal.figure, found]
    rfl
  have permuted : journal.objects.Perm (firstOccurrences accepted) := by
    refine (List.perm_ext_iff_of_nodup accounted.nodup_journal
      (nodup_firstOccurrences accepted).of_map).mpr fun object => ?_
    rw [accounted.members]
    refine ⟨.inl, fun known => accounted.mem_journal ((accounted.members object).mpr known) ?_⟩
    exact all object ((accounted.members object).mpr known)
  rw [entries]
  simpa [Journal.objects] using permuted.map fun object =>
    (object, Reference.figure accepted object.id)

/-- A summary is that of a journal in which every distinct object was measured. -/
theorem accounted_of_stream {stream : ObjectStream} {stopAfter : Option Nat} {s : Summary}
    (fine : (Survey.run stream stopAfter).result = .ok s) :
    ∃ journal b, Accounted stream.hints (Summary.ofReferences stream.references) stream.objects
        journal b ∧
      (∀ object ∈ firstOccurrences stream.objects, object.id ∈ journal.ids) ∧
      s = journal.summary (Summary.ofReferences stream.references) := by
  obtain ⟨_, b, accepted, finished⟩ := finish_of_stream fine
  obtain ⟨journal, _, accounted, idle⟩ := accounted_of_acceptAll stream.references accepted
  obtain ⟨all, rfl⟩ := (accounted.finish_ok_iff idle s).mp finished
  exact ⟨journal, b, accounted, all, accounted.summary⟩

theorem accounted_of_run {objects : List HistoryObject} {references : List String} {s : Summary}
    (fine : (Survey.run (ofList objects references none) none).result = .ok s) :
    ∃ journal b, Accounted (countedLinks (linkCounts objects))
        (Summary.ofReferences references) objects journal b ∧
      (∀ object ∈ firstOccurrences objects, object.id ∈ journal.ids) ∧
      s = journal.summary (Summary.ofReferences references) :=
  accounted_of_stream fine

theorem Accounted.closed (accounted : Accounted hints start accepted journal a)
    (all : ∀ object ∈ firstOccurrences accepted, object.id ∈ journal.ids) : Closed accepted := by
  intro object distinct child needed
  have inside := accounted.mem_journal distinct (all object distinct)
  exact accounted.mem_accepted (accounted.justified.rank_lt inside (.inl needed)).1

private theorem Accounted.acyclic (accounted : Accounted hints start accepted journal a)
    (all : ∀ object ∈ firstOccurrences accepted, object.id ∈ journal.ids) : Acyclic accepted := by
  intro id cycle
  obtain ⟨_, depends, _⟩ := Relation.TransGen.head'_iff.mp cycle
  obtain ⟨object, distinct, rfl, _⟩ := (depends_iff accepted id _).mp depends
  exact Nat.lt_irrefl _ (accounted.rank_lt_of_transGen (all object distinct) cycle).2

theorem run_of_sound (stream : ObjectStream) (unfailing : stream.failure = none)
    (truthful : Truthful stream.hints stream.objects)
    (followed : ∀ object ∈ stream.objects, object.Followed) (closed : Closed stream.objects)
    (acyclic : Acyclic stream.objects) (fitting : Reference.WellKinded stream.objects) :
    ∃ s, (Survey.run stream none).result = .ok s := by
  cases accepted : Survey.acceptAll stream.hints stream.objects
      (ofReferences stream.references) with
  | mk b outcome =>
    have fine := acceptAll_fine stream.references truthful followed fitting
    rw [accepted] at fine
    subst fine
    obtain ⟨journal, _, accounted, idle⟩ := accounted_of_acceptAll stream.references accepted
    refine ⟨b.summary, ?_⟩
    rw [run_of_acceptAll stream unfailing accepted, accounted.finish_ok_iff idle]
    refine ⟨fun object distinct => ?_, rfl⟩
    have known := (ids_firstOccurrences stream.objects object.id).mp (List.mem_map_of_mem distinct)
    exact accounted.measured_of_complete idle (closed.complete acyclic known)

/-- A survey gives a summary exactly if all dependencies are there, without a cycle, and of the
kinds that they are needed in. -/
theorem run_ok_iff (objects : List HistoryObject) (references : List String)
    (few : FewLinks objects) (followed : ∀ object ∈ objects, object.Followed) :
    (∃ s, (Survey.run (ofList objects references none) none).result = .ok s) ↔
      Closed objects ∧ Acyclic objects ∧ Reference.WellKinded objects := by
  constructor
  · rintro ⟨s, fine⟩
    obtain ⟨journal, b, accounted, all, _⟩ := accounted_of_run fine
    refine ⟨accounted.closed all, accounted.acyclic all, fun object distinct => ?_⟩
    exact accounted.fits (List.prefix_refl objects)
      (accounted.mem_journal distinct (all object distinct))
  · rintro ⟨closed, acyclic, fitting⟩
    exact run_of_sound (ofList objects references none) rfl (truthful_counted few) followed closed
      acyclic fitting

/-- The totals of a survey are the clamped sums and the maxima over the distinct objects. -/
theorem totals_of_run {objects : List HistoryObject} {references : List String} {s : Summary}
    (fine : (Survey.run (ofList objects references none) none).result = .ok s) :
    Totals.Of references ((firstOccurrences objects).map fun object =>
      (object, Reference.figure objects object.id)) s := by
  obtain ⟨journal, b, accounted, all, rfl⟩ := accounted_of_run fine
  exact (Totals.of_summary references journal).perm (accounted.journal_perm all)

/-- A survey gives a summary exactly if every dependency is there, without a cycle, and of a kind
that is expected. Its totals are then the clamped sums and the maxima over the distinct objects,
with the one measure for each that is made of the measures of what it links to. -/
theorem run_eq_recursion (objects : List HistoryObject) (references : List String)
    (few : FewLinks objects) (followed : ∀ object ∈ objects, object.Followed) :
    let result := (Survey.run (ofList objects references none) none).result
    ((∃ s, result = .ok s) ↔ Closed objects ∧ Acyclic objects ∧ Reference.WellKinded objects) ∧
    ∀ s, result = .ok s →
      (∀ object ∈ firstOccurrences objects, Reference.figure objects object.id =
        Reference.combine (Reference.figure objects) object) ∧
      (∀ other : ObjectId → Measure,
        (∀ object ∈ firstOccurrences objects, other object.id = Reference.combine other object) →
          ∀ object ∈ firstOccurrences objects,
            other object.id = Reference.figure objects object.id) ∧
      Totals.Of references ((firstOccurrences objects).map fun object =>
        (object, Reference.figure objects object.id)) s := by
  intro result
  refine ⟨run_ok_iff objects references few followed, fun s fine => ?_⟩
  obtain ⟨journal, b, accounted, all, _⟩ := accounted_of_run fine
  refine ⟨fun object distinct => ?_, fun other recursive object distinct => ?_, totals_of_run fine⟩
  · exact accounted.figure_recursive (accounted.mem_journal distinct (all object distinct))
  · -- The other assignment obeys the recursion on all that was measured, and that is everything.
    rw [accounted.figure_eq (all object distinct)]
    refine accounted.justified.figure_unique (fun object inside => ?_) (all object distinct)
    exact recursive object ((accounted.members object).mpr (.inl inside))

/-- A tag of the second of two commits that share a blob. Nothing arrives before what it links to,
and the blob arrives twice. -/
def taggedHistory : List HistoryObject :=
  [.tag (.ofNat 6) 150 (.ofNat 5),
    .commit (.ofNat 5) 260 (.ofNat 4) [.ofNat 3],
    .tree (.ofNat 4) 70 [.toObject (.ofNat 1), .toObject (.ofNat 1)],
    .commit (.ofNat 3) 200 (.ofNat 2) [],
    .tree (.ofNat 2) 35 [.toObject (.ofNat 1)],
    .blob (.ofNat 1) 9,
    .blob (.ofNat 1) 9]

theorem firstOccurrences_taggedHistory :
    firstOccurrences taggedHistory = taggedHistory.take 6 := by
  change firstOccurrences (taggedHistory.take 6 ++ [.blob (.ofNat 1) 9]) = _
  rw [firstOccurrences_concat, if_pos (by decide), firstOccurrences_of_nodup (by decide)]

theorem run_taggedHistory (references : List String) :
    ∃ s, (Survey.run (ofList taggedHistory references none) none).result = .ok s := by
  have few : FewLinks taggedHistory := .of_listed (by decide)
  have acyclic : Acyclic taggedHistory := .of_falling (·.bits.toNat) (by decide)
  apply (run_ok_iff taggedHistory references few (by decide)).mpr
  exact ⟨.of_listed (by decide), acyclic, .of_forall (by decide)⟩

theorem run_eq_recursion_tagged :
    FewLinks taggedHistory ∧ (∀ object ∈ taggedHistory, object.Followed) ∧
    ∃ s, (Survey.run (ofList taggedHistory ["refs/tags/v1"] none) none).result = .ok s ∧
      Totals.Of ["refs/tags/v1"] ((firstOccurrences taggedHistory).map fun object =>
        (object, Reference.figure taggedHistory object.id)) s := by
  have few : FewLinks taggedHistory := .of_listed (by decide)
  have followed : ∀ object ∈ taggedHistory, object.Followed := by decide
  have all := run_eq_recursion taggedHistory ["refs/tags/v1"] few followed
  have acyclic : Acyclic taggedHistory := .of_falling (·.bits.toNat) (by decide)
  obtain ⟨s, fine⟩ := all.1.mpr ⟨.of_listed (by decide), acyclic, .of_forall (by decide)⟩
  exact ⟨few, followed, s, fine, (all.2 s fine).2.2⟩

end Assembly

end HistorySurvey
