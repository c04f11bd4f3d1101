import HistorySurvey.Proofs.Recursion
import HistorySurvey.Proofs.Standings

/-! The order of arrival. Whatever order the objects of a history come in and however often they
come again, the same objects are measured in the same way. Totals do not see the order at all, and
boards see it only among equals. -/
namespace HistorySurvey

namespace Summary

private theorem nodup_ownFigures (object : HistoryObject) (m : Measure) :
    ((ownFigures object m).map Prod.fst).Nodup := by
  cases m <;> simp [ownFigures]

private theorem nodup_checkoutFigures (c : Checkout) : ((checkoutFigures c).map Prod.fst).Nodup := by
  simp [checkoutFigures]

/-- No object is ranked by a checkout of its own. -/
theorem disjoint_figures (object : HistoryObject) (m : Measure) (c : Checkout) :
    ((ownFigures object m).map Prod.fst).Disjoint ((checkoutFigures c).map Prod.fst) := by
  cases m <;> simp [ownFigures, checkoutFigures]

private theorem figure_eq {figures : List (Category × Nat)} (distinct : (figures.map Prod.fst).Nodup)
    {category : Category} {v w : Nat} (left : (category, v) ∈ figures)
    (right : (category, w) ∈ figures) : v = w :=
  (Prod.mk.inj (List.inj_on_of_nodup_map distinct left right rfl)).2

/-- A contender is an object with one of its own figures, or the root tree of a commit with one of
its checkout. -/
theorem of_mem_contenders {object : HistoryObject} {m : Measure} {category : Category}
    {c : Contender} (member : (category, c) ∈ contenders object m) :
    (c.id = object.id ∧ (category, c.value) ∈ ownFigures object m) ∨
    ∃ commit, m = .commit commit ∧ c.id = commit.root ∧
      (category, c.value) ∈ checkoutFigures commit.rootTree.checkout := by
  rcases List.mem_append.mp member with own | root
  · obtain ⟨figure, listed, same⟩ := List.mem_map.mp own
    obtain ⟨rfl, rfl⟩ := Prod.mk.inj same
    exact .inl ⟨rfl, listed⟩
  · cases m with
    | commit commit =>
      obtain ⟨figure, listed, same⟩ := List.mem_map.mp root
      obtain ⟨rfl, rfl⟩ := Prod.mk.inj same
      exact .inr ⟨commit, rfl, rfl, listed⟩
    | _ => contradiction

end Summary

namespace Journal

theorem mem_offers_iff (journal : Journal) (offer : Category × Contender) :
    offer ∈ journal.offers ↔ ∃ entry ∈ journal, offer ∈ Summary.contenders entry.1 entry.2 := by
  simp [offers]

theorem offers_cons (entry : HistoryObject × Measure) (earlier : Journal) :
    offers (entry :: earlier) = earlier.offers ++ Summary.contenders entry.1 entry.2 := by
  rw [offers, List.reverse_cons, List.flatMap_append, List.flatMap_singleton]
  rfl

theorem offers_perm {journal other : Journal} (permuted : journal.Perm other) :
    journal.offers.Perm other.offers :=
  ((List.reverse_perm journal).trans
    (permuted.trans (List.reverse_perm other).symm)).flatMap_right _

/-- A commit is ranked under the first object it links to, which was measured as a tree. -/
theorem Justified.root_measured {journal : Journal} (justified : journal.Justified)
    {object : HistoryObject} {commit : CommitMeasure}
    (member : (object, .commit commit) ∈ journal) :
    object.links.head?.map Link.target = some commit.root ∧
      journal.measure? commit.root = some (.tree commit.rootTree) := by
  have inside : object ∈ journal.objects := List.mem_map_of_mem member
  have combined := justified.measure?_of_mem member
  rw [justified.measure?_eq inside, Option.some.injEq] at combined
  obtain ⟨root, parents, links, tree, named, measured⟩ :=
    Reference.root_eq (justified.fits inside) combined
  refine ⟨by rw [links, named]; rfl, ?_⟩
  obtain ⟨m, found, kind⟩ := Option.map_eq_some_iff.mp tree
  rw [named, measured, figure, found]
  cases m <;> first | rfl | contradiction

private theorem Justified.entry_eq {journal : Journal} (justified : journal.Justified)
    {a b : HistoryObject × Measure} (left : a ∈ journal) (right : b ∈ journal)
    (same : a.1.id = b.1.id) : a = b :=
  List.inj_on_of_nodup_map justified.nodup left right same

theorem exists_of_mem_offersIn {journal : Journal} {category : Category} {c : Contender}
    (member : c ∈ Rankings.offersIn category journal.offers) :
    c.value ≠ 0 ∧ ∃ entry ∈ journal, (category, c) ∈ Summary.contenders entry.1 entry.2 := by
  obtain ⟨⟨category, c⟩, counted, rfl⟩ := List.mem_map.mp member
  obtain ⟨made, counts⟩ := List.mem_filter.mp counted
  obtain ⟨rfl, some⟩ := of_decide_eq_true counts
  exact ⟨some, (mem_offers_iff journal _).mp made⟩

/-- An id comes into a category with one figure, however many commits bring it as their root tree. -/
theorem Justified.consistent {journal : Journal} (justified : journal.Justified)
    (category : Category) : Ranking.Consistent (Rankings.offersIn category journal.offers) := by
  intro c inside d member same
  obtain ⟨_, ⟨object, m⟩, left, first⟩ := exists_of_mem_offersIn inside
  obtain ⟨_, ⟨other, n⟩, right, second⟩ := exists_of_mem_offersIn member
  have apart {o : HistoryObject} {x : Measure} {checkout : Checkout} {v w : Nat}
      (own : (category, v) ∈ Summary.ownFigures o x)
      (root : (category, w) ∈ Summary.checkoutFigures checkout) : False :=
    Summary.disjoint_figures o x checkout (List.mem_map.mpr ⟨_, own, rfl⟩)
      (List.mem_map.mpr ⟨_, root, rfl⟩)
  rcases Summary.of_mem_contenders first with ⟨own, figure⟩ | ⟨commit, rfl, root, figure⟩
  · rcases Summary.of_mem_contenders second with ⟨own', figure'⟩ | ⟨commit', rfl, root', figure'⟩
    · obtain ⟨rfl, rfl⟩ := Prod.mk.inj
        (justified.entry_eq left right (own.symm.trans (same.trans own')))
      exact Summary.figure_eq (Summary.nodup_ownFigures object m) figure figure'
    · exact (apart figure figure').elim
  · rcases Summary.of_mem_contenders second with ⟨own', figure'⟩ | ⟨commit', rfl, root', figure'⟩
    · exact (apart figure' figure).elim
    · -- Two commits with one root tree keep the same measure of it.
      have trees : commit.rootTree = commit'.rootTree := by
        have first := (justified.root_measured left).2
        rw [← root, same, root', (justified.root_measured right).2] at first
        exact (Measure.tree.inj (Option.some.inj first)).symm
      rw [trees] at figure
      exact Summary.figure_eq (Summary.nodup_checkoutFigures _) figure figure'

end Journal

namespace Assembly
open ObjectStream Dependency

/-- The same objects with the same ids, in another order or more often. -/
structure SameHistory (left right : List HistoryObject) : Prop where
  members : ∀ object, object ∈ left ↔ object ∈ right
  identified : ∀ a ∈ left, ∀ b ∈ left, a.id = b.id → a = b

variable {left right : List HistoryObject}

theorem SameHistory.symm (same : SameHistory left right) : SameHistory right left where
  members object := (same.members object).symm
  identified a first b second := same.identified a ((same.members a).mpr first) b
    ((same.members b).mpr second)

private theorem mem_firstOccurrences_iff {objects : List HistoryObject}
    (identified : ∀ a ∈ objects, ∀ b ∈ objects, a.id = b.id → a = b) (object : HistoryObject) :
    object ∈ firstOccurrences objects ↔ object ∈ objects := by
  refine ⟨mem_of_mem_firstOccurrences, fun member => ?_⟩
  obtain ⟨first, distinct, same⟩ := List.mem_map.mp
    ((ids_firstOccurrences objects object.id).mpr (List.mem_map_of_mem member))
  rw [← identified first (mem_of_mem_firstOccurrences distinct) object member same]
  exact distinct

theorem SameHistory.distinct (same : SameHistory left right) (object : HistoryObject) :
    object ∈ firstOccurrences left ↔ object ∈ firstOccurrences right := by
  rw [mem_firstOccurrences_iff same.identified, mem_firstOccurrences_iff same.symm.identified,
    same.members]

theorem SameHistory.perm (same : SameHistory left right) :
    (firstOccurrences left).Perm (firstOccurrences right) :=
  (List.perm_ext_iff_of_nodup (nodup_firstOccurrences left).of_map
    (nodup_firstOccurrences right).of_map).mpr same.distinct

theorem SameHistory.few (same : SameHistory left right) (few : FewLinks left) : FewLinks right := by
  rw [FewLinks, dependencyLinks, ← (same.perm.flatMap_right HistoryObject.dependencies).length_eq]
  exact few

theorem SameHistory.depends (same : SameHistory left right) {parent child : ObjectId}
    (depends : Depends right parent child) : Depends left parent child := by
  rw [depends_iff] at depends ⊢
  obtain ⟨object, member, rest⟩ := depends
  exact ⟨object, (same.distinct object).mpr member, rest⟩

theorem SameHistory.kindIn (same : SameHistory left right) {id : ObjectId} {kind : Kind}
    (known : Reference.kindIn left id = some kind) : Reference.kindIn right id = some kind := by
  rw [kindIn_eq_some_iff] at known ⊢
  obtain ⟨object, member, rest⟩ := known
  exact ⟨object, (same.distinct object).mp member, rest⟩

theorem SameHistory.sound (same : SameHistory left right)
    (sound : Closed left ∧ Acyclic left ∧ Reference.WellKinded left) :
    Closed right ∧ Acyclic right ∧ Reference.WellKinded right := by
  obtain ⟨closed, acyclic, fitting⟩ := sound
  refine ⟨fun object distinct child needed => ?_, fun node cycle => ?_, fun object distinct => ?_⟩
  · obtain ⟨other, member, named⟩ := List.mem_map.mp
      (closed object ((same.distinct object).mpr distinct) child needed)
    exact List.mem_map.mpr ⟨other, (same.members other).mp member, named⟩
  · exact acyclic node (Relation.TransGen.mono (fun _ _ => same.depends) _ _ cycle)
  · exact (fitting object ((same.distinct object).mpr distinct)).mono fun _ _ _ => same.kindIn

variable {hints other : Hints} {start begun : Summary} {journal later : Journal} {a b : Assembly}

/-- Both ways all objects are measured, and all in the same way. -/
theorem SameHistory.journal_perm (same : SameHistory left right)
    (first : Accounted hints start left journal a)
    (all : ∀ object ∈ firstOccurrences left, object.id ∈ journal.ids)
    (second : Accounted other begun right later b)
    (others : ∀ object ∈ firstOccurrences right, object.id ∈ later.ids) : journal.Perm later := by
  have figures : (firstOccurrences left).map (fun object =>
      (object, Reference.figure left object.id)) =
      (firstOccurrences left).map fun object => (object, Reference.figure right object.id) := by
    refine List.map_congr_left fun object distinct => Prod.ext rfl ?_
    refine (first.figure_eq (all object distinct)).trans (first.justified.figure_unique
      (fun object measured => ?_) (all object distinct)).symm
    have known := (same.distinct object).mp ((first.members object).mpr (.inl measured))
    exact second.figure_recursive (second.mem_journal known (others object known))
  refine (first.journal_perm all).trans (List.Perm.trans ?_ (second.journal_perm others).symm)
  rw [figures]
  exact same.perm.map _

/-- A survey tells the same about a history in whatever order its objects arrive and however often:
the same totals, and in every category the same values. Only who takes the last places among equals
is up to the order. -/
theorem run_of_sameHistory (left right : List HistoryObject) (references : List String)
    (same : SameHistory left right) (few : FewLinks left)
    (followed : ∀ object ∈ left, object.Followed) :
    let first := (Survey.run (ofList left references none) none).result
    let second := (Survey.run (ofList right references none) none).result
    ((∃ s, first = .ok s) ↔ ∃ t, second = .ok t) ∧
    ∀ s t, first = .ok s → second = .ok t →
      s.unranked = t.unranked ∧ ∀ category,
        let board := s.rankings.board category
        let other := t.rankings.board category
        board.contenders.length = other.contenders.length ∧
        board.contenders.map Contender.value = other.contenders.map Contender.value ∧
        ∀ object ∈ left, ∀ c,
          (category, c) ∈ Summary.contenders object (Reference.figure left object.id) →
            ∀ last ∈ board.contenders, last.value < c.value →
              board.contains c.id = true ∧ other.contains c.id = true := by
  intro first second
  refine ⟨?_, fun s t fine well => ?_⟩
  · have also : ∀ object ∈ right, object.Followed := fun object member =>
      followed object ((same.members object).mpr member)
    rw [run_ok_iff left references few followed, run_ok_iff right references (same.few few) also]
    exact ⟨same.sound, same.symm.sound⟩
  · obtain ⟨journal, a, accounted, all, rfl⟩ := accounted_of_run fine
    obtain ⟨later, b, known, others, rfl⟩ := accounted_of_run well
    have permuted := same.journal_perm accounted all known others
    refine ⟨?_, fun category => ?_⟩
    · refine (Totals.of_summary references journal).unranked_eq
        ((Totals.of_summary references later).perm permuted.symm) ?_
      rw [Journal.summary_references, Journal.summary_references]
    · have consistent := accounted.justified.consistent category
      have offers : (Rankings.offersIn category journal.offers).Perm
          (Rankings.offersIn category later.offers) :=
        ((Journal.offers_perm permuted).filter _).map _
      have values := Ranking.values_board_of_perm consistent offers
      simp only [Journal.board_summary]
      refine ⟨by simpa using congrArg List.length values, values, ?_⟩
      intro object member c contends last shown larger
      have offered : c ∈ Rankings.offersIn category journal.offers := by
        refine List.mem_map.mpr ⟨(category, c), List.mem_filter.mpr ⟨?_, ?_⟩, rfl⟩
        · have distinct := (mem_firstOccurrences_iff same.identified object).mpr member
          have listed := (accounted.journal_perm all).symm.subset
            (List.mem_map_of_mem distinct (f := fun object =>
              (object, Reference.figure left object.id)))
          exact (Journal.mem_offers_iff journal _).mpr ⟨_, listed, contends⟩
        · exact decide_eq_true ⟨rfl, Nat.ne_zero_of_lt larger⟩
      have also : last.value ∈ ((Rankings.offersIn category later.offers).foldl Ranking.offer
          Ranking.empty).contenders.map Contender.value := values ▸ List.mem_map_of_mem shown
      obtain ⟨equal, stands, level⟩ := List.mem_map.mp also
      exact ⟨Ranking.on_board_of_lt consistent offered shown larger,
        Ranking.on_board_of_lt (consistent.perm offers) (offers.subset offered) stands
          (level ▸ larger)⟩

theorem run_of_sameHistory_reversed :
    SameHistory taggedHistory taggedHistory.reverse ∧ FewLinks taggedHistory ∧
    (∀ object ∈ taggedHistory, object.Followed) ∧
    ∀ s t, (Survey.run (ofList taggedHistory [] none) none).result = .ok s →
      (Survey.run (ofList taggedHistory.reverse [] none) none).result = .ok t →
        s.unranked = t.unranked := by
  have same : SameHistory taggedHistory taggedHistory.reverse :=
    ⟨fun _ => List.mem_reverse.symm, by decide⟩
  have few : FewLinks taggedHistory := .of_listed (by decide)
  have followed : ∀ object ∈ taggedHistory, object.Followed := by decide
  have all := run_of_sameHistory taggedHistory taggedHistory.reverse [] same few followed
  exact ⟨same, few, followed, fun s t fine well => (all.2 s t fine well).1⟩

end Assembly

end HistorySurvey
