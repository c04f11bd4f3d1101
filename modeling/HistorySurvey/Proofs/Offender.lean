import Mathlib.Data.List.MinMax
import HistorySurvey.Proofs.Arrival
import HistorySurvey.Report.Rating

/-! The object that a report names beside a figure. The figure is a maximum, kept apart from the
rankings; the name is that of whoever leads a ranking. They agree, because a ranking is offered what
the maximum is taken of, and loses nobody who is larger than those it keeps. -/
namespace HistorySurvey

namespace Rankings

/-- The largest value offered in a category, or zero. -/
def largestIn (category : Category) (offers : List (Category × Contender)) : Nat :=
  ((offersIn category offers).map Contender.value).foldr max 0

theorem largestIn_nil (category : Category) : largestIn category [] = 0 := rfl

theorem largestIn_cons (category : Category) (offer : Category × Contender)
    (rest : List (Category × Contender)) :
    largestIn category (offer :: rest) =
      if offer.1 = category then max offer.2.value (largestIn category rest)
      else largestIn category rest := by
  rw [largestIn, offersIn_cons]
  by_cases same : offer.1 = category
  · by_cases nothing : offer.2.value = 0
    · simp [same, nothing, largestIn]
    · simp [same, nothing, largestIn]
  · simp [same, largestIn]

theorem largestIn_append (category : Category) (first rest : List (Category × Contender)) :
    largestIn category (first ++ rest) =
      max (largestIn category first) (largestIn category rest) := by
  induction first with
  | nil => exact (Nat.zero_max _).symm
  | cons offer others ih =>
    rw [List.cons_append, largestIn_cons, largestIn_cons, ih]
    split
    · rw [Nat.max_assoc]
    · rfl

theorem le_largestIn {category : Category} {offers : List (Category × Contender)} {c : Contender}
    (offered : c ∈ offersIn category offers) : c.value ≤ largestIn category offers :=
  List.le_max_of_le (List.mem_map_of_mem offered) (Nat.le_refl c.value)

theorem largestIn_eq {category : Category} {offers : List (Category × Contender)} {c : Contender}
    (offered : c ∈ offersIn category offers)
    (above : ∀ d ∈ offersIn category offers, d.value ≤ c.value) :
    largestIn category offers = c.value := by
  have bound : largestIn category offers ≤ c.value :=
    List.max_le_of_forall_le _ _ (List.forall_mem_map.mpr above)
  exact Nat.le_antisymm bound (le_largestIn offered)

end Rankings

/-- Nobody leads a board without offers, and whoever leads one was offered and is the largest. -/
theorem Ranking.Consistent.top {offers : List Contender} (consistent : Ranking.Consistent offers) :
    match (offers.foldl Ranking.offer Ranking.empty).top with
    | none => offers = []
    | some c => c ∈ offers ∧ ∀ d ∈ offers, d.value ≤ c.value := by
  rw [Ranking.top, contenders_offerAll consistent, List.head?_take, if_neg (by decide)]
  have standing {d : Contender} (offered : d ∈ offers) := consistent.standing offered
  have descending := descending_standings offers
  have listed := standings_perm offers
  cases order : standings offers with
  | nil =>
    refine List.eq_nil_iff_forall_not_mem.mpr fun d offered => ?_
    obtain ⟨e, inside, _⟩ := standing offered
    rw [order] at inside
    contradiction
  | cons c rest =>
    rw [order] at listed descending
    refine ⟨mem_of_mem_firstOffers (listed.subset List.mem_cons_self), fun d offered => ?_⟩
    obtain ⟨e, inside, _, level⟩ := standing offered
    rw [order] at inside
    rcases List.mem_cons.mp inside with rfl | below
    · exact Nat.le_of_eq level.symm
    · exact level ▸ (List.pairwise_cons.mp descending).1 e below

namespace Summary

theorem figure_record {metric : Metric} {category : Category}
    (ranked : metric.category? = some category) (s : Summary) (object : HistoryObject)
    (m : Measure) :
    ((s.record object m).figure metric).value =
      max (s.figure metric).value (Rankings.largestIn category (contenders object m)) := by
  have checkout (a b : Checkout) : max a b = a.max b := rfl
  rw [record_eq]
  cases metric <;> simp only [Metric.category?, reduceCtorEq, Option.some.injEq] at ranked <;>
    subst ranked <;> cases m <;>
    simp [figure, Figure.ofCount, tally, contenders, ownFigures, rootContenders, checkoutFigures,
      Rankings.largestIn_cons, Rankings.largestIn_nil, checkout, Checkout.max]

theorem figure_references {metric : Metric} {category : Category}
    (ranked : metric.category? = some category) (names : List String) :
    ((Summary.ofReferences names).figure metric).value = 0 := by
  unfold Summary.ofReferences
  induction names using List.reverseRecOn with
  | nil => cases metric <;> rfl
  | append_singleton names name ih =>
    rw [List.foldl_append, ← ih]
    cases metric <;> first | rfl | contradiction

end Summary

namespace Journal

/-- A figure that somebody leads is the largest of all that was offered for it. -/
theorem figure_summary {metric : Metric} {category : Category}
    (ranked : metric.category? = some category) (names : List String) (journal : Journal) :
    ((journal.summary (Summary.ofReferences names)).figure metric).value =
      Rankings.largestIn category journal.offers := by
  induction journal with
  | nil => exact Summary.figure_references ranked names
  | cons entry earlier ih =>
    change ((Summary.record (summary _ earlier) entry.1 entry.2).figure metric).value = _
    rw [Summary.figure_record ranked, ih, offers_cons, Rankings.largestIn_append]

end Journal

/-- Commits are ranked in this category by their checkouts, under their root trees. -/
def Category.OfCheckout (category : Category) : Prop :=
  category ∈ (Summary.checkoutFigures Checkout.empty).map Prod.fst

instance (category : Category) : Decidable category.OfCheckout :=
  inferInstanceAs (Decidable (_ ∈ _))

namespace Assembly
open ObjectStream

def HasFigure (objects : List HistoryObject) (category : Category) (id : ObjectId) (value : Nat) :
    Prop :=
  ∃ object ∈ firstOccurrences objects, object.id = id ∧
    (category, value) ∈ Summary.ownFigures object (Reference.figure objects id)

/-- A commit among the objects scanned has a tree with this id for its root, also scanned, whose
checkout has this figure. -/
def RootHasFigure (objects : List HistoryObject) (category : Category) (id : ObjectId)
    (value : Nat) : Prop :=
  ∃ commit ∈ firstOccurrences objects, ∃ tree ∈ firstOccurrences objects,
    commit.kind = .commit ∧ commit.links.head?.map Link.target = some id ∧ tree.id = id ∧
    ∃ m, Reference.figure objects id = .tree m ∧
      (category, value) ∈ Summary.checkoutFigures m.checkout

variable {hints : Hints} {start : Summary} {accepted : List HistoryObject} {journal : Journal}
  {a : Assembly}

theorem Accounted.hasFigure (accounted : Accounted hints start accepted journal a)
    {object : HistoryObject} {m : Measure} (entry : (object, m) ∈ journal) {category : Category}
    {value : Nat} (figure : (category, value) ∈ Summary.ownFigures object m) :
    HasFigure accepted category object.id value := by
  have inside : object ∈ journal.objects := List.mem_map_of_mem entry
  refine ⟨object, (accounted.members object).mpr (.inl inside), rfl, ?_⟩
  rw [accounted.figure_eq (Journal.mem_ids inside), Journal.figure,
    accounted.justified.measure?_of_mem entry]
  exact figure

theorem Accounted.rootHasFigure (accounted : Accounted hints start accepted journal a)
    {object : HistoryObject} {commit : CommitMeasure} (entry : (object, .commit commit) ∈ journal)
    {category : Category} {value : Nat}
    (figure : (category, value) ∈ Summary.checkoutFigures commit.rootTree.checkout) :
    RootHasFigure accepted category commit.root value := by
  obtain ⟨first, measured⟩ := accounted.justified.root_measured entry
  have inside : object ∈ journal.objects := List.mem_map_of_mem entry
  have known : commit.root ∈ journal.ids :=
    (Journal.measure?_isSome_iff journal _).mp (by rw [measured]; rfl)
  have kind : object.kind = .commit := by
    have kinds := accounted.justified.kindOf_eq inside
    rw [Journal.kindOf, accounted.justified.measure?_of_mem entry] at kinds
    exact (Option.some.inj kinds).symm
  obtain ⟨tree, present, named⟩ := Journal.exists_of_mem_ids known
  refine ⟨object, (accounted.members object).mpr (.inl inside), tree,
    (accounted.members tree).mpr (.inl present), kind, first, named, commit.rootTree, ?_, figure⟩
  rw [accounted.figure_eq known, Journal.figure, measured]
  rfl

/-- The object named beside a figure is the one that has it. It is named whenever the figure is more
than zero, and for a checkout it is the root tree of a commit. -/
theorem offender_has_figure (stream : ObjectStream) (stopAfter : Option Nat) (s : Summary)
    (fine : (Survey.run stream stopAfter).result = .ok s) (scale : Scale) (item : Item)
    (category : Category) (ranked : item.metric.category? = some category) :
    ((item.offender s).isSome = true ↔ 0 < (item.rate s scale).figure.value) ∧
    ∀ c, item.offender s = some c →
      c.value = (item.rate s scale).figure.value ∧
      if category.OfCheckout then RootHasFigure stream.objects category c.id c.value
      else HasFigure stream.objects category c.id c.value := by
  obtain ⟨journal, a, accounted, _, rfl⟩ := accounted_of_stream fine
  have reported : (item.rate (journal.summary (Summary.ofReferences stream.references))
      scale).figure.value = Rankings.largestIn category journal.offers :=
    Journal.figure_summary ranked stream.references journal
  have leader := (accounted.justified.consistent category).top
  have named : item.offender (journal.summary (Summary.ofReferences stream.references)) =
      ((Rankings.offersIn category journal.offers).foldl Ranking.offer Ranking.empty).top := by
    rw [Item.offender, ranked, Option.bind_some, Rankings.top, Journal.board_summary]
  rw [reported, named]
  generalize ((Rankings.offersIn category journal.offers).foldl Ranking.offer
    Ranking.empty).top = first at leader
  cases first with
  | none =>
    have nothing : Rankings.largestIn category journal.offers = 0 := by
      rw [Rankings.largestIn, leader]
      rfl
    simp [nothing]
  | some c =>
    obtain ⟨offered, above⟩ := leader
    obtain ⟨some, ⟨object, m⟩, entry, contends⟩ := Journal.exists_of_mem_offersIn offered
    have largest := Rankings.largestIn_eq offered above
    refine ⟨?_, fun d same => ?_⟩
    · rw [largest]
      simpa using Nat.pos_of_ne_zero some
    · obtain rfl := Option.some.inj same
      refine ⟨largest.symm, ?_⟩
      rcases Summary.of_mem_contenders contends with ⟨own, figure⟩ | ⟨commit, rfl, root, figure⟩
      · have apart : ¬ category.OfCheckout := fun also =>
          Summary.disjoint_figures object m Checkout.empty (List.mem_map_of_mem figure) also
        rw [if_neg apart, own]
        exact accounted.hasFigure entry figure
      · have also : category.OfCheckout := List.mem_map_of_mem (f := Prod.fst) figure
        rw [if_pos also, root]
        exact accounted.rootHasFigure entry figure

/-- A checkout has two files at most, and a root tree that has them is named. -/
theorem offender_has_figure_tagged :
    ∃ s c, (Survey.run (ofList taggedHistory [] none) none).result = .ok s ∧
      Metric.checkoutBlobs.category? = some .checkoutBlobs ∧
      let item : Item := ⟨.checkoutBlobs, "Number of files", "", "", .decimal⟩
      item.offender s = some c ∧ c.value = (s.figure .checkoutBlobs).value ∧
        RootHasFigure taggedHistory .checkoutBlobs c.id c.value ∧ c.value = 2 := by
  obtain ⟨s, fine⟩ := run_taggedHistory []
  have files : (s.figure .checkoutBlobs).value = 2 := by
    change s.checkout.blobs.value = 2
    rw [(totals_of_run fine).checkout, firstOccurrences_taggedHistory]
    decide +kernel
  obtain ⟨named, behind⟩ := offender_has_figure (ofList taggedHistory [] none) none s fine
    Scale.standard ⟨.checkoutBlobs, "Number of files", "", "", .decimal⟩ .checkoutBlobs rfl
  obtain ⟨c, leads⟩ := Option.isSome_iff_exists.mp (named.mpr (files.symm ▸ Nat.two_pos))
  obtain ⟨value, root⟩ := behind c leads
  rw [if_pos (by decide)] at root
  exact ⟨s, c, fine, rfl, leads, value, root, value.trans files⟩

/-- The items of the report that name somebody. -/
example : ((Outline.itemsOfAll layout).filter (·.metric.category?.isSome)).length = 13 := by decide

end Assembly

end HistorySurvey
