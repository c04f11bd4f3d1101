import HistorySurvey.Proofs.Account
import HistorySurvey.Proofs.Standings

/-! The totals of a summary in closed form. Recording an object adds its figures to the totals and
offers it to the rankings, and neither part looks at the other. Totals are clamped sums and maxima
over the recorded objects, so their order leaves no trace. -/
namespace HistorySurvey

namespace Summary

/-- What a summary says apart from its rankings. -/
def unranked (s : Summary) : Summary := { s with rankings := Rankings.empty }

/-- Recording an object without ranking it. -/
def tally (s : Summary) (object : HistoryObject) : Measure → Summary
  | .blob size =>
    { s with blobs :=
      { count := s.blobs.count + 1
        bytes := s.blobs.bytes + size.widen
        maxSize := max s.blobs.maxSize size } }
  | .tree m =>
    { s with trees :=
      { count := s.trees.count + 1
        bytes := s.trees.bytes + Count.ofNat object.size
        entries := s.trees.entries + m.entries.widen
        maxEntries := max s.trees.maxEntries m.entries } }
  | .commit m =>
    { s with
      commits :=
        { count := s.commits.count + 1
          bytes := s.commits.bytes + Count.ofNat object.size
          maxSize := max s.commits.maxSize (.ofNat object.size)
          maxDepth := max s.commits.maxDepth m.depth
          maxParents := max s.commits.maxParents m.parents }
      checkout := max s.checkout m.rootTree.checkout }
  | .tag m =>
    { s with tags :=
      { count := s.tags.count + 1
        maxDepth := max s.tags.maxDepth m.depth } }

/-- The figures by which an object itself is ranked. -/
def ownFigures (object : HistoryObject) : Measure → List (Category × Nat)
  | .blob size => [(.blobSize, size.value)]
  | .tree m => [(.treeEntries, m.entries.value)]
  | .commit m =>
    [(.commitSize, (Count.ofNat object.size : Count32).value),
      (.parentCount, m.parents.value),
      (.historyDepth, m.depth.value)]
  | .tag m => [(.tagDepth, m.depth.value)]

/-- A commit brings its root tree into the rankings of checkouts. -/
def rootContenders (object : HistoryObject) : Measure → List (Category × Contender)
  | .commit m => (checkoutFigures m.rootTree.checkout).map fun figure =>
    (figure.1, ⟨m.root, figure.2, object.name.map Object.rootTreeName⟩)
  | _ => []

/-- Whom an object brings into the rankings, in the order of the offers. -/
def contenders (object : HistoryObject) (m : Measure) : List (Category × Contender) :=
  (ownFigures object m).map (fun figure => (figure.1, ⟨object.id, figure.2, object.name⟩)) ++
    rootContenders object m

/-- Recording is a tally and offers to the rankings, apart from each other. -/
theorem record_eq (s : Summary) (object : HistoryObject) (m : Measure) :
    s.record object m = { s.tally object m with
      rankings := (contenders object m).foldl (fun r offer => r.offer offer.1 offer.2)
        s.rankings } := by
  cases m <;> rfl

theorem tally_rankings (s : Summary) (r : Rankings) (object : HistoryObject) (m : Measure) :
    { s with rankings := r }.tally object m = { s.tally object m with rankings := r } := by
  cases m <;> rfl

end Summary

namespace References.GroupCounts

/-- The number of references in a group. -/
def countOf (counts : GroupCounts) (group : String) : Count32 :=
  (counts.entries.find? (·.1 = group)).elim 0 Prod.snd

theorem countOf_increment (counts : GroupCounts) (group other : String) :
    (counts.increment group).countOf other =
      if group = other then counts.countOf other + 1 else counts.countOf other := by
  obtain ⟨entries, ascending⟩ := counts
  simp only [countOf, increment]
  induction entries with
  | nil => by_cases same : group = other <;> simp [incrementIn, same]; rfl
  | cons entry rest ih =>
    obtain ⟨above, ascending⟩ := List.pairwise_cons.mp ascending
    have skipped (apart : entry.1 ≠ other) (later : List (String × Count32)) :
        (entry :: later).find? (·.1 = other) = later.find? (·.1 = other) := by
      rw [List.find?_cons, decide_eq_false apart]
    rw [incrementIn]
    by_cases here : group = entry.1
    · subst here
      rw [if_pos rfl]
      by_cases same : entry.1 = other
      · simp [same]
      · simp [same]
    · rw [if_neg here]
      by_cases before : group < entry.1
      · rw [if_pos before]
        by_cases same : group = other
        · subst same
          have absent : (entry :: rest).find? (·.1 = group) = none := by
            refine List.find?_eq_none.mpr fun e member => ?_
            rcases List.mem_cons.mp member with rfl | inside
            · simpa using Ne.symm here
            · have far := String.lt_trans before (above e inside)
              simpa using fun equal : e.1 = group => String.lt_irrefl _ (equal ▸ far)
          rw [absent, if_pos rfl, List.find?_cons, decide_eq_true rfl]
          rfl
        · rw [if_neg same, List.find?_cons, decide_eq_false same]
      · rw [if_neg before]
        by_cases same : entry.1 = other
        · subst same
          rw [if_neg here]
          simp
        · rw [skipped same, skipped same]
          exact ih ascending

end References.GroupCounts

namespace Journal

/-- All offers to the rankings, in the order in which they were made. -/
def offers (journal : Journal) : List (Category × Contender) :=
  journal.reverse.flatMap fun entry => Summary.contenders entry.1 entry.2

theorem summary_eq (start : Summary) (journal : Journal) :
    journal.summary start =
      { journal.foldr (fun entry s => s.tally entry.1 entry.2) start with
        rankings := journal.offers.foldl (fun r offer => r.offer offer.1 offer.2)
          start.rankings } := by
  induction journal with
  | nil => rfl
  | cons entry earlier ih =>
    have recorded : summary start (entry :: earlier) =
        (summary start earlier).record entry.1 entry.2 := rfl
    rw [recorded, ih, Summary.record_eq, Summary.tally_rankings, List.foldr_cons, offers, offers,
      List.reverse_cons, List.flatMap_append, List.foldl_append, List.flatMap_singleton]

theorem board_summary (names : List String) (journal : Journal) (category : Category) :
    (journal.summary (Summary.ofReferences names)).rankings.board category =
      (Rankings.offersIn category journal.offers).foldl Ranking.offer Ranking.empty := by
  have bare : (Summary.ofReferences names).rankings = Rankings.empty := by
    unfold Summary.ofReferences
    induction names using List.reverseRecOn with
    | nil => rfl
    | append_singleton names name ih =>
      rw [List.foldl_append]
      exact ih
  rw [summary_eq, bare]
  exact Rankings.board_offerAll journal.offers category

theorem summary_references (start : Summary) (journal : Journal) :
    (journal.summary start).references = start.references := by
  induction journal with
  | nil => rfl
  | cons entry earlier ih =>
    have recorded : (Summary.record (summary start earlier) entry.1 entry.2).references =
        (summary start earlier).references := by
      rw [Summary.record_eq]
      cases entry.2 <;> rfl
    exact recorded.trans ih

end Journal

namespace Totals

/-! The figures of each kind of object. -/

def blobs (entries : Journal) : List Count32 :=
  entries.filterMap fun entry => match entry.2 with
    | .blob size => some size
    | _ => none

/-- Trees with their sizes in bytes. -/
def trees (entries : Journal) : List (Nat × TreeMeasure) :=
  entries.filterMap fun entry => match entry.2 with
    | .tree m => some (entry.1.size, m)
    | _ => none

/-- Commits with their sizes in bytes. -/
def commits (entries : Journal) : List (Nat × CommitMeasure) :=
  entries.filterMap fun entry => match entry.2 with
    | .commit m => some (entry.1.size, m)
    | _ => none

def tags (entries : Journal) : List TagMeasure :=
  entries.filterMap fun entry => match entry.2 with
    | .tag m => some m
    | _ => none

/-- The largest of some figures, or zero. -/
def largest {width : Nat} (figures : List (Count width)) : Count width := figures.foldr max 0

/-- The largest figures of some checkouts, each on its own. -/
def largestCheckout (checkouts : List Checkout) : Checkout := checkouts.foldr max Checkout.empty

def ofCommits (commits : List (Nat × CommitMeasure)) : CommitTotals :=
  { count := .ofNat commits.length
    bytes := .ofNat (commits.map Prod.fst).sum
    maxSize := largest (commits.map fun commit => .ofNat commit.1)
    maxDepth := largest (commits.map fun commit => commit.2.depth)
    maxParents := largest (commits.map fun commit => commit.2.parents) }

def ofTrees (trees : List (Nat × TreeMeasure)) : TreeTotals :=
  { count := .ofNat trees.length
    bytes := .ofNat (trees.map Prod.fst).sum
    entries := .ofNat (trees.map fun tree => tree.2.entries.widen.value).sum
    maxEntries := largest (trees.map fun tree => tree.2.entries) }

def ofBlobs (sizes : List Count32) : BlobTotals :=
  { count := .ofNat sizes.length
    bytes := .ofNat (sizes.map fun size => size.widen.value).sum
    maxSize := largest sizes }

def ofTags (tags : List TagMeasure) : TagTotals :=
  { count := .ofNat tags.length
    maxDepth := largest (tags.map TagMeasure.depth) }

/-- A summary has the totals of some measured objects and of some references. -/
structure Of (references : List String) (entries : Journal) (s : Summary) : Prop where
  commits : s.commits = ofCommits (commits entries)
  trees : s.trees = ofTrees (trees entries)
  blobs : s.blobs = ofBlobs (blobs entries)
  tags : s.tags = ofTags (tags entries)
  checkout : s.checkout = largestCheckout ((Totals.commits entries).map (·.2.rootTree.checkout))
  referenceCount : s.references.count = .ofNat references.length
  groups : ∀ group, s.references.groups.countOf group =
    .ofNat ((references.map References.groupOf).count group)

/-! Adding one more object. -/

theorem largest_cons {width : Nat} (figure : Count width) (rest : List (Count width)) :
    largest (figure :: rest) = max (largest rest) figure := by
  apply Count.ext_value
  rw [largest, List.foldr_cons, Count.value_max, Count.value_max, Nat.max_comm]
  rfl

theorem largestCheckout_cons (checkout : Checkout) (rest : List Checkout) :
    largestCheckout (checkout :: rest) = max (largestCheckout rest) checkout := by
  have comm {width : Nat} (a b : Count width) : max a b = max b a := by
    apply Count.ext_value
    rw [Count.value_max, Count.value_max, Nat.max_comm]
  change Checkout.max checkout (largestCheckout rest) = Checkout.max (largestCheckout rest) checkout
  simp only [Checkout.max, comm checkout.pathDepth, comm checkout.pathLength, comm checkout.trees,
    comm checkout.blobs, comm checkout.blobBytes, comm checkout.links, comm checkout.submodules]

private theorem total_cons {width : Nat} (figure : Count width) (rest : Nat) :
    (Count.ofNat (figure.value + rest) : Count width) = .ofNat rest + figure := by
  have bound := figure.value_le
  apply Count.ext_value
  simp only [Count.value_add, Count.value_ofNat]
  omega

private theorem total_cons_nat {width : Nat} (figure rest : Nat) :
    (Count.ofNat (figure + rest) : Count width) = .ofNat rest + .ofNat figure := by
  rw [Count.ofNat_add, Nat.add_comm]

private theorem count_succ {width : Nat} (n : Nat) :
    (Count.ofNat (n + 1) : Count width) = .ofNat n + 1 := (Count.ofNat_add n 1).symm

private theorem ofCommits_cons (size : Nat) (m : CommitMeasure) (rest : List (Nat × CommitMeasure)) :
    ofCommits ((size, m) :: rest) =
      { count := (ofCommits rest).count + 1
        bytes := (ofCommits rest).bytes + Count.ofNat size
        maxSize := max (ofCommits rest).maxSize (.ofNat size)
        maxDepth := max (ofCommits rest).maxDepth m.depth
        maxParents := max (ofCommits rest).maxParents m.parents } := by
  simp only [ofCommits, List.length_cons, List.map_cons, List.sum_cons, largest_cons, count_succ,
    total_cons_nat]

private theorem ofTrees_cons (size : Nat) (m : TreeMeasure) (rest : List (Nat × TreeMeasure)) :
    ofTrees ((size, m) :: rest) =
      { count := (ofTrees rest).count + 1
        bytes := (ofTrees rest).bytes + Count.ofNat size
        entries := (ofTrees rest).entries + m.entries.widen
        maxEntries := max (ofTrees rest).maxEntries m.entries } := by
  simp only [ofTrees, List.length_cons, List.map_cons, List.sum_cons, largest_cons, count_succ]
  rw [total_cons, total_cons_nat]

private theorem ofBlobs_cons (size : Count32) (rest : List Count32) :
    ofBlobs (size :: rest) =
      { count := (ofBlobs rest).count + 1
        bytes := (ofBlobs rest).bytes + size.widen
        maxSize := max (ofBlobs rest).maxSize size } := by
  simp only [ofBlobs, List.length_cons, List.map_cons, List.sum_cons, largest_cons, count_succ,
    total_cons]

private theorem ofTags_cons (m : TagMeasure) (rest : List TagMeasure) :
    ofTags (m :: rest) =
      { count := (ofTags rest).count + 1
        maxDepth := max (ofTags rest).maxDepth m.depth } := by
  simp only [ofTags, List.length_cons, List.map_cons, largest_cons, count_succ]

theorem Of.tally {names : List String} {entries : Journal} {s : Summary}
    (totals : Of names entries s) (object : HistoryObject) (m : Measure) :
    Of names ((object, m) :: entries) (s.tally object m) := by
  cases m with
  | blob size =>
    refine { totals with blobs := ?_ }
    rw [Summary.tally, totals.blobs]
    exact (ofBlobs_cons size _).symm
  | tree m =>
    refine { totals with trees := ?_ }
    rw [Summary.tally, totals.trees]
    exact (ofTrees_cons object.size m _).symm
  | commit m =>
    refine { totals with commits := ?_, checkout := ?_ }
    · rw [Summary.tally, totals.commits]
      exact (ofCommits_cons object.size m _).symm
    · rw [Summary.tally, totals.checkout]
      exact (largestCheckout_cons m.rootTree.checkout _).symm
  | tag m =>
    refine { totals with tags := ?_ }
    rw [Summary.tally, totals.tags]
    exact (ofTags_cons m _).symm

theorem of_references (names : List String) :
    Of names [] (Summary.ofReferences names) := by
  unfold Summary.ofReferences
  induction names using List.reverseRecOn with
  | nil => constructor <;> intros <;> rfl
  | append_singleton names name ih =>
    rw [List.foldl_append, List.foldl_cons, List.foldl_nil]
    refine { ih with referenceCount := ?_, groups := fun group => ?_ }
    · rw [Summary.recordReference, ih.referenceCount, List.length_append]
      exact Count.ofNat_add names.length 1
    · rw [Summary.recordReference, References.GroupCounts.countOf_increment, ih.groups,
        List.map_append, List.count_append, List.map_singleton, List.count_singleton]
      by_cases same : References.groupOf name = group
      · rw [if_pos same, same, beq_self_eq_true, if_pos rfl]
        exact Count.ofNat_add _ 1
      · rw [if_neg same, if_neg (by simpa using same), Nat.add_zero]

theorem of_summary (names : List String) (journal : Journal) :
    Of names journal (journal.summary (Summary.ofReferences names)) := by
  rw [Journal.summary_eq]
  have tallied : Of names journal (journal.foldr (fun entry s => s.tally entry.1 entry.2)
      (Summary.ofReferences names)) := by
    induction journal with
    | nil => exact of_references names
    | cons entry earlier ih => exact ih.tally entry.1 entry.2
  exact { tallied with }

/-! Totals do not depend on an order. -/

private theorem largest_perm {width : Nat} {a b : List (Count width)} (permuted : a.Perm b) :
    largest a = largest b := by
  refine permuted.foldr_eq' (fun x _ y _ z => ?_) 0
  apply Count.ext_value
  simp only [Count.value_max]
  omega

private theorem largestCheckout_perm {a b : List Checkout} (permuted : a.Perm b) :
    largestCheckout a = largestCheckout b := by
  refine permuted.foldr_eq' (fun x _ y _ z => ?_) Checkout.empty
  have swap {width : Nat} (x y z : Count width) : max y (max x z) = max x (max y z) := by
    apply Count.ext_value
    simp only [Count.value_max]
    omega
  change Checkout.max y (Checkout.max x z) = Checkout.max x (Checkout.max y z)
  simp only [Checkout.max, swap x.pathDepth, swap x.pathLength, swap x.trees, swap x.blobs,
    swap x.blobBytes, swap x.links, swap x.submodules]

private theorem ofCommits_perm {a b : List (Nat × CommitMeasure)} (permuted : a.Perm b) :
    ofCommits a = ofCommits b := by
  simp only [ofCommits, permuted.length_eq, (permuted.map _).sum_eq, largest_perm (permuted.map _)]

private theorem ofTrees_perm {a b : List (Nat × TreeMeasure)} (permuted : a.Perm b) :
    ofTrees a = ofTrees b := by
  simp only [ofTrees, permuted.length_eq, (permuted.map _).sum_eq, largest_perm (permuted.map _)]

private theorem ofBlobs_perm {a b : List Count32} (permuted : a.Perm b) :
    ofBlobs a = ofBlobs b := by
  simp only [ofBlobs, permuted.length_eq, (permuted.map _).sum_eq, largest_perm permuted]

private theorem ofTags_perm {a b : List TagMeasure} (permuted : a.Perm b) : ofTags a = ofTags b := by
  simp only [ofTags, permuted.length_eq, largest_perm (permuted.map _)]

theorem Of.perm {names : List String} {entries others : Journal} {s : Summary}
    (totals : Of names entries s) (permuted : entries.Perm others) : Of names others s := by
  have found : (Totals.commits entries).Perm (Totals.commits others) := permuted.filterMap _
  exact { totals with
    commits := totals.commits.trans (ofCommits_perm found)
    trees := totals.trees.trans (ofTrees_perm (permuted.filterMap _))
    blobs := totals.blobs.trans (ofBlobs_perm (permuted.filterMap _))
    tags := totals.tags.trans (ofTags_perm (permuted.filterMap _))
    checkout := totals.checkout.trans (largestCheckout_perm (found.map _)) }

theorem Of.unranked_eq {names : List String} {entries : Journal} {s t : Summary}
    (left : Of names entries s) (right : Of names entries t)
    (references : s.references = t.references) : s.unranked = t.unranked := by
  unfold Summary.unranked
  rw [left.commits, left.trees, left.blobs, left.tags, left.checkout, references, right.commits,
    right.trees, right.blobs, right.tags, right.checkout]

end Totals

end HistorySurvey
