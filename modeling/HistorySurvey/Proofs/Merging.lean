import HistorySurvey.Proofs.Arrival
import HistorySurvey.Proofs.Board
import HistorySurvey.Proofs.Independence

/-! Summaries of two histories put together. Totals of both are added, largest figures compared, and
of two boards with five places each the five best are kept: nobody else could be among the five best
of all. -/
namespace HistorySurvey

namespace Ranking

theorem firstOffers_append {offers later : List Contender}
    (disjoint : (offers.map Contender.id).Disjoint (later.map Contender.id)) :
    firstOffers (offers ++ later) = firstOffers offers ++ firstOffers later :=
  firsts_append Contender.id firstOffers rfl firstOffers_concat disjoint

/-! A stable sort of two lists merges what it makes of each. -/

theorem level_append (value : Nat) (first second : List Contender) :
    level value (first ++ second) = level value first ++ level value second :=
  List.filter_append ..

theorem level_cons (value : Nat) (c : Contender) (rest : List Contender) :
    level value (c :: rest) =
      if c.value = value then c :: level value rest else level value rest := by
  simp only [level, List.filter_cons, decide_eq_true_eq]

/-- Nobody is as large as who is larger than the head. -/
theorem Descending.level_eq_nil {value : Nat} {c : Contender} {others : List Contender}
    (descending : Descending (c :: others)) (larger : c.value < value) :
    level value (c :: others) = [] := by
  refine List.filter_eq_nil_iff.mpr fun d member => ?_
  have small : d.value ≤ c.value := by
    rcases List.mem_cons.mp member with rfl | inside
    · exact Nat.le_refl _
    · exact (List.pairwise_cons.mp descending).1 d inside
  simp only [decide_eq_true_eq]
  omega

/-- Among equals those of the first list come first. -/
theorem level_merge (value : Nat) {first : List Contender} (descending : Descending first)
    (second : List Contender) :
    level value (first.merge second largerFirst) = level value first ++ level value second := by
  induction first generalizing second with
  | nil => rw [List.nil_merge]; rfl
  | cons c others ih =>
    have below := (List.pairwise_cons.mp descending).2
    induction second with
    | nil => rw [List.merge_right]; exact (List.append_nil _).symm
    | cons d rest ahead =>
      rw [List.cons_merge_cons]
      split
      · rw [level_cons, ih below, level_cons value c]
        split <;> rfl
      · rename_i smaller
        have larger : c.value < d.value := by simpa [largerFirst] using smaller
        rw [level_cons, ahead, level_cons value d]
        split
        · rename_i equal
          rw [descending.level_eq_nil (equal ▸ larger)]
          rfl
        · rfl

theorem mergeSort_append (first second : List Contender) :
    (first ++ second).mergeSort largerFirst =
      (first.mergeSort largerFirst).merge (second.mergeSort largerFirst) largerFirst := by
  have sorted (contenders : List Contender) :
      (contenders.mergeSort largerFirst).Pairwise fun c d => largerFirst c d = true :=
    List.pairwise_mergeSort largerFirst_trans largerFirst_total contenders
  have merged : Descending
      ((first.mergeSort largerFirst).merge (second.mergeSort largerFirst) largerFirst) :=
    (List.pairwise_merge largerFirst_trans largerFirst_total _ _ (sorted first)
      (sorted second)).imp of_decide_eq_true
  refine Descending.eq_of_levels ((sorted _).imp of_decide_eq_true) merged fun value => ?_
  rw [level_merge value ((sorted first).imp of_decide_eq_true), level_mergeSort, level_mergeSort,
    level_mergeSort, level_append]

/-- The beginning of a merge needs no more than the beginnings of both lists. -/
theorem take_merge {n k l : Nat} (left : n ≤ k) (right : n ≤ l) (first second : List Contender) :
    ((first.take k).merge (second.take l) largerFirst).take n =
      (first.merge second largerFirst).take n := by
  induction n generalizing first second k l with
  | zero => rfl
  | succ n ih =>
    obtain ⟨k, rfl⟩ : ∃ i, k = i + 1 := ⟨k - 1, by omega⟩
    obtain ⟨l, rfl⟩ : ∃ i, l = i + 1 := ⟨l - 1, by omega⟩
    cases first with
    | nil => simp [List.take_take, Nat.min_eq_left right]
    | cons c others =>
      cases second with
      | nil => simp [List.take_take, Nat.min_eq_left (Nat.le_of_succ_le_succ left)]
      | cons d rest =>
        rw [List.take_succ_cons, List.take_succ_cons, List.cons_merge_cons, List.cons_merge_cons]
        split
        · have tail := ih (Nat.le_of_succ_le_succ left) (Nat.le_of_succ_le right) others (d :: rest)
          rw [List.take_succ_cons] at tail
          rw [List.take_succ_cons, List.take_succ_cons, tail]
        · have tail := ih (Nat.le_of_succ_le left) (Nat.le_of_succ_le_succ right) (c :: others) rest
          rw [List.take_succ_cons] at tail
          rw [List.take_succ_cons, List.take_succ_cons, tail]

/-- The five best of two boards are the five best of all. -/
theorem contenders_append {offers later : List Contender}
    (disjoint : (offers.map Contender.id).Disjoint (later.map Contender.id))
    (consistent : Consistent (offers ++ later)) (also : Consistent later) :
    (ofOffers (offers ++ later)).contenders =
      (((ofOffers offers).contenders ++ (ofOffers later).contenders).mergeSort
        fun c d => d.value ≤ c.value).take 5 := by
  have shown {some : List Contender} (consistent : Consistent some) :
      (ofOffers some).contenders = ((firstOffers some).mergeSort largerFirst).take 5 := by
    rw [ofOffers, contenders_offerAll consistent, standings_eq_mergeSort]
    rfl
  have settled (some : List Contender) :
      (ofOffers some).contenders.mergeSort largerFirst = (ofOffers some).contenders :=
    List.mergeSort_of_pairwise ((descending_ofOffers some).imp decide_eq_true)
  calc (ofOffers (offers ++ later)).contenders
    _ = (((firstOffers offers).mergeSort largerFirst).merge
          ((firstOffers later).mergeSort largerFirst) largerFirst).take 5 := by
      rw [shown consistent, firstOffers_append disjoint, mergeSort_append]
    _ = ((ofOffers offers).contenders.merge (ofOffers later).contenders largerFirst).take 5 := by
      rw [shown consistent.of_append, shown also, take_merge (Nat.le_refl 5) (Nat.le_refl 5)]
    _ = (((ofOffers offers).contenders ++ (ofOffers later).contenders).mergeSort
          largerFirst).take 5 := by
      rw [mergeSort_append, settled, settled]

end Ranking

namespace Rankings

theorem offersIn_append (category : Category) (offers later : List (Category × Contender)) :
    offersIn category (offers ++ later) = offersIn category offers ++ offersIn category later := by
  rw [offersIn, List.filter_append, List.map_append]
  rfl

end Rankings

namespace Journal

theorem offers_append (later journal : Journal) :
    offers (later ++ journal) = journal.offers ++ later.offers := by
  rw [offers, List.reverse_append, List.flatMap_append]
  rfl

/-- Whoever is ranked was measured. -/
theorem Justified.ids_offersIn {journal : Journal} (justified : journal.Justified)
    {category : Category} {id : ObjectId}
    (offered : id ∈ (Rankings.offersIn category journal.offers).map Contender.id) :
    id ∈ journal.ids := by
  obtain ⟨c, member, rfl⟩ := List.mem_map.mp offered
  obtain ⟨_, ⟨object, m⟩, inside, contends⟩ := exists_of_mem_offersIn member
  rcases Summary.of_mem_contenders contends with ⟨own, _⟩ | ⟨commit, rfl, root, _⟩
  · rw [own]
    exact List.mem_map_of_mem inside
  · rw [root, ← measure?_isSome_iff, (justified.root_measured inside).2]
    rfl

end Journal

namespace References.GroupCounts

def names (counts : GroupCounts) : List String := counts.entries.map Prod.fst

theorem mem_names_increment (counts : GroupCounts) (group other : String) :
    other ∈ (counts.increment group).names ↔ other = group ∨ other ∈ counts.names := by
  obtain ⟨entries, ascending⟩ := counts
  simp only [names, increment]
  clear ascending
  induction entries with
  | nil => simp [incrementIn]
  | cons entry rest ih =>
    rw [incrementIn]
    split
    · rename_i same
      simp [same]
    · split
      · simp
      · simp only [List.map_cons, List.mem_cons, ih]
        exact or_left_comm

end References.GroupCounts

theorem Summary.mem_groups_ofReferences (references : List String) (group : String) :
    group ∈ (ofReferences references).references.groups.names ↔
      group ∈ references.map References.groupOf := by
  unfold ofReferences
  induction references using List.reverseRecOn with
  | nil => rfl
  | append_singleton references reference ih =>
    rw [List.foldl_append, List.foldl_cons, List.foldl_nil, recordReference,
      References.GroupCounts.mem_names_increment, ih, List.map_append, List.mem_append,
      List.map_singleton, List.mem_singleton, or_comm]

/-! The totals of two histories. -/

def CommitTotals.merge (a b : CommitTotals) : CommitTotals :=
  { count := a.count + b.count
    bytes := a.bytes + b.bytes
    maxSize := max a.maxSize b.maxSize
    maxDepth := max a.maxDepth b.maxDepth
    maxParents := max a.maxParents b.maxParents }

def TreeTotals.merge (a b : TreeTotals) : TreeTotals :=
  { count := a.count + b.count
    bytes := a.bytes + b.bytes
    entries := a.entries + b.entries
    maxEntries := max a.maxEntries b.maxEntries }

def BlobTotals.merge (a b : BlobTotals) : BlobTotals :=
  { count := a.count + b.count
    bytes := a.bytes + b.bytes
    maxSize := max a.maxSize b.maxSize }

def TagTotals.merge (a b : TagTotals) : TagTotals :=
  { count := a.count + b.count
    maxDepth := max a.maxDepth b.maxDepth }

namespace Totals

private theorem zero_max {width : Nat} (x : Count width) : max 0 x = x := by
  apply Count.ext_value
  rw [Count.value_max]
  exact Nat.zero_max _

private theorem max_right_comm {width : Nat} (x y z : Count width) :
    max (max x y) z = max (max x z) y := by
  apply Count.ext_value
  simp only [Count.value_max]
  omega

theorem largest_append {width : Nat} (figures others : List (Count width)) :
    largest (figures ++ others) = max (largest figures) (largest others) := by
  induction figures with
  | nil => exact (zero_max _).symm
  | cons figure rest ih => rw [List.cons_append, largest_cons, ih, largest_cons, max_right_comm]

theorem largestCheckout_append (checkouts others : List Checkout) :
    largestCheckout (checkouts ++ others) =
      max (largestCheckout checkouts) (largestCheckout others) := by
  induction checkouts with
  | nil =>
    change largestCheckout others = Checkout.max Checkout.empty (largestCheckout others)
    simp only [Checkout.max, Checkout.empty, zero_max]
  | cons checkout rest ih =>
    rw [List.cons_append, largestCheckout_cons, ih, largestCheckout_cons]
    change Checkout.max (Checkout.max _ _) _ = Checkout.max (Checkout.max _ _) _
    simp only [Checkout.max, max_right_comm]

theorem ofCommits_append (commits others : List (Nat × CommitMeasure)) :
    ofCommits (commits ++ others) = (ofCommits commits).merge (ofCommits others) := by
  simp only [ofCommits, CommitTotals.merge, List.length_append, List.map_append, List.sum_append,
    largest_append, Count.ofNat_add]

theorem ofTrees_append (trees others : List (Nat × TreeMeasure)) :
    ofTrees (trees ++ others) = (ofTrees trees).merge (ofTrees others) := by
  simp only [ofTrees, TreeTotals.merge, List.length_append, List.map_append, List.sum_append,
    largest_append, Count.ofNat_add]

theorem ofBlobs_append (sizes others : List Count32) :
    ofBlobs (sizes ++ others) = (ofBlobs sizes).merge (ofBlobs others) := by
  simp only [ofBlobs, BlobTotals.merge, List.length_append, List.map_append, List.sum_append,
    largest_append, Count.ofNat_add]

theorem ofTags_append (tags others : List TagMeasure) :
    ofTags (tags ++ others) = (ofTags tags).merge (ofTags others) := by
  simp only [ofTags, TagTotals.merge, List.length_append, List.map_append, largest_append,
    Count.ofNat_add]

end Totals

/-- A summary is the sum of two others: counts are added, each with its limit, of largest figures the
larger one is kept, and of two boards the five best, those of the first board first among equals. -/
structure Summary.Merged (s t u : Summary) : Prop where
  commits : u.commits = s.commits.merge t.commits
  trees : u.trees = s.trees.merge t.trees
  blobs : u.blobs = s.blobs.merge t.blobs
  tags : u.tags = s.tags.merge t.tags
  checkout : u.checkout = max s.checkout t.checkout
  referenceCount : u.references.count = s.references.count + t.references.count
  groups : ∀ group, u.references.groups.countOf group =
    s.references.groups.countOf group + t.references.groups.countOf group
  groupNames : ∀ group, group ∈ u.references.groups.names ↔
    group ∈ s.references.groups.names ∨ group ∈ t.references.groups.names
  boards : ∀ category, (u.rankings.board category).contenders =
    (((s.rankings.board category).contenders ++ (t.rankings.board category).contenders).mergeSort
      fun c d => d.value ≤ c.value).take 5

/-- What was measured after something else adds up with it. -/
theorem Journal.merged_summary {journal later : Journal} (justified : journal.Justified)
    (also : later.Justified) (joint : (later ++ journal).Justified)
    (disjoint : journal.ids.Disjoint later.ids) (references others : List String) :
    (journal.summary (Summary.ofReferences references)).Merged
      (later.summary (Summary.ofReferences others))
      ((later ++ journal).summary (Summary.ofReferences (references ++ others))) := by
  have first := Totals.of_summary references journal
  have second := Totals.of_summary others later
  have whole := (Totals.of_summary (references ++ others) (later ++ journal)).perm
    List.perm_append_comm
  have commits : Totals.commits (journal ++ later) =
      Totals.commits journal ++ Totals.commits later := List.filterMap_append
  have trees : Totals.trees (journal ++ later) =
      Totals.trees journal ++ Totals.trees later := List.filterMap_append
  have blobs : Totals.blobs (journal ++ later) =
      Totals.blobs journal ++ Totals.blobs later := List.filterMap_append
  have tags : Totals.tags (journal ++ later) =
      Totals.tags journal ++ Totals.tags later := List.filterMap_append
  constructor
  case commits =>
    rw [whole.commits, first.commits, second.commits, commits, Totals.ofCommits_append]
  case trees => rw [whole.trees, first.trees, second.trees, trees, Totals.ofTrees_append]
  case blobs => rw [whole.blobs, first.blobs, second.blobs, blobs, Totals.ofBlobs_append]
  case tags => rw [whole.tags, first.tags, second.tags, tags, Totals.ofTags_append]
  case checkout =>
    rw [whole.checkout, first.checkout, second.checkout, commits, List.map_append,
      Totals.largestCheckout_append]
  case referenceCount =>
    rw [whole.referenceCount, first.referenceCount, second.referenceCount, List.length_append,
      Count.ofNat_add]
  case groups =>
    intro group
    rw [whole.groups, first.groups, second.groups, List.map_append, List.count_append,
      Count.ofNat_add]
  case groupNames =>
    intro group
    simp only [summary_references, Summary.mem_groups_ofReferences, List.map_append,
      List.mem_append]
  case boards =>
    intro category
    have apart : ((Rankings.offersIn category journal.offers).map Contender.id).Disjoint
        ((Rankings.offersIn category later.offers).map Contender.id) := fun id offered after =>
      disjoint (justified.ids_offersIn offered) (also.ids_offersIn after)
    have consistent := joint.consistent category
    rw [offers_append, Rankings.offersIn_append] at consistent
    rw [board_summary, board_summary, board_summary, offers_append, Rankings.offersIn_append]
    exact Ranking.contenders_append apart consistent (also.consistent category)

namespace Assembly
open ObjectStream Dependency

/-- Histories with no objects in common add up. If each of them is surveyed without a failure, then
so is one followed by the other, and its summary is that of the two summaries together. -/
theorem run_of_disjoint (first second : List HistoryObject) (references others : List String)
    (s t : Summary) (few : FewLinks (first ++ second))
    (disjoint : (first.map HistoryObject.id).Disjoint (second.map HistoryObject.id))
    (fine : (Survey.run (ofList first references none) none).result = .ok s)
    (well : (Survey.run (ofList second others none) none).result = .ok t) :
    ∃ u, (Survey.run (ofList (first ++ second) (references ++ others) none) none).result = .ok u ∧
      s.Merged t u := by
  obtain ⟨journal, later, justified, joint, rfl, rfl, own, known, also, whole⟩ :=
    run_append few disjoint fine well
  refine ⟨_, whole, Journal.merged_summary justified also joint (fun id measured after => ?_) _ _⟩
  obtain ⟨object, inside, rfl⟩ := Journal.exists_of_mem_ids measured
  obtain ⟨other, outside, same⟩ := Journal.exists_of_mem_ids after
  exact disjoint (List.mem_map_of_mem (own object inside))
    (same ▸ List.mem_map_of_mem (known other outside))

/-- A tree with a blob that no other history has. -/
def separateHistory : List HistoryObject :=
  [.tree (.ofNat 8) 33 [.toObject (.ofNat 7)], .blob (.ofNat 7) 12]

theorem run_of_disjoint_separate :
    FewLinks (taggedHistory ++ separateHistory) ∧
    (taggedHistory.map HistoryObject.id).Disjoint (separateHistory.map HistoryObject.id) ∧
    ∃ s t u,
      (Survey.run (ofList taggedHistory ["refs/tags/v1"] none) none).result = .ok s ∧
      (Survey.run (ofList separateHistory ["refs/heads/main"] none) none).result = .ok t ∧
      (Survey.run (ofList (taggedHistory ++ separateHistory) ["refs/tags/v1", "refs/heads/main"]
        none) none).result = .ok u ∧ s.Merged t u := by
  have few : FewLinks (taggedHistory ++ separateHistory) := .of_listed (by decide)
  have disjoint : (taggedHistory.map HistoryObject.id).Disjoint
      (separateHistory.map HistoryObject.id) := by
    unfold List.Disjoint
    decide
  obtain ⟨s, fine⟩ := run_taggedHistory ["refs/tags/v1"]
  have acyclic : Acyclic separateHistory := .of_falling (·.bits.toNat) (by decide)
  obtain ⟨t, well⟩ := (run_ok_iff separateHistory ["refs/heads/main"] (.of_listed (by decide))
    (by decide)).mpr ⟨.of_listed (by decide), acyclic, .of_forall (by decide)⟩
  obtain ⟨u, whole, merged⟩ := run_of_disjoint taggedHistory separateHistory ["refs/tags/v1"]
    ["refs/heads/main"] s t few disjoint fine well
  exact ⟨few, disjoint, s, t, u, fine, well, whole, merged⟩

end Assembly

end HistorySurvey
