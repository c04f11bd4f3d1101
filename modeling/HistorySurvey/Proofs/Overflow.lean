import HistorySurvey.Proofs.Exact
import HistorySurvey.Report.Rating

/-! Reported figures against exact ones. Amounts are clamped in many places, and whether that made a
difference is seen only at the end, by a figure at the limit of its counter. That is enough: a
figure below its limit is exact, and no clamped amount is lost in one. -/
namespace HistorySurvey
open ObjectStream

namespace Metric

/-- The width of the counter that a figure is kept in. -/
def width : Metric → Nat
  | commitBytes | treeBytes | treeEntries | blobBytes | checkoutBytes => 64
  | _ => 32

/-- Totals are summed up over all objects. The other figures are the largest of any object. -/
def isTotal : Metric → Bool
  | commitCount | commitBytes | treeCount | treeBytes | treeEntries | blobCount | blobBytes
  | tagCount | referenceCount => true
  | _ => false

def join (metric : Metric) (figure amount : Nat) : Nat :=
  if metric.isTotal then figure + amount else max figure amount

end Metric

theorem Figure.ofCount_inj {width : Nat} {a b : Count width} :
    Figure.ofCount a = Figure.ofCount b ↔ a = b := by
  refine ⟨fun same => Count.ext_value (congrArg Figure.value same), fun same => same ▸ rfl⟩

namespace Count

theorem carry_add_ofNat {width : Nat} (total largest n : Nat) :
    (carry total largest + ofNat n : Count width) = carry (total + n) largest := by
  rw [← carry_zero n, add_carry, Nat.max_zero]

theorem max_carry_ofNat {width : Nat} (total largest n : Nat) :
    max (carry total largest : Count width) (ofNat n) = carry (max total n) largest := by
  rw [← carry_zero n, max_carry, Nat.max_zero]

end Count

namespace Exact

/-- What an object of this measure brings to a figure. -/
def contribution (object : HistoryObject) : Measure → Metric → Nat
  | .commit _, .commitCount => 1
  | .commit _, .commitBytes => object.size
  | .commit _, .maxCommitSize => object.size
  | .commit m, .maxParents => m.parents
  | .commit m, .historyDepth => m.depth
  | .commit m, .checkoutTrees => m.rootTree.checkout.trees
  | .commit m, .pathDepth => m.rootTree.checkout.pathDepth
  | .commit m, .pathLength => m.rootTree.checkout.pathLength
  | .commit m, .checkoutBlobs => m.rootTree.checkout.blobs
  | .commit m, .checkoutBytes => m.rootTree.checkout.blobBytes
  | .commit m, .checkoutLinks => m.rootTree.checkout.links
  | .commit m, .checkoutSubmodules => m.rootTree.checkout.submodules
  | .tree _, .treeCount => 1
  | .tree _, .treeBytes => object.size
  | .tree m, .treeEntries => m.entries
  | .tree m, .maxTreeEntries => m.entries
  | .blob _, .blobCount => 1
  | .blob size, .blobBytes => size
  | .blob size, .maxBlobSize => size
  | .tag _, .tagCount => 1
  | .tag m, .tagDepth => m.depth
  | _, _ => 0

/-- The largest amount of 32 bits in what an object of this measure brings to a wider figure. -/
def carried (metric : Metric) : Measure → Nat
  | .blob size => if metric = .blobBytes then size else 0
  | .tree m => if metric = .treeEntries then m.entries else 0
  | .commit m => if metric = .checkoutBytes then m.rootTree.checkout.largestBlob else 0
  | .tag _ => 0

private theorem figure_tally (s : Summary) (object : HistoryObject) (m : Measure) (metric : Metric)
    {exact largest : Nat}
    (before : s.figure metric = .ofCount (.carry exact largest : Count metric.width)) :
    (s.tally object m.clamp).figure metric = .ofCount (.carry
      (metric.join exact (contribution object m metric)) (max largest (carried metric m)) :
        Count metric.width) := by
  have checkout (a b : HistorySurvey.Checkout) : max a b = a.max b := rfl
  have one {width : Nat} : (1 : Count width) = .ofNat 1 := rfl
  -- Each figure has a counter of its own, and each kind of object changes some of them.
  cases metric <;> replace before := Figure.ofCount_inj.mp before <;> cases m <;>
    refine Figure.ofCount_inj.mpr ?_ <;>
    simp [Metric.width, Metric.join, Metric.isTotal, Summary.tally, Measure.clamp, before,
      contribution, carried, one, Count.carry_add_ofNat, Count.max_carry_ofNat, Count.widen_ofNat,
      Count.add_carry, Count.max_carry, checkout, HistorySurvey.Checkout.max, TreeMeasure.clamp,
      CommitMeasure.clamp, Checkout.clamp]

/-- A figure before any object is recorded. Only references are counted by then. -/
def start (references : List String) : Metric → Nat
  | .referenceCount => references.length
  | _ => 0

/-- The exact figure of a history. -/
def value (objects : List HistoryObject) (references : List String) (metric : Metric) : Nat :=
  (firstOccurrences objects).foldr
    (fun object value => metric.join value (contribution object (figure objects object.id) metric))
    (start references metric)

def largestCarried (objects : List HistoryObject) (metric : Metric) : Nat :=
  (firstOccurrences objects).foldr
    (fun object largest => max largest (carried metric (figure objects object.id))) 0

private theorem figure_ofReferences (references : List String) (metric : Metric) :
    (Summary.ofReferences references).figure metric =
      .ofCount (.carry (start references metric) 0 : Count metric.width) := by
  have totals := Totals.of_references references
  rw [Count.carry_zero]
  cases metric <;> refine Figure.ofCount_inj.mpr ?_ <;>
    simp only [totals.commits, totals.trees, totals.blobs, totals.tags, totals.checkout,
      totals.referenceCount] <;> rfl

private theorem figure_foldr (objects : List HistoryObject) (figure : ObjectId → Measure)
    {s : Summary} {metric : Metric} {exact : Nat}
    (before : s.figure metric = .ofCount (.carry exact 0 : Count metric.width)) :
    (objects.foldr (fun object s => s.tally object (figure object.id).clamp) s).figure metric =
      .ofCount (.carry
        (objects.foldr (fun object value =>
          metric.join value (contribution object (figure object.id) metric)) exact)
        (objects.foldr (fun object largest =>
          max largest (carried metric (figure object.id))) 0) : Count metric.width) := by
  induction objects with
  | nil => exact before
  | cons object rest ih => exact figure_tally _ object (figure object.id) metric ih

private theorem figure_rankings (s : Summary) (rankings : Rankings) (metric : Metric) :
    { s with rankings := rankings }.figure metric = s.figure metric := by
  cases metric <;> rfl

/-! Which amounts of 32 bits went into a figure of 64 bits. -/

/-- A tree has an id among its files and directories. -/
def Lists (objects : List HistoryObject) (parent child : ObjectId) : Prop :=
  ∃ tree ∈ firstOccurrences objects, tree.id = parent ∧ tree.kind = .tree ∧
    child ∈ tree.dependencies

/-- A single amount of 32 bits that was added up in a figure. The bytes of a checkout are those of
the blobs to which some path leads from the root tree of a commit. -/
inductive Added (objects : List HistoryObject) : Metric → Nat → Prop
  | blob {blob : HistoryObject} (distinct : blob ∈ firstOccurrences objects)
      (kind : blob.kind = .blob) : Added objects .blobBytes blob.size
  | entries {tree : HistoryObject} (distinct : tree ∈ firstOccurrences objects)
      (kind : tree.kind = .tree) : Added objects .treeEntries tree.links.length
  | file {commit blob : HistoryObject} {root : Link} {parents : List Link}
      (committed : commit ∈ firstOccurrences objects) (kind : commit.kind = .commit)
      (links : commit.links = root :: parents) (distinct : blob ∈ firstOccurrences objects)
      (leaf : blob.kind = .blob)
      (path : Relation.ReflTransGen (Lists objects) root.target blob.id) :
      Added objects .checkoutBytes blob.size

variable {objects : List HistoryObject} {n : Nat}

/-- The size of the largest blob in what has this measure. -/
def largestBlob : Measure → Nat
  | .blob size => size
  | .tree m => m.checkout.largestBlob
  | _ => 0

theorem combine_blob (figure : ObjectId → Measure) {object : HistoryObject}
    (kind : object.kind = .blob) : combine figure object = .blob object.size := by
  rw [combine, kind]

private theorem entryPart_largestBlob (figure : ObjectId → Measure) (entry : Link) :
    (entryPart figure entry).largestBlob =
      if entry.mode = .content then largestBlob (figure entry.target) else 0 := by
  unfold entryPart
  cases entry.mode with
  | symlink => rfl
  | submodule => rfl
  | content =>
    dsimp only
    cases figure entry.target <;> rfl

private theorem le_foldl_addEntry_iff (figure : ObjectId → Measure) (some : 0 < n)
    (entries : List Link) (m : TreeMeasure) :
    n ≤ (entries.foldl (addEntry figure) m).checkout.largestBlob ↔
      n ≤ m.checkout.largestBlob ∨
        ∃ entry ∈ entries, entry.mode = .content ∧ n ≤ largestBlob (figure entry.target) := by
  induction entries generalizing m with
  | nil => simp
  | cons entry rest ih =>
    have joined : (addEntry figure m entry).checkout.largestBlob =
        max m.checkout.largestBlob (entryPart figure entry).largestBlob := rfl
    have part : n ≤ (entryPart figure entry).largestBlob ↔
        entry.mode = .content ∧ n ≤ largestBlob (figure entry.target) := by
      rw [entryPart_largestBlob]
      split <;> rename_i content
      · exact (and_iff_right content).symm
      · simp only [content, false_and, iff_false]
        omega
    rw [List.foldl_cons, ih, joined, le_max_iff, part, or_assoc]
    simp only [List.exists_mem_cons_iff]

theorem combine_tree (figure : ObjectId → Measure) {object : HistoryObject}
    (kind : object.kind = .tree) : combine figure object =
      .tree (object.links.foldl (addEntry figure) ⟨object.links.length, Checkout.directory⟩) := by
  rw [combine, kind]

private theorem foldl_addEntry_entries (figure : ObjectId → Measure) (entries : List Link)
    (m : TreeMeasure) : (entries.foldl (addEntry figure) m).entries = m.entries := by
  induction entries generalizing m with
  | nil => rfl
  | cons entry rest ih => exact ih (addEntry figure m entry)

private theorem foldl_addParent_rootTree (figure : ObjectId → Measure) (parents : List Link)
    (m : CommitMeasure) : (parents.foldl (addParent figure) m).rootTree = m.rootTree := by
  induction parents generalizing m with
  | nil => rfl
  | cons parent rest ih =>
    rw [List.foldl_cons, ih, addParent]
    split <;> rfl

theorem combine_commit (figure : ObjectId → Measure) {object : HistoryObject}
    (kind : object.kind = .commit) {root : Link} {parents : List Link}
    (links : object.links = root :: parents) :
    ∃ m, combine figure object = .commit m ∧ m.rootTree = treePart (figure root.target) := by
  rw [combine, kind, links]
  exact ⟨_, rfl, foldl_addParent_rootTree figure parents _⟩

private theorem le_largestBlob_combine_iff (figure : ObjectId → Measure) (some : 0 < n)
    (object : HistoryObject) :
    n ≤ largestBlob (combine figure object) ↔
      (object.kind = .blob ∧ n ≤ object.size) ∨
      (object.kind = .tree ∧ ∃ child ∈ object.dependencies, n ≤ largestBlob (figure child)) := by
  cases kind : object.kind with
  | blob => simp [combine_blob figure kind, largestBlob]
  | tree =>
    have none : ¬ n ≤ Checkout.directory.largestBlob := Nat.not_le.mpr some
    rw [combine_tree figure kind, largestBlob, le_foldl_addEntry_iff figure some]
    simp [none, HistoryObject.dependencies, and_assoc]
  | commit =>
    have none : largestBlob (combine figure object) = 0 := by
      rw [combine, kind]
      cases object.links <;> rfl
    simpa [none] using some.ne'
  | tag =>
    have none : largestBlob (combine figure object) = 0 := by
      rw [combine, kind]
      cases object.links <;> rfl
    simpa [none] using some.ne'

/-- Some path leads from an id to a blob of at least this size. -/
def Holds (objects : List HistoryObject) (n : Nat) (id : ObjectId) : Prop :=
  ∃ blob ∈ firstOccurrences objects, blob.kind = .blob ∧ n ≤ blob.size ∧
    Relation.ReflTransGen (Lists objects) id blob.id

private theorem holds_of_le (some : 0 < n) (depth : Nat) {id : ObjectId}
    (large : n ≤ largestBlob (figureWithin objects depth id)) :
    Holds objects n id := by
  induction depth generalizing id with
  | zero => exact absurd large (Nat.not_le.mpr some)
  | succ depth ih =>
    rw [figureWithin] at large
    cases found : objects.find? (·.id = id) with
    | none =>
      rw [found] at large
      exact absurd large (Nat.not_le.mpr some)
    | some object =>
      obtain ⟨distinct, rfl⟩ := (find?_eq_some_iff objects id object).mp found
      rw [found] at large
      rcases (le_largestBlob_combine_iff _ some object).mp large with
        ⟨kind, size⟩ | ⟨kind, child, listed, inside⟩
      · exact ⟨object, distinct, kind, size, .refl⟩
      · obtain ⟨blob, present, leaf, size, path⟩ := ih inside
        exact ⟨blob, present, leaf, size, path.head ⟨object, distinct, rfl, kind, listed⟩⟩

/-- With measures that obey the recursion, the largest blob is one to which some path leads. -/
theorem le_largestBlob_iff (recursive : Recursive objects (figure objects)) (some : 0 < n)
    (id : ObjectId) :
    n ≤ largestBlob (figure objects id) ↔ Holds objects n id := by
  refine ⟨holds_of_le some objects.length, ?_⟩
  rintro ⟨blob, distinct, kind, size, path⟩
  -- What a directory holds is in every directory above it, so the path is taken from its end.
  induction path using Relation.ReflTransGen.head_induction_on with
  | refl =>
    rw [recursive blob distinct, le_largestBlob_combine_iff _ some]
    exact .inl ⟨kind, size⟩
  | head listed _ ih =>
    obtain ⟨tree, present, rfl, directory, inside⟩ := listed
    rw [recursive tree present, le_largestBlob_combine_iff _ some]
    exact .inr ⟨directory, _, inside, ih⟩

theorem le_foldr_max_iff {A : Type} (amount : A → Nat) (some : 0 < n)
    (all : List A) :
    n ≤ all.foldr (fun one largest => max largest (amount one)) 0 ↔
      ∃ one ∈ all, n ≤ amount one := by
  induction all with
  | nil => simpa using some.ne'
  | cons one rest ih => rw [List.foldr_cons, le_max_iff, ih, List.exists_mem_cons_iff, or_comm]

private theorem carried_checkout (recursive : Recursive objects (figure objects))
    (fitting : Reference.WellKinded objects) {commit : HistoryObject}
    (distinct : commit ∈ firstOccurrences objects) (kind : commit.kind = .commit) :
    ∃ root parents, commit.links = root :: parents ∧
      carried .checkoutBytes (figure objects commit.id) =
        largestBlob (figure objects root.target) := by
  have fits := fitting commit distinct
  rw [HistoryObject.Fits, kind] at fits
  obtain ⟨root, parents, links, directory, _⟩ := fits
  obtain ⟨tree, found, treeKind⟩ := Option.map_eq_some_iff.mp directory
  obtain ⟨present, named⟩ := (find?_eq_some_iff objects root.target tree).mp found
  obtain ⟨m, combined, rootTree⟩ := combine_commit (figure objects) kind links
  refine ⟨root, parents, links, ?_⟩
  rw [recursive commit distinct, combined, carried, if_pos rfl, rootTree, ← named,
    recursive tree present, combine_tree _ treeKind]
  rfl

theorem le_largestCarried_iff (recursive : Recursive objects (figure objects))
    (fitting : Reference.WellKinded objects) (some : 0 < n) (metric : Metric) :
    n ≤ largestCarried objects metric ↔ ∃ amount, Added objects metric amount ∧ n ≤ amount := by
  rw [largestCarried, le_foldr_max_iff _ some]
  constructor
  · rintro ⟨object, distinct, large⟩
    have combined := recursive object distinct
    cases kind : object.kind with
    | blob =>
      rw [combined, combine_blob _ kind, carried] at large
      split at large
      · rename_i same
        exact ⟨object.size, same ▸ .blob distinct kind, large⟩
      · omega
    | tree =>
      rw [combined, combine_tree _ kind, carried, foldl_addEntry_entries] at large
      split at large
      · rename_i same
        exact ⟨object.links.length, same ▸ .entries distinct kind, large⟩
      · omega
    | commit =>
      obtain ⟨root, parents, links, carries⟩ := carried_checkout recursive fitting distinct kind
      by_cases same : metric = .checkoutBytes
      · subst same
        rw [carries, le_largestBlob_iff recursive some] at large
        obtain ⟨blob, present, leaf, size, path⟩ := large
        exact ⟨blob.size, .file distinct kind links present leaf path, size⟩
      · obtain ⟨m, commit, _⟩ := combine_commit (figure objects) kind links
        rw [combined, commit, carried, if_neg same] at large
        omega
    | tag =>
      have none : carried metric (combine (figure objects) object) = 0 := by
        rw [combine, kind]
        cases object.links <;> rfl
      rw [combined, none] at large
      omega
  · rintro ⟨amount, added, large⟩
    cases added with
    | @blob blob distinct kind =>
      refine ⟨blob, distinct, ?_⟩
      rwa [recursive blob distinct, combine_blob _ kind]
    | @entries tree distinct kind =>
      refine ⟨tree, distinct, ?_⟩
      rwa [recursive tree distinct, combine_tree _ kind, carried, foldl_addEntry_entries]
    | @file commit blob root parents committed kind links distinct leaf path =>
      obtain ⟨first, rest, same, carries⟩ := carried_checkout recursive fitting committed kind
      obtain ⟨rfl, rfl⟩ := List.cons.inj (links.symm.trans same)
      refine ⟨commit, committed, ?_⟩
      rw [carries, le_largestBlob_iff recursive some]
      exact ⟨blob, distinct, leaf, large, path⟩

end Exact

theorem Item.rate_carry {item : Item} {s : Summary} {exact largest : Nat} (scale : Scale)
    (figure : s.figure item.metric = .ofCount (.carry exact largest : Count item.metric.width)) :
    let rating := item.rate s scale
    (rating.figure.overflow = false → rating.figure.value = exact) ∧
    (rating.figure.overflow = true ↔
      Count.limit item.metric.width ≤ exact ∨ Count.limit 32 ≤ largest) ∧
    (rating.figure.overflow = true → rating.stars = maxStars) := by
  intro rating
  let count : Count item.metric.width := .carry exact largest
  have shown : rating.figure = .ofCount count := figure
  have flagged : count.saturated = true ↔
      Count.limit item.metric.width ≤ exact ∨ Count.limit 32 ≤ largest :=
    (Count.saturated_carry exact largest).trans or_comm
  refine ⟨fun unflagged => ?_, ?_, fun full => if_pos full⟩
  · rw [shown] at unflagged ⊢
    obtain ⟨below, small⟩ := not_or.mp ((not_congr flagged).mp (ne_true_of_eq_false unflagged))
    have value : count.value = min exact (Count.limit item.metric.width) := by
      rw [Count.value_carry, if_neg small]
    exact value.trans (Nat.min_eq_left (Nat.le_of_not_le below))
  · rw [shown]
    exact flagged

namespace Assembly

variable {hints : Hints} {accepted : List HistoryObject} {journal : Journal} {a : Assembly}
  {references : List String}

/-- Only at the end, with everything added up, are figures clamped. -/
theorem Accounted.figure_summary
    (accounted : Accounted hints (Summary.ofReferences references) accepted journal a)
    (all : ∀ object ∈ firstOccurrences accepted, object.id ∈ journal.ids) (metric : Metric) :
    (journal.summary (Summary.ofReferences references)).figure metric = .ofCount
      (.carry (Exact.value accepted references metric) (Exact.largestCarried accepted metric) :
        Count metric.width) := by
  let entries : Journal := (firstOccurrences accepted).map fun object =>
    (object, (Exact.figure accepted object.id).clamp)
  have permuted : journal.Perm entries := by
    have clamped := accounted.journal_perm all
    simp only [Exact.clamp_figure] at clamped
    exact clamped
  have same := ((Totals.of_summary references journal).perm permuted).unranked_eq
    (Totals.of_summary references entries)
    ((Journal.summary_references _ journal).trans (Journal.summary_references _ entries).symm)
  calc
    (journal.summary (Summary.ofReferences references)).figure metric
      = (journal.summary (Summary.ofReferences references)).unranked.figure metric :=
        (Exact.figure_rankings _ _ metric).symm
    _ = (entries.foldr (fun entry s => s.tally entry.1 entry.2)
          (Summary.ofReferences references)).figure metric := by
        rw [same, Journal.summary_eq]
        exact Exact.figure_rankings _ _ metric
    _ = ((firstOccurrences accepted).foldr
          (fun object s => s.tally object (Exact.figure accepted object.id).clamp)
          (Summary.ofReferences references)).figure metric := by rw [List.foldr_map]
    _ = _ := Exact.figure_foldr (firstOccurrences accepted) (Exact.figure accepted)
          (Exact.figure_ofReferences references metric)

/-- A figure that is not flagged is exact. It is flagged exactly if it reached the limit of its
counter, or if an amount of 32 bits that went into it reached its own, and it then has all stars. -/
theorem figure_exact_or_flagged (stream : ObjectStream) (stopAfter : Option Nat) (s : Summary)
    (fine : (Survey.run stream stopAfter).result = .ok s) :
    Exact.Recursive stream.objects (Exact.figure stream.objects) ∧
    (∀ other, Exact.Recursive stream.objects other →
      ∀ object ∈ firstOccurrences stream.objects,
        other object.id = Exact.figure stream.objects object.id) ∧
    ∀ (scale : Scale) (item : Item),
      let rating := item.rate s scale
      let exact := Exact.value stream.objects stream.references item.metric
      (rating.figure.overflow = false → rating.figure.value = exact) ∧
      (rating.figure.overflow = true ↔ Count.limit item.metric.width ≤ exact ∨
        ∃ amount, Exact.Added stream.objects item.metric amount ∧ Count.limit 32 ≤ amount) ∧
      (rating.figure.overflow = true → rating.stars = maxStars) := by
  obtain ⟨journal, b, accounted, all, rfl⟩ := accounted_of_stream fine
  have inside {object : HistoryObject} (distinct : object ∈ firstOccurrences stream.objects) :=
    accounted.mem_journal distinct (all object distinct)
  have recursive : Exact.Recursive stream.objects (Exact.figure stream.objects) :=
    fun object distinct => accounted.exact_recursive (inside distinct)
  have fitting : Reference.WellKinded stream.objects := fun object distinct =>
    accounted.fits (List.prefix_refl _) (inside distinct)
  refine ⟨recursive, fun other obeys object distinct => ?_, fun scale item => ?_⟩
  · refine accounted.exact_unique (fun object measured => ?_) (all object distinct)
    exact obeys object ((accounted.members object).mpr (.inl measured))
  · have carries := Exact.le_largestCarried_iff recursive fitting
      (by decide : 0 < Count.limit 32) item.metric
    obtain ⟨unflagged, flagged, stars⟩ :=
      Item.rate_carry scale (accounted.figure_summary all item.metric)
    exact ⟨unflagged, flagged.trans (or_congr_right carries), stars⟩

/-- Two directories deep lies a blob whose size does not fit into 32 bits. -/
def deepHistory : List HistoryObject :=
  [.blob (.ofNat 1) 0x100000000,
    .tree (.ofNat 2) 35 [.toObject (.ofNat 1)],
    .tree (.ofNat 3) 35 [.toObject (.ofNat 2)],
    .commit (.ofNat 4) 200 (.ofNat 3) []]

theorem figure_exact_or_flagged_deep :
    ∃ s, (Survey.run (ofList deepHistory [] none) none).result = .ok s ∧
      let item : Item := ⟨.checkoutBytes, "Total size of files", "", "B", .binary⟩
      (item.rate s Scale.standard).figure.overflow = true ∧
      (item.rate s Scale.standard).stars = maxStars := by
  have few : FewLinks deepHistory := .of_listed (by decide)
  have acyclic : Dependency.Acyclic deepHistory := .of_falling (·.bits.toNat) (by decide)
  obtain ⟨s, fine⟩ := (run_ok_iff deepHistory [] few (by decide)).mpr
    ⟨.of_listed (by decide), acyclic, .of_forall (by decide)⟩
  have distinct (object : HistoryObject)
      (found : deepHistory.find? (·.id = object.id) = some object) :
      object ∈ firstOccurrences deepHistory :=
    ((find?_eq_some_iff deepHistory object.id object).mp found).1
  have outer : Exact.Lists deepHistory (.ofNat 3) (.ofNat 2) :=
    ⟨_, distinct (.tree (.ofNat 3) 35 [.toObject (.ofNat 2)]) rfl, rfl, rfl, by decide⟩
  have inner : Exact.Lists deepHistory (.ofNat 2) (.ofNat 1) :=
    ⟨_, distinct (.tree (.ofNat 2) 35 [.toObject (.ofNat 1)]) rfl, rfl, rfl, by decide⟩
  have added : Exact.Added deepHistory .checkoutBytes 0x100000000 :=
    .file (distinct (.commit (.ofNat 4) 200 (.ofNat 3) []) rfl) rfl rfl
      (distinct (.blob (.ofNat 1) 0x100000000) rfl) rfl (.head outer (.single inner))
  obtain ⟨_, flagged, stars⟩ := (figure_exact_or_flagged (ofList deepHistory [] none) none s
    fine).2.2 Scale.standard ⟨.checkoutBytes, "Total size of files", "", "B", .binary⟩
  have full := flagged.mpr (.inr ⟨_, added, by decide⟩)
  exact ⟨s, fine, full, stars full⟩

example : (Outline.itemsOfAll layout).length = 22 := by decide

end Assembly

end HistorySurvey
