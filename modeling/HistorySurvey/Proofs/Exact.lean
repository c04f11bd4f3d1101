import HistorySurvey.Proofs.Recursion

/-! Measures in plain numbers. They obey the recursion of the clamped measures, with nothing lost on
the way, and clamping them gives the clamped measures. Only the bytes of a checkout need a second
number for that, since an amount at the limit of 32 bits stands for more than it says. -/
namespace HistorySurvey

namespace Count

/-- A total into which amounts of 32 bits went, the largest of them being given. It is at its limit
if one of them was at its own. -/
def carry {width : Nat} (total largest : Nat) : Count width :=
  if limit 32 ≤ largest then .ofNat (limit width) else .ofNat total

variable {width : Nat}

theorem carry_zero (total : Nat) : (carry total 0 : Count width) = .ofNat total := if_neg (by decide)

theorem value_carry (total largest : Nat) : (carry total largest : Count width).value =
    if limit 32 ≤ largest then limit width else min total (limit width) := by
  unfold carry
  split
  · exact Nat.min_self _
  · rfl

theorem add_carry (a b x y : Nat) :
    (carry a x + carry b y : Count width) = carry (a + b) (max x y) := by
  apply ext_value
  simp only [value_add, value_carry]
  split <;> split <;> split <;> omega

theorem max_carry (a b x y : Nat) :
    max (carry a x : Count width) (carry b y) = carry (max a b) (max x y) := by
  apply ext_value
  simp only [value_max, value_carry]
  split <;> split <;> split <;> omega

theorem widen_ofNat (n : Nat) : (ofNat n : Count32).widen = carry n n := by
  have room : limit 32 ≤ limit 64 := by decide
  have fits : (ofNat n : Count32).saturated = true ↔ limit 32 ≤ n := by
    rw [saturated_iff, value_ofNat]
    omega
  apply ext_value
  rw [widen, value_carry]
  by_cases large : limit 32 ≤ n
  · rw [if_pos (fits.mpr large), if_pos large]
    exact Nat.min_self _
  · rw [if_neg fun full => large (fits.mp full), if_neg large, value_ofNat, value_ofNat]
    omega

theorem saturated_carry (total largest : Nat) :
    (carry total largest : Count width).saturated = true ↔
      limit 32 ≤ largest ∨ limit width ≤ total := by
  rw [saturated_iff, value_carry]
  split <;> omega

theorem max_ofNat (m n : Nat) : max (ofNat m) (ofNat n) = (ofNat (max m n) : Count width) := by
  apply ext_value
  simp only [value_max, value_ofNat]
  omega

end Count

namespace Exact

/-- What a checkout of a tree holds. What occurs under two paths counts twice. -/
structure Checkout where
  pathDepth : Nat
  pathLength : Nat
  trees : Nat
  blobs : Nat
  blobBytes : Nat
  /-- The largest of the sizes that make up the bytes. -/
  largestBlob : Nat
  links : Nat
  submodules : Nat

namespace Checkout

def empty : Checkout := ⟨0, 0, 0, 0, 0, 0, 0, 0⟩

/-- A directory before any of its entries. -/
def directory : Checkout := { empty with trees := 1 }

def blob (segmentLength size : Nat) : Checkout :=
  { empty with
    pathDepth := 1
    pathLength := segmentLength
    blobs := 1
    blobBytes := size
    largestBlob := size }

def symlink (segmentLength : Nat) : Checkout :=
  { empty with pathDepth := 1, pathLength := segmentLength, links := 1 }

def submodule (segmentLength : Nat) : Checkout :=
  { empty with pathDepth := 1, pathLength := segmentLength, submodules := 1 }

/-- A checkout inside a directory of this name. -/
def under (segmentLength : Nat) (inside : Checkout) : Checkout :=
  { inside with
    pathDepth := inside.pathDepth + 1
    pathLength :=
      if 0 < inside.pathLength then segmentLength + 1 + inside.pathLength else segmentLength }

def join (a b : Checkout) : Checkout :=
  { pathDepth := max a.pathDepth b.pathDepth
    pathLength := max a.pathLength b.pathLength
    trees := a.trees + b.trees
    blobs := a.blobs + b.blobs
    blobBytes := a.blobBytes + b.blobBytes
    largestBlob := max a.largestBlob b.largestBlob
    links := a.links + b.links
    submodules := a.submodules + b.submodules }

def clamp (c : Checkout) : HistorySurvey.Checkout :=
  { pathDepth := .ofNat c.pathDepth
    pathLength := .ofNat c.pathLength
    trees := .ofNat c.trees
    blobs := .ofNat c.blobs
    blobBytes := .carry c.blobBytes c.largestBlob
    links := .ofNat c.links
    submodules := .ofNat c.submodules }

end Checkout

structure TreeMeasure where
  entries : Nat
  checkout : Checkout

def TreeMeasure.clamp (m : TreeMeasure) : HistorySurvey.TreeMeasure :=
  ⟨.ofNat m.entries, m.checkout.clamp⟩

structure CommitMeasure where
  parents : Nat
  depth : Nat
  root : ObjectId
  rootTree : TreeMeasure

def CommitMeasure.clamp (m : CommitMeasure) : HistorySurvey.CommitMeasure :=
  ⟨.ofNat m.parents, .ofNat m.depth, m.root, m.rootTree.clamp⟩

structure TagMeasure where
  depth : Nat
  target : ObjectId

inductive Measure
  | blob (size : Nat)
  | tree (tree : TreeMeasure)
  | commit (commit : CommitMeasure)
  | tag (tag : TagMeasure)

def Measure.clamp : Measure → HistorySurvey.Measure
  | blob size => .blob (.ofNat size)
  | tree m => .tree m.clamp
  | commit m => .commit m.clamp
  | tag m => .tag ⟨.ofNat m.depth, m.target⟩

/-! The recursion. -/

def treePart : Measure → TreeMeasure
  | .tree m => m
  | _ => ⟨0, Checkout.directory⟩

def entryPart (figure : ObjectId → Measure) (entry : Link) : Checkout :=
  match entry.mode with
  | .symlink => .symlink entry.segmentLength
  | .submodule => .submodule entry.segmentLength
  | .content =>
    match figure entry.target with
    | .blob size => .blob entry.segmentLength size
    | other => (treePart other).checkout.under entry.segmentLength

def addEntry (figure : ObjectId → Measure) (m : TreeMeasure) (entry : Link) : TreeMeasure :=
  { m with checkout := m.checkout.join (entryPart figure entry) }

def addParent (figure : ObjectId → Measure) (m : CommitMeasure) (parent : Link) : CommitMeasure :=
  match figure parent.target with
  | .commit measure =>
    { m with parents := m.parents + 1, depth := max m.depth (measure.depth + 1) }
  | _ => m

def tagDepth : Measure → Nat
  | .tag inner => inner.depth + 1
  | _ => 1

/-- The measure of an object from the measures of the objects it links to. -/
def combine (figure : ObjectId → Measure) (object : HistoryObject) : Measure :=
  match object.kind, object.links with
  | .blob, _ => .blob object.size
  | .tree, entries => .tree (entries.foldl (addEntry figure) ⟨entries.length, Checkout.directory⟩)
  | .commit, [] => .commit ⟨0, 1, default, treePart (.blob 0)⟩
  | .commit, root :: parents =>
    .commit (parents.foldl (addParent figure) ⟨0, 1, root.target, treePart (figure root.target)⟩)
  | .tag, [] => .tag ⟨1, default⟩
  | .tag, target :: _ => .tag ⟨tagDepth (figure target.target), target.target⟩

def figureWithin (objects : List HistoryObject) : Nat → ObjectId → Measure
  | 0, _ => .blob 0
  | depth + 1, id =>
    match objects.find? (·.id = id) with
    | some object => combine (figureWithin objects depth) object
    | none => .blob 0

def figure (objects : List HistoryObject) : ObjectId → Measure := figureWithin objects objects.length

/-- Some measures obey the recursion at every distinct object. -/
def Recursive (objects : List HistoryObject) (measures : ObjectId → Measure) : Prop :=
  ∀ object ∈ ObjectStream.firstOccurrences objects, measures object.id = combine measures object

/-! Clamping. -/

private theorem clamp_directory (entries : Nat) :
    TreeMeasure.clamp ⟨entries, Checkout.directory⟩ = .ofEntryCount entries := rfl

private theorem clamp_treePart (m : Measure) : Reference.treePart m.clamp = (treePart m).clamp := by
  cases m <;> rfl

private theorem pathLengthUnder_clamp (segmentLength inside : Nat) :
    HistorySurvey.TreeMeasure.pathLengthUnder segmentLength (.ofNat inside) =
      .ofNat (if 0 < inside then segmentLength + 1 + inside else segmentLength) := by
  have positive : (0 : Count32) < .ofNat inside ↔ 0 < inside := by
    change min 0 _ < min inside (Count.limit 32) ↔ 0 < inside
    have some : 0 < Count.limit 32 := by decide
    omega
  unfold HistorySurvey.TreeMeasure.pathLengthUnder
  by_cases path : 0 < inside
  · rw [if_pos (positive.mpr path), if_pos path]
    change Count.ofNat segmentLength + Count.ofNat 1 + _ = _
    rw [Count.ofNat_add, Count.ofNat_add]
  · rw [if_neg fun more => path (positive.mp more), if_neg path]

private theorem one_eq {width : Nat} : (1 : Count width) = .ofNat 1 := rfl

/-- Clamping every amount and clamping their sums and maxima are the same. -/
private theorem clamp_addEntry (figure : ObjectId → Measure) (m : TreeMeasure) (entry : Link) :
    Reference.addEntry (fun id => (figure id).clamp) m.clamp entry =
      (addEntry figure m entry).clamp := by
  unfold Reference.addEntry addEntry entryPart
  cases mode : entry.mode with
  | symlink =>
    simp [HistorySurvey.TreeMeasure.addSymlink, HistorySurvey.TreeMeasure.addLeaf, TreeMeasure.clamp,
      Checkout.clamp, Checkout.join, Checkout.symlink, Checkout.empty, one_eq, Count.ofNat_add,
      Count.max_ofNat]
  | submodule =>
    simp [HistorySurvey.TreeMeasure.addSubmodule, HistorySurvey.TreeMeasure.addLeaf,
      TreeMeasure.clamp, Checkout.clamp, Checkout.join, Checkout.submodule, Checkout.empty, one_eq,
      Count.ofNat_add, Count.max_ofNat]
  | content =>
    have directory (sub : Measure) : m.clamp.addTree entry.segmentLength
        (Reference.treePart sub.clamp) = TreeMeasure.clamp
          ⟨m.entries, m.checkout.join ((treePart sub).checkout.under entry.segmentLength)⟩ := by
      rw [clamp_treePart]
      simp [HistorySurvey.TreeMeasure.addTree, TreeMeasure.clamp, Checkout.clamp, Checkout.join,
        Checkout.under, pathLengthUnder_clamp, one_eq, Count.ofNat_add, Count.max_ofNat,
        Count.add_carry]
    dsimp only
    cases figure entry.target with
    | blob size =>
      simp [Measure.clamp, HistorySurvey.TreeMeasure.addBlob, HistorySurvey.TreeMeasure.addLeaf,
        TreeMeasure.clamp, Checkout.clamp, Checkout.join, Checkout.blob, Checkout.empty, one_eq,
        Count.ofNat_add, Count.max_ofNat, Count.widen_ofNat, Count.add_carry]
    | tree sub => exact directory (.tree sub)
    | commit sub => exact directory (.commit sub)
    | tag sub => exact directory (.tag sub)

private theorem clamp_addParent (figure : ObjectId → Measure) (m : CommitMeasure) (parent : Link) :
    Reference.addParent (fun id => (figure id).clamp) m.clamp parent =
      (addParent figure m parent).clamp := by
  unfold Reference.addParent addParent
  dsimp only
  cases figure parent.target with
  | commit measure =>
    simp [Measure.clamp, HistorySurvey.CommitMeasure.addParent, CommitMeasure.clamp, one_eq,
      Count.ofNat_add, Count.max_ofNat]
  | _ => rfl

private theorem clamp_foldl {M N : Type} {clamp : M → N} {step : M → Link → M}
    {clamped : N → Link → N} (one : ∀ m link, clamped (clamp m) link = clamp (step m link))
    (links : List Link) (m : M) : links.foldl clamped (clamp m) = clamp (links.foldl step m) := by
  induction links generalizing m with
  | nil => rfl
  | cons link rest ih => rw [List.foldl_cons, List.foldl_cons, one, ih]

theorem clamp_combine (figure : ObjectId → Measure) (object : HistoryObject) :
    Reference.combine (fun id => (figure id).clamp) object = (combine figure object).clamp := by
  unfold Reference.combine combine
  cases object.kind with
  | blob => rfl
  | tree =>
    refine congrArg HistorySurvey.Measure.tree ?_
    rw [← clamp_directory]
    exact clamp_foldl (clamp_addEntry figure) object.links _
  | commit =>
    cases object.links with
    | nil => rfl
    | cons root parents =>
      refine congrArg HistorySurvey.Measure.commit ?_
      dsimp only
      rw [clamp_treePart]
      exact clamp_foldl (clamp_addParent figure) parents
        ⟨0, 1, root.target, treePart (figure root.target)⟩
  | tag =>
    cases object.links with
    | nil => rfl
    | cons target rest =>
      dsimp only
      cases figure target.target with
      | tag inner =>
        simp [Measure.clamp, HistorySurvey.TagMeasure.ofTarget, tagDepth, one_eq, Count.ofNat_add]
      | _ => rfl

/-- The clamped measures are the exact ones, clamped at the end. -/
theorem clamp_figure (objects : List HistoryObject) (id : ObjectId) :
    Reference.figure objects id = (figure objects id).clamp := by
  have within (depth : Nat) :
      Reference.figureWithin objects depth = fun id => (figureWithin objects depth id).clamp := by
    induction depth with
    | zero => rfl
    | succ depth ih =>
      funext id
      rw [Reference.figureWithin, figureWithin, ih]
      cases objects.find? (·.id = id) with
      | none => rfl
      | some object => exact clamp_combine _ object
  exact congrFun (within objects.length) id

/-! The recursion equation. -/

private theorem entryPart_congr {f g : ObjectId → Measure} (entry : Link)
    (same : entry.mode = .content → f entry.target = g entry.target) :
    entryPart f entry = entryPart g entry := by
  unfold entryPart
  cases mode : entry.mode with
  | symlink => rfl
  | submodule => rfl
  | content => rw [same mode]

theorem combine_congr {f g : ObjectId → Measure} {object : HistoryObject}
    (same : ∀ child ∈ object.consulted, f child = g child) :
    combine f object = combine g object := by
  unfold HistoryObject.consulted at same
  unfold combine
  cases kind : object.kind with
  | blob => rfl
  | tree =>
    rw [kind] at same
    refine congrArg Measure.tree (List.foldl_ext _ _ _ fun m entry member => ?_)
    have part : entryPart f entry = entryPart g entry := entryPart_congr entry fun content =>
      same _ (List.mem_map.mpr
        ⟨entry, List.mem_filter.mpr ⟨member, by simpa using content⟩, rfl⟩)
    rw [addEntry, addEntry, part]
  | commit =>
    rw [kind] at same
    cases links : object.links with
    | nil => rfl
    | cons root parents =>
      rw [links] at same
      dsimp only
      rw [same root.target (by simp)]
      refine congrArg Measure.commit (List.foldl_ext _ _ _ fun m parent member => ?_)
      rw [addParent, addParent, same _ (by simp [List.mem_map_of_mem member])]
  | tag =>
    rw [kind] at same
    cases links : object.links with
    | nil => rfl
    | cons target rest =>
      rw [links] at same
      dsimp only
      rw [same target.target (by simp)]

end Exact

namespace Assembly
open ObjectStream

variable {hints : Hints} {start : Summary} {accepted : List HistoryObject} {journal : Journal}
  {a : Assembly}

private theorem Accounted.exactWithin_eq (accounted : Accounted hints start accepted journal a)
    {id : ObjectId} (measured : id ∈ journal.ids) (m n : Nat) (first : journal.rank id ≤ m)
    (second : journal.rank id ≤ n) :
    Exact.figureWithin accepted m id = Exact.figureWithin accepted n id := by
  have some := Journal.rank_pos measured
  -- Links lead to lower ranks, so following them farther than the rank makes no difference.
  induction m generalizing id n with
  | zero => omega
  | succ m ih =>
    obtain ⟨n, rfl⟩ : ∃ k, n = k + 1 := ⟨n - 1, by omega⟩
    obtain ⟨object, inside, rfl⟩ := Journal.exists_of_mem_ids measured
    have distinct := (accounted.members object).mpr (.inl inside)
    have found := (find?_eq_some_iff accepted object.id object).mpr ⟨distinct, rfl⟩
    rw [Exact.figureWithin, Exact.figureWithin, found]
    refine Exact.combine_congr fun child needed => ?_
    obtain ⟨known, less⟩ := accounted.justified.rank_lt inside (.inr needed)
    exact ih known n (by omega) (by omega) (Journal.rank_pos known)

theorem Accounted.exact_recursive (accounted : Accounted hints start accepted journal a)
    {object : HistoryObject} (measured : object ∈ journal.objects) :
    Exact.figure accepted object.id = Exact.combine (Exact.figure accepted) object := by
  have known := Journal.mem_ids measured
  have enough := accounted.rank_le object.id
  obtain ⟨depth, whole⟩ : ∃ depth, accepted.length = depth + 1 :=
    ⟨accepted.length - 1, by have := Journal.rank_pos known; omega⟩
  have distinct := (accounted.members object).mpr (.inl measured)
  have found := (find?_eq_some_iff accepted object.id object).mpr ⟨distinct, rfl⟩
  unfold Exact.figure
  rw [whole, Exact.figureWithin, found]
  refine Exact.combine_congr fun child needed => ?_
  obtain ⟨inside, less⟩ := accounted.justified.rank_lt measured (.inr needed)
  exact accounted.exactWithin_eq inside depth (depth + 1) (by omega) (by omega)

/-- A journal holds what the recursion gives, clamped. -/
theorem Accounted.entry_mem (accounted : Accounted hints start accepted journal a)
    {object : HistoryObject} (measured : object ∈ journal.objects) :
    (object, (Exact.figure accepted object.id).clamp) ∈ journal := by
  obtain ⟨⟨_, m⟩, member, rfl⟩ := List.mem_map.mp measured
  have known := accounted.figure_eq (Journal.mem_ids measured)
  rw [Journal.figure, accounted.justified.measure?_of_mem member, Exact.clamp_figure] at known
  rw [known]
  exact member

theorem Accounted.exact_unique (accounted : Accounted hints start accepted journal a)
    {other : ObjectId → Exact.Measure}
    (recursive : ∀ object ∈ journal.objects, other object.id = Exact.combine other object)
    {id : ObjectId} (measured : id ∈ journal.ids) : other id = Exact.figure accepted id := by
  induction rank : journal.rank id using Nat.strong_induction_on generalizing id with
  | _ n ih =>
    obtain ⟨object, inside, rfl⟩ := Journal.exists_of_mem_ids measured
    rw [recursive object inside, accounted.exact_recursive inside]
    refine Exact.combine_congr fun child needed => ?_
    obtain ⟨known, less⟩ := accounted.justified.rank_lt inside (.inr needed)
    exact ih _ (rank ▸ less) known rfl

end Assembly

end HistorySurvey
