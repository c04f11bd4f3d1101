import Mathlib.Order.Bounds.Basic
import HistorySurvey.Proofs.Overflow

/-! Lines of descent. A commit leads to its parents and a tag to its target, and a line goes on as
long as the kind stays the same. The depth of a commit or a tag is computed from those of its
ancestors alone, and it is the length of the longest line that begins there. -/
namespace HistorySurvey

/-- What may come next in a line: the parents of a commit, the target of a tag. -/
def HistoryObject.ancestors (object : HistoryObject) : List ObjectId :=
  match object.kind with
  | .commit => (object.links.drop 1).map Link.target
  | .tag => (object.links.take 1).map Link.target
  | .blob | .tree => []

namespace Lineage
open ObjectStream Reference

/-- The object that an id stands for has another id among its ancestors. -/
def Descends (objects : List HistoryObject) (id ancestor : ObjectId) : Prop :=
  ∃ object ∈ firstOccurrences objects, object.id = id ∧ ancestor ∈ object.ancestors

/-- A line of objects of one kind, each of which descends from the next. -/
structure Line (objects : List HistoryObject) (kind : Kind) (line : List ObjectId) : Prop where
  kinds : ∀ id ∈ line, kindIn objects id = some kind
  descends : line.IsChain (Descends objects)

/-- The lengths of the lines that begin with an id. -/
def lengthsFrom (objects : List HistoryObject) (kind : Kind) (id : ObjectId) : Set Nat :=
  {n | ∃ rest, Line objects kind (id :: rest) ∧ (id :: rest).length = n}

/-- The lengths of all lines. One is empty, also in a history without objects of this kind. -/
def lengths (objects : List HistoryObject) (kind : Kind) : Set Nat :=
  {n | ∃ line, Line objects kind line ∧ line.length = n}

/-- Depths of the objects of a kind: one, or one more than the largest of the ancestors. -/
structure Depths (objects : List HistoryObject) (kind : Kind) (depth : ObjectId → Nat) : Prop where
  positive : ∀ object ∈ firstOccurrences objects, object.kind = kind → 0 < depth object.id
  exceeds : ∀ object ∈ firstOccurrences objects, object.kind = kind →
    ∀ ancestor ∈ object.ancestors, kindIn objects ancestor = some kind →
      depth ancestor < depth object.id
  attained : ∀ object ∈ firstOccurrences objects, object.kind = kind →
    depth object.id = 1 ∨ ∃ ancestor ∈ object.ancestors,
      kindIn objects ancestor = some kind ∧ depth object.id = depth ancestor + 1

variable {objects : List HistoryObject} {kind : Kind} {depth : ObjectId → Nat}

/-- Along a line the depths fall, so none is longer than the depth that it begins with. -/
theorem Depths.length_le (depths : Depths objects kind depth) {id : ObjectId}
    {rest : List ObjectId} (line : Line objects kind (id :: rest)) :
    (id :: rest).length ≤ depth id := by
  induction rest generalizing id with
  | nil =>
    obtain ⟨object, distinct, rfl, same⟩ :=
      (Assembly.kindIn_eq_some_iff objects id kind).mp (line.kinds id List.mem_cons_self)
    exact depths.positive object distinct same
  | cons next rest ih =>
    obtain ⟨⟨object, distinct, rfl, ancestor⟩, further⟩ := List.isChain_cons_cons.mp line.descends
    have shorter := ih ⟨fun id member => line.kinds id (List.mem_cons_of_mem _ member), further⟩
    obtain ⟨other, present, named, same⟩ :=
      (Assembly.kindIn_eq_some_iff objects object.id kind).mp (line.kinds _ List.mem_cons_self)
    obtain rfl := firstOccurrences_injective present distinct named
    have falls := depths.exceeds other distinct same next ancestor
      (line.kinds next (List.mem_cons_of_mem _ List.mem_cons_self))
    rw [List.length_cons]
    omega

theorem Depths.exists_line (depths : Depths objects kind depth) {object : HistoryObject}
    (distinct : object ∈ firstOccurrences objects) (same : object.kind = kind) :
    ∃ rest, Line objects kind (object.id :: rest) ∧
      (object.id :: rest).length = depth object.id := by
  -- An ancestor that attains the depth is less deep, and its line is one shorter.
  induction size : depth object.id using Nat.strong_induction_on generalizing object with
  | _ n ih =>
    have own : kindIn objects object.id = some kind :=
      (Assembly.kindIn_eq_some_iff objects object.id kind).mpr ⟨object, distinct, rfl, same⟩
    rcases depths.attained object distinct same with single | ⟨ancestor, direct, alike, more⟩
    · refine ⟨[], ⟨List.forall_mem_singleton.mpr own, .singleton _⟩, ?_⟩
      rw [← size, single]
      rfl
    · obtain ⟨next, present, rfl, kin⟩ :=
        (Assembly.kindIn_eq_some_iff objects ancestor kind).mp alike
      obtain ⟨rest, line, long⟩ := ih _ (by omega) present kin rfl
      refine ⟨next.id :: rest, ⟨List.forall_mem_cons.mpr ⟨own, line.kinds⟩, ?_⟩, ?_⟩
      · exact .cons_cons ⟨object, distinct, rfl, direct⟩ line.descends
      · rw [List.length_cons, long]
        omega

theorem Depths.isGreatest_from (depths : Depths objects kind depth) {object : HistoryObject}
    (distinct : object ∈ firstOccurrences objects) (same : object.kind = kind) :
    IsGreatest (lengthsFrom objects kind object.id) (depth object.id) := by
  refine ⟨depths.exists_line distinct same, ?_⟩
  rintro n ⟨rest, line, rfl⟩
  exact depths.length_le line

/-- The largest depth is the length of the longest line. -/
theorem Depths.isGreatest (depths : Depths objects kind depth) {largest : Nat}
    (bound : ∀ n, 0 < n → (n ≤ largest ↔
      ∃ object ∈ firstOccurrences objects, object.kind = kind ∧ n ≤ depth object.id)) :
    IsGreatest (lengths objects kind) largest := by
  constructor
  · rcases Nat.eq_zero_or_pos largest with rfl | some
    · exact ⟨[], ⟨fun id member => by contradiction, .nil⟩, rfl⟩
    · obtain ⟨object, distinct, same, deep⟩ := (bound largest some).mp (Nat.le_refl _)
      have shallow := (bound (depth object.id) (depths.positive object distinct same)).mpr
        ⟨object, distinct, same, Nat.le_refl _⟩
      obtain ⟨rest, line, long⟩ := depths.exists_line distinct same
      exact ⟨object.id :: rest, line, by omega⟩
  · rintro n ⟨line, inside, rfl⟩
    cases line with
    | nil => exact Nat.zero_le _
    | cons id rest =>
      obtain ⟨object, distinct, rfl, same⟩ :=
        (Assembly.kindIn_eq_some_iff objects id kind).mp (inside.kinds id List.mem_cons_self)
      exact (bound _ (Nat.succ_pos _)).mpr ⟨object, distinct, same, depths.length_le inside⟩

end Lineage

namespace Exact
open ObjectStream Reference Lineage

/-- How deep lines go from what has this measure. -/
def depth : Measure → Nat
  | .commit m => m.depth
  | .tag m => m.depth
  | .blob _ | .tree _ => 0

variable {objects : List HistoryObject}

theorem kind_clamp_combine (figure : ObjectId → Measure) (object : HistoryObject) :
    (combine figure object).clamp.kind = object.kind := by
  rw [← clamp_combine, kind_combine]

theorem Recursive.kind (recursive : Recursive objects (figure objects)) {id : ObjectId}
    {kind : Kind} (known : kindIn objects id = some kind) :
    (figure objects id).clamp.kind = kind := by
  obtain ⟨object, distinct, rfl, rfl⟩ := (Assembly.kindIn_eq_some_iff objects id kind).mp known
  rw [recursive object distinct, kind_clamp_combine]

/-- Only a tag gets the measure of one. -/
theorem kindIn_of_tag {id : ObjectId} {m : TagMeasure} (measured : figure objects id = .tag m) :
    kindIn objects id = some .tag := by
  unfold figure at measured
  cases size : objects.length with
  | zero =>
    rw [size] at measured
    contradiction
  | succ depth =>
    rw [size, figureWithin] at measured
    cases found : objects.find? (·.id = id) with
    | none =>
      rw [found] at measured
      contradiction
    | some object =>
      rw [found] at measured
      have same := kind_clamp_combine (figureWithin objects depth) object
      rw [show combine (figureWithin objects depth) object = .tag m from measured] at same
      rw [kindIn, found, Option.map_some, ← same]
      rfl

private theorem le_foldl_addParent_iff (figure : ObjectId → Measure) (parents : List Link)
    (m : CommitMeasure) (n : Nat) :
    n ≤ (parents.foldl (addParent figure) m).depth ↔
      n ≤ m.depth ∨
        ∃ parent ∈ parents, ∃ c, figure parent.target = .commit c ∧ n ≤ c.depth + 1 := by
  induction parents generalizing m with
  | nil => simp
  | cons parent rest ih =>
    rw [List.foldl_cons, ih, List.exists_mem_cons_iff, ← or_assoc]
    refine or_congr_left ?_
    unfold addParent
    cases figure parent.target with
    | commit c => simp
    | _ => simp

private theorem parents_foldl_addParent {figure : ObjectId → Measure} {parents : List Link}
    (commits : ∀ parent ∈ parents, ∃ c, figure parent.target = .commit c) (m : CommitMeasure) :
    (parents.foldl (addParent figure) m).parents = m.parents + parents.length := by
  induction parents generalizing m with
  | nil => rfl
  | cons parent rest ih =>
    obtain ⟨⟨c, first⟩, others⟩ := List.forall_mem_cons.mp commits
    rw [List.foldl_cons, ih others, addParent, first, List.length_cons]
    dsimp only
    omega

/-- A commit is as deep as its deepest parent, and one more, and it counts every parent. -/
theorem Recursive.commit (recursive : Recursive objects (figure objects))
    (fitting : WellKinded objects) {object : HistoryObject}
    (distinct : object ∈ firstOccurrences objects) (kind : object.kind = .commit) :
    ∃ m, figure objects object.id = .commit m ∧ m.parents = object.ancestors.length ∧
      (∀ ancestor ∈ object.ancestors, kindIn objects ancestor = some .commit) ∧
      ∀ n, n ≤ m.depth ↔
        n ≤ 1 ∨ ∃ ancestor ∈ object.ancestors, n ≤ depth (figure objects ancestor) + 1 := by
  have fits := fitting object distinct
  rw [HistoryObject.Fits, kind] at fits
  obtain ⟨root, parents, links, _, commits⟩ := fits
  have ancestors : object.ancestors = parents.map Link.target := by
    rw [HistoryObject.ancestors, kind, links]
    rfl
  have measured (parent : Link) (member : parent ∈ parents) :
      ∃ c, figure objects parent.target = .commit c := by
    have same := recursive.kind (commits parent member)
    cases known : figure objects parent.target <;> rw [known] at same <;>
      first | exact ⟨_, rfl⟩ | contradiction
  refine ⟨parents.foldl (addParent (figure objects))
    ⟨0, 1, root.target, treePart (figure objects root.target)⟩, ?_, ?_, ?_, fun n => ?_⟩
  · rw [recursive object distinct, combine, kind, links]
  · rw [parents_foldl_addParent measured, ancestors, List.length_map]
    exact Nat.zero_add _
  · rw [ancestors]
    exact List.forall_mem_map.mpr commits
  · rw [le_foldl_addParent_iff, ancestors]
    simp only [List.mem_map, exists_exists_and_eq_and]
    refine or_congr_right (exists_congr fun parent => and_congr_right fun member => ?_)
    obtain ⟨c, known⟩ := measured parent member
    simp [known, depth]

theorem Recursive.commitDepths (recursive : Recursive objects (figure objects))
    (fitting : WellKinded objects) :
    Depths objects .commit fun id => depth (figure objects id) := by
  constructor
  · intro object distinct kind
    obtain ⟨m, measured, _, _, deep⟩ := recursive.commit fitting distinct kind
    rw [measured]
    exact (deep 1).mpr (.inl (Nat.le_refl 1))
  · intro object distinct kind ancestor direct _
    obtain ⟨m, measured, _, _, deep⟩ := recursive.commit fitting distinct kind
    rw [measured]
    exact (deep _).mpr (.inr ⟨ancestor, direct, Nat.le_refl _⟩)
  · intro object distinct kind
    obtain ⟨m, measured, _, commits, deep⟩ := recursive.commit fitting distinct kind
    rw [measured]
    rcases (deep m.depth).mp (Nat.le_refl _) with single | ⟨ancestor, direct, below⟩
    · exact .inl (Nat.le_antisymm single ((deep 1).mpr (.inl (Nat.le_refl 1))))
    · exact .inr ⟨ancestor, direct, commits ancestor direct,
        Nat.le_antisymm below ((deep _).mpr (.inr ⟨ancestor, direct, Nat.le_refl _⟩))⟩

/-- A tag is one deeper than a tag that it marks. -/
theorem Recursive.tag (recursive : Recursive objects (figure objects))
    (fitting : WellKinded objects) {object : HistoryObject}
    (distinct : object ∈ firstOccurrences objects) (kind : object.kind = .tag) :
    ∃ target, object.ancestors = [target] ∧
      figure objects object.id = .tag ⟨tagDepth (figure objects target), target⟩ := by
  have fits := fitting object distinct
  rw [HistoryObject.Fits, kind] at fits
  cases links : object.links with
  | nil => exact absurd links fits
  | cons target rest =>
    refine ⟨target.target, ?_, ?_⟩
    · rw [HistoryObject.ancestors, kind, links]
      rfl
    · rw [recursive object distinct, combine, kind, links]

theorem Recursive.tagDepths (recursive : Recursive objects (figure objects))
    (fitting : WellKinded objects) :
    Depths objects .tag fun id => depth (figure objects id) := by
  have below (m : Measure) : tagDepth m = 1 ∨ ∃ inner, m = .tag inner ∧
      tagDepth m = inner.depth + 1 := by
    cases m <;> first | exact .inl rfl | exact .inr ⟨_, rfl, rfl⟩
  constructor
  · intro object distinct kind
    obtain ⟨target, _, measured⟩ := recursive.tag fitting distinct kind
    rw [measured]
    change 0 < tagDepth (figure objects target)
    rcases below (figure objects target) with single | ⟨inner, _, more⟩ <;> omega
  · intro object distinct kind ancestor direct alike
    obtain ⟨target, ancestors, measured⟩ := recursive.tag fitting distinct kind
    obtain rfl := List.mem_singleton.mp (ancestors ▸ direct)
    have same := recursive.kind alike
    rw [measured]
    cases known : figure objects ancestor with
    | tag inner => exact Nat.lt_succ_self _
    | _ =>
      rw [known] at same
      contradiction
  · intro object distinct kind
    obtain ⟨target, ancestors, measured⟩ := recursive.tag fitting distinct kind
    rw [measured, ancestors]
    rcases below (figure objects target) with single | ⟨inner, known, more⟩
    · exact .inl single
    · refine .inr ⟨target, List.mem_singleton.mpr rfl, kindIn_of_tag known, ?_⟩
      rw [known] at more ⊢
      exact more

/-- The largest depth of a kind is recorded under a metric to which only this kind brings its
depths. -/
private theorem Recursive.le_value_iff (recursive : Recursive objects (figure objects))
    (references : List String) {kind : Kind} {metric : Metric}
    (largest : value objects references metric = (firstOccurrences objects).foldr
      (fun object value => max value (contribution object (figure objects object.id) metric)) 0)
    (brings : ∀ object m, contribution object m metric =
      if m.clamp.kind = kind then depth m else 0) (n : Nat) (some : 0 < n) :
    n ≤ value objects references metric ↔
      ∃ object ∈ firstOccurrences objects, object.kind = kind ∧
        n ≤ depth (figure objects object.id) := by
  rw [largest, le_foldr_max_iff _ some]
  refine exists_congr fun object => and_congr_right fun distinct => ?_
  have same : (figure objects object.id).clamp.kind = object.kind := by
    rw [recursive object distinct, kind_clamp_combine]
  rw [brings, same]
  split
  · rename_i alike
    rw [and_iff_right alike]
  · rename_i other
    simp only [other, false_and, iff_false]
    omega

private theorem largestCarried_eq_zero (objects : List HistoryObject) {metric : Metric}
    (nothing : ∀ m, carried metric m = 0) : largestCarried objects metric = 0 := by
  rw [largestCarried]
  induction firstOccurrences objects with
  | nil => rfl
  | cons object rest ih => rw [List.foldr_cons, ih, nothing, Nat.max_self]

theorem Recursive.longest_commits (recursive : Recursive objects (figure objects))
    (fitting : WellKinded objects) (references : List String) :
    IsGreatest (lengths objects .commit) (value objects references .historyDepth) :=
  (recursive.commitDepths fitting).isGreatest <|
    recursive.le_value_iff references rfl fun _ m => by cases m <;> rfl

theorem Recursive.longest_tags (recursive : Recursive objects (figure objects))
    (fitting : WellKinded objects) (references : List String) :
    IsGreatest (lengths objects .tag) (value objects references .tagDepth) :=
  (recursive.tagDepths fitting).isGreatest <|
    recursive.le_value_iff references rfl fun _ m => by cases m <;> rfl

end Exact

namespace Assembly
open ObjectStream Lineage

/-- The depth of each commit is the length of the longest line of commits from it over parents, and
that of each tag the length of the longest line of tags over targets. Every parent of a commit is
counted. The largest depths are the lengths of the longest lines at all. -/
theorem depths_eq_longest_lines (stream : ObjectStream) (stopAfter : Option Nat) (s : Summary)
    (fine : (Survey.run stream stopAfter).result = .ok s) :
    ∃ journal a, Runs stream.hints [] (ofReferences stream.references) stream.objects journal a ∧
      a.finish = .ok s ∧
      (∀ object ∈ firstOccurrences stream.objects, object.kind = .commit →
        ∃ m, (object, .commit m) ∈ journal ∧ m.parents = .ofNat object.ancestors.length ∧
          ∃ n, IsGreatest (lengthsFrom stream.objects .commit object.id) n ∧ m.depth = .ofNat n) ∧
      (∀ object ∈ firstOccurrences stream.objects, object.kind = .tag →
        ∃ m, (object, .tag m) ∈ journal ∧
          ∃ n, IsGreatest (lengthsFrom stream.objects .tag object.id) n ∧ m.depth = .ofNat n) ∧
      (∃ n, IsGreatest (lengths stream.objects .commit) n ∧ s.commits.maxDepth = .ofNat n) ∧
      ∃ n, IsGreatest (lengths stream.objects .tag) n ∧ s.tags.maxDepth = .ofNat n := by
  obtain ⟨_, a, accepted, finished⟩ := finish_of_stream fine
  obtain ⟨journal, runs, accounted, idle⟩ := accounted_of_acceptAll stream.references accepted
  obtain ⟨all, same⟩ := (accounted.finish_ok_iff idle s).mp finished
  have inside {object : HistoryObject} (distinct : object ∈ firstOccurrences stream.objects) :=
    accounted.mem_journal distinct (all object distinct)
  have recursive : Exact.Recursive stream.objects (Exact.figure stream.objects) :=
    fun object distinct => accounted.exact_recursive (inside distinct)
  have fitting : Reference.WellKinded stream.objects := fun object distinct =>
    accounted.fits (List.prefix_refl _) (inside distinct)
  have entry {object : HistoryObject} (distinct : object ∈ firstOccurrences stream.objects) :
      (object, (Exact.figure stream.objects object.id).clamp) ∈ journal :=
    accounted.entry_mem (inside distinct)
  have figure (metric : Metric) (nothing : ∀ m, Exact.carried metric m = 0) :
      s.figure metric = .ofCount
        (.ofNat (Exact.value stream.objects stream.references metric) : Count metric.width) := by
    rw [same, accounted.summary, accounted.figure_summary all metric,
      Exact.largestCarried_eq_zero _ nothing, Count.carry_zero]
  refine ⟨journal, a, runs, finished, fun object distinct kind => ?_,
    fun object distinct kind => ?_, ⟨_, recursive.longest_commits fitting stream.references, ?_⟩,
    ⟨_, recursive.longest_tags fitting stream.references, ?_⟩⟩
  · obtain ⟨m, measured, parents, _, _⟩ := recursive.commit fitting distinct kind
    have written := entry distinct
    have longest := (recursive.commitDepths fitting).isGreatest_from distinct kind
    rw [measured] at written longest
    exact ⟨m.clamp, written, congrArg Count.ofNat parents, m.depth, longest, rfl⟩
  · obtain ⟨target, _, measured⟩ := recursive.tag fitting distinct kind
    have written := entry distinct
    have longest := (recursive.tagDepths fitting).isGreatest_from distinct kind
    rw [measured] at written longest
    exact ⟨_, written, _, longest, rfl⟩
  · exact Figure.ofCount_inj.mp (figure .historyDepth fun m => by cases m <;> rfl)
  · exact Figure.ofCount_inj.mp (figure .tagDepth fun m => by cases m <;> rfl)

/-- A tag of a tag of a merge, with one parent twice and another one in between. -/
def mergedHistory : List HistoryObject :=
  [.tag (.ofNat 6) 150 (.ofNat 5),
    .tag (.ofNat 5) 150 (.ofNat 4),
    .commit (.ofNat 4) 300 (.ofNat 1) [.ofNat 2, .ofNat 3, .ofNat 2],
    .commit (.ofNat 3) 260 (.ofNat 1) [.ofNat 2],
    .commit (.ofNat 2) 200 (.ofNat 1) [],
    .tree (.ofNat 1) 0 []]

theorem depths_eq_longest_lines_merged :
    ∃ s, (Survey.run (ofList mergedHistory [] none) none).result = .ok s ∧
      (∃ n, IsGreatest (lengths mergedHistory .commit) n ∧ s.commits.maxDepth = .ofNat n) ∧
      ∃ n, IsGreatest (lengths mergedHistory .tag) n ∧ s.tags.maxDepth = .ofNat n := by
  have few : FewLinks mergedHistory := .of_listed (by decide)
  have acyclic : Dependency.Acyclic mergedHistory := .of_falling (·.bits.toNat) (by decide)
  obtain ⟨s, fine⟩ := (run_ok_iff mergedHistory [] few (by decide)).mpr
    ⟨.of_listed (by decide), acyclic, .of_forall (by decide)⟩
  obtain ⟨_, _, _, _, _, _, deepest⟩ :=
    depths_eq_longest_lines (ofList mergedHistory [] none) none s fine
  exact ⟨s, fine, deepest⟩

end Assembly

end HistorySurvey
