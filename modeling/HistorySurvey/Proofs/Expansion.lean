import Mathlib.Algebra.BigOperators.Group.List.Basic
import Mathlib.Order.Monotone.Basic
import HistorySurvey.Proofs.Completion
import HistorySurvey.Proofs.Overflow

/-! Directories in full. In the expansion of a directory everything has a place of its own, however
often it is shared, and the measure of a tree is what one counts there. -/
namespace HistorySurvey

/-- The name of an entry. -/
structure Segment where
  bytes : List UInt8
  nonempty : bytes ≠ []

/-- A directory structure. -/
inductive Content
  | blob (size : Nat)
  | symlink
  | submodule
  | directory (entries : List (Segment × Content))

/-- The largest of some numbers, zero if there are none. -/
def largest (numbers : List Nat) : Nat := numbers.foldr max 0

theorem largest_append (first second : List Nat) :
    largest (first ++ second) = max (largest first) (largest second) := by
  induction first with
  | nil => exact (Nat.zero_max _).symm
  | cons n rest ih => exact (congrArg (max n) ih).trans (max_assoc n _ _).symm

/-- A step that keeps the order takes the largest amount to the largest one. -/
theorem largest_map {A : Type} (amount : A → Nat) {step : Nat → Nat} (monotone : Monotone step)
    {items : List A} (some : items ≠ []) :
    largest (items.map fun item => step (amount item)) = step (largest (items.map amount)) := by
  induction items with
  | nil => contradiction
  | cons item rest ih =>
    cases rest with
    | nil => simp [largest]
    | cons next rest =>
      have joined := congrArg (max (step (amount item))) (ih (List.cons_ne_nil _ _))
      exact joined.trans monotone.map_max.symm

namespace Content

/-- The number of bytes of a path, with a slash between the names. -/
def pathLength (path : List Segment) : Nat :=
  (List.intercalate [0x2f] (path.map Segment.bytes)).length

mutual

/-- All that is in some content, by the path that leads to it, and the content itself first. -/
def places : Content → List (List Segment × Content)
  | blob size => [([], blob size)]
  | symlink => [([], symlink)]
  | submodule => [([], submodule)]
  | directory entries => ([], directory entries) :: placesUnder entries

def placesUnder : List (Segment × Content) → List (List Segment × Content)
  | [] => []
  | (name, content) :: rest =>
    (places content).map (fun place => (name :: place.1, place.2)) ++ placesUnder rest

end

/-- Paths end at what is not a directory and at directories without entries. -/
def isEnd : Content → Bool
  | directory (_ :: _) => false
  | _ => true

def size : Content → Nat
  | blob size => size
  | _ => 0

/-- The bytes that count for a blob. Of a size at the limit of 32 bits only the excess is known. -/
def countedSize (size : Nat) : Nat := if Count.limit 32 ≤ size then Count.limit 64 else size

def paths (places : List (List Segment × Content)) : List (List Segment) :=
  (places.filter (·.2.isEnd)).map Prod.fst

/-- What is counted in the full expansion of some content, and the longest of its paths. -/
def checkout (content : Content) : Checkout :=
  { pathDepth := .ofNat (largest ((paths content.places).map List.length))
    pathLength := .ofNat (largest ((paths content.places).map pathLength))
    trees := .ofNat (content.places.countP (·.2 matches directory _))
    blobs := .ofNat (content.places.countP (·.2 matches blob _))
    blobBytes := .ofNat (content.places.map fun place => countedSize place.2.size).sum
    links := .ofNat (content.places.countP (·.2 matches symlink))
    submodules := .ofNat (content.places.countP (·.2 matches submodule)) }

/-- How much longer a path gets with a name in front of it. -/
theorem pathLength_cons (name : Segment) (path : List Segment) :
    pathLength (name :: path) = if 0 < pathLength path then name.bytes.length + 1 + pathLength path
      else name.bytes.length := by
  cases path with
  | nil => simp [pathLength]
  | cons next rest =>
    have first := List.length_pos_of_ne_nil next.nonempty
    have some : 0 < pathLength (next :: rest) := by
      cases rest with
      | nil => simpa [pathLength] using first
      | cons _ _ => simp [pathLength]
    rw [if_pos some]
    simp [pathLength]
    omega

/-- Every content has the end of some path. -/
theorem exists_end (content : Content) : ∃ place ∈ content.places, place.2.isEnd := by
  cases content with
  | directory entries =>
    cases entries with
    | nil => exact ⟨_, List.mem_cons_self, rfl⟩
    | cons entry rest =>
      obtain ⟨name, content⟩ := entry
      obtain ⟨place, member, isEnd⟩ := exists_end content
      exact ⟨(name :: place.1, place.2), by simp [places, placesUnder, member], isEnd⟩
  | _ => exact ⟨_, List.mem_singleton_self _, rfl⟩

end Content

/-- A size at the limit of 32 bits brings a sum to its limit, and so does what counts for it. -/
theorem Count.carry_sum (sizes : List Nat) : (carry sizes.sum (largest sizes) : Count64) =
    .ofNat (sizes.map Content.countedSize).sum := by
  induction sizes with
  | nil => exact carry_zero 0
  | cons size rest ih =>
    have one : (carry size size : Count64) = .ofNat (Content.countedSize size) :=
      (apply_ite Count.ofNat _ _ _).symm
    rw [List.map_cons, List.sum_cons, List.sum_cons, ← ofNat_add, ← one, ← ih, add_carry]
    rfl

namespace Exact

/-- What one counts at some places. -/
def Checkout.ofPlaces (places : List (List Segment × Content)) : Checkout :=
  { pathDepth := largest ((Content.paths places).map List.length)
    pathLength := largest ((Content.paths places).map Content.pathLength)
    trees := places.countP (·.2 matches .directory _)
    blobs := places.countP (·.2 matches .blob _)
    blobBytes := (places.map (·.2.size)).sum
    largestBlob := largest (places.map (·.2.size))
    links := places.countP (·.2 matches .symlink)
    submodules := places.countP (·.2 matches .submodule) }

namespace Checkout

theorem ofPlaces_append (first second : List (List Segment × Content)) :
    ofPlaces (first ++ second) = (ofPlaces first).join (ofPlaces second) := by
  simp only [ofPlaces, join, Content.paths, List.filter_append, List.map_append, largest_append,
    List.countP_append, List.sum_append]

theorem ofPlaces_map (name : Segment) {places : List (List Segment × Content)}
    (some : ∃ place ∈ places, place.2.isEnd) :
    ofPlaces (places.map fun place => (name :: place.1, place.2)) =
      (ofPlaces places).under name.bytes.length := by
  have ends : Content.paths (places.map fun place => (name :: place.1, place.2)) =
      (Content.paths places).map (name :: ·) := by
    simp [Content.paths, List.filter_map, Function.comp_def]
  have nonempty : Content.paths places ≠ [] := by
    obtain ⟨place, member, isEnd⟩ := some
    exact List.ne_nil_of_mem (List.mem_map_of_mem (List.mem_filter.mpr ⟨member, isEnd⟩))
  have longer : Monotone fun inside =>
      if 0 < inside then name.bytes.length + 1 + inside else name.bytes.length := by
    intro a b less
    dsimp only
    split <;> split <;> omega
  have depth := largest_map List.length (fun _ _ => Nat.succ_le_succ : Monotone Nat.succ) nonempty
  have length := largest_map Content.pathLength longer nonempty
  dsimp only [Nat.succ_eq_add_one] at depth length
  simp only [ofPlaces, under, ends, List.map_map, List.countP_map, Function.comp_def,
    Content.pathLength_cons, List.length_cons, depth, length]
  rfl

/-- The one count that needs the largest blob is that of the bytes. -/
theorem clamp_ofPlaces (content : Content) :
    (ofPlaces content.places).clamp = content.checkout := by
  have bytes := Count.carry_sum (content.places.map (·.2.size))
  rw [List.map_map] at bytes
  simp only [clamp, Content.checkout, ofPlaces, bytes]
  rfl

end Checkout

end Exact

/-! Where a history holds some content. -/

namespace Content

def mode : Content → LinkMode
  | symlink => .symlink
  | submodule => .submodule
  | blob _ | directory _ => .content

mutual

/-- An id stands for an object that is this content with all that it links to. -/
def Stored (objects : List HistoryObject) : Content → ObjectId → Prop
  | blob size, id => ∃ object, objects.find? (·.id = id) = some object ∧
      object.kind = .blob ∧ object.links = [] ∧ object.size = size
  | symlink, _ => False
  | submodule, _ => False
  | directory entries, id => ∃ object, objects.find? (·.id = id) = some object ∧
      object.kind = .tree ∧ Listed objects entries object.links

/-- The entries of a directory, one link for each. -/
def Listed (objects : List HistoryObject) : List (Segment × Content) → List Link → Prop
  | [], links => links = []
  | (name, content) :: rest, links => ∃ link others, links = link :: others ∧
      link.segment = some name.bytes ∧ link.mode = content.mode ∧
      (link.mode = .content → Stored objects content link.target) ∧ Listed objects rest others

end

variable {objects : List HistoryObject}

theorem Listed.length_eq {entries : List (Segment × Content)} {links : List Link}
    (listed : Listed objects entries links) : links.length = entries.length := by
  induction entries generalizing links with
  | nil =>
    obtain rfl : links = [] := listed
    rfl
  | cons entry rest ih =>
    obtain ⟨link, others, rfl, _, _, _, further⟩ := listed
    rw [List.length_cons, List.length_cons, ih further]

theorem Listed.exists_stored {entries : List (Segment × Content)} {links : List Link}
    (listed : Listed objects entries links) {link : Link} (member : link ∈ links)
    (followed : link.mode = .content) : ∃ entry ∈ entries, entry.2.Stored objects link.target := by
  induction entries generalizing links with
  | nil =>
    obtain rfl : links = [] := listed
    contradiction
  | cons entry rest ih =>
    obtain ⟨first, others, rfl, _, _, stored, further⟩ := listed
    rcases List.mem_cons.mp member with rfl | later
    · exact ⟨entry, List.mem_cons_self, stored followed⟩
    · obtain ⟨entry, inside, stored⟩ := ih further later
      exact ⟨entry, List.mem_cons_of_mem _ inside, stored⟩

open Dependency

/-- What stored content depends on is content inside it. -/
theorem Stored.exists_smaller {content : Content} {id child : ObjectId}
    (stored : content.Stored objects id) (depends : Depends objects id child) :
    ∃ inner : Content, inner.Stored objects child ∧ sizeOf inner < sizeOf content := by
  obtain ⟨object, found, needed⟩ := depends
  obtain ⟨link, member, rfl⟩ := List.mem_map.mp needed
  obtain ⟨linked, followed⟩ := List.mem_filter.mp member
  cases content with
  | blob size =>
    obtain ⟨same, present, _, none, _⟩ := stored
    obtain rfl := Option.some.inj (found.symm.trans present)
    rw [none] at linked
    contradiction
  | symlink => exact stored.elim
  | submodule => exact stored.elim
  | directory entries =>
    obtain ⟨same, present, _, listed⟩ := stored
    obtain rfl := Option.some.inj (found.symm.trans present)
    obtain ⟨⟨name, inner⟩, inside, stored⟩ :=
      listed.exists_stored linked (of_decide_eq_true followed)
    have smaller := List.sizeOf_lt_of_mem inside
    rw [Prod.mk.sizeOf_spec] at smaller
    refine ⟨inner, stored, ?_⟩
    rw [directory.sizeOf_spec]
    omega

theorem Stored.exists_smaller_of_transGen {content : Content} {id other : ObjectId}
    (stored : content.Stored objects id) (way : Relation.TransGen (Depends objects) id other) :
    ∃ inner : Content, inner.Stored objects other ∧ sizeOf inner < sizeOf content := by
  induction way with
  | single depends => exact stored.exists_smaller depends
  | tail _ depends ih =>
    obtain ⟨middle, between, less⟩ := ih
    obtain ⟨inner, last, smaller⟩ := between.exists_smaller depends
    exact ⟨inner, last, smaller.trans less⟩

theorem Stored.not_onCycle {content : Content} {id : ObjectId}
    (stored : content.Stored objects id) : ¬ OnCycle objects id := by
  intro cycle
  -- Around a cycle the content at one id would get smaller and smaller.
  induction size : sizeOf content using Nat.strong_induction_on generalizing content with
  | _ n ih =>
    obtain ⟨inner, again, smaller⟩ := stored.exists_smaller_of_transGen cycle
    exact ih _ (size ▸ smaller) again rfl

theorem Stored.kindIn {content : Content} {id : ObjectId} (stored : content.Stored objects id) :
    Reference.kindIn objects id = some .blob ∨ Reference.kindIn objects id = some .tree := by
  cases content with
  | blob size =>
    obtain ⟨object, found, kind, _⟩ := stored
    exact .inl (by rw [Reference.kindIn, found, Option.map_some, kind])
  | directory entries =>
    obtain ⟨object, found, kind, _⟩ := stored
    exact .inr (by rw [Reference.kindIn, found, Option.map_some, kind])
  | symlink => exact stored.elim
  | submodule => exact stored.elim

theorem Stored.mem_ids {content : Content} {id : ObjectId} (stored : content.Stored objects id) :
    id ∈ objects.map HistoryObject.id := by
  have kind : ∃ kind, Reference.kindIn objects id = some kind :=
    stored.kindIn.elim (⟨_, ·⟩) (⟨_, ·⟩)
  obtain ⟨kind, known⟩ := kind
  obtain ⟨object, distinct, rfl, _⟩ := (Assembly.kindIn_eq_some_iff objects id kind).mp known
  exact List.mem_map_of_mem (ObjectStream.mem_of_mem_firstOccurrences distinct)

theorem Stored.complete {content : Content} {id : ObjectId} (stored : content.Stored objects id) :
    Complete objects id := by
  intro other reached
  have inside : ∃ inner : Content, inner.Stored objects other := by
    rcases Relation.reflTransGen_iff_eq_or_transGen.mp reached with rfl | way
    · exact ⟨content, stored⟩
    · exact (stored.exists_smaller_of_transGen way).imp fun _ => And.left
  obtain ⟨inner, kept⟩ := inside
  exact ⟨kept.mem_ids, kept.not_onCycle⟩

end Content

namespace Exact
open ObjectStream Dependency

variable {objects : List HistoryObject}

def ofContent : Content → Measure
  | .blob size => .blob size
  | .directory entries =>
    .tree ⟨entries.length, .ofPlaces (Content.directory entries).places⟩
  | .symlink | .submodule => .blob 0

private theorem ofPlaces_blob (size : Nat) : Checkout.ofPlaces (Content.blob size).places =
    { Checkout.empty with blobs := 1, blobBytes := size, largestBlob := size } := by
  simp [Checkout.ofPlaces, Content.places, Content.paths, Content.size, Content.isEnd,
    Content.pathLength, largest, Checkout.empty]

/-- An entry brings the expansion of its content with its name in front of every path. -/
theorem entryPart_eq {link : Link} {name : Segment} {content : Content}
    (named : link.segment = some name.bytes) (mode : link.mode = content.mode)
    (measured : link.mode = .content → figure objects link.target = ofContent content) :
    entryPart (figure objects) link =
      .ofPlaces (content.places.map fun place => (name :: place.1, place.2)) := by
  have long : link.segmentLength = name.bytes.length := by
    rw [Link.segmentLength, named]
    rfl
  rw [Checkout.ofPlaces_map name content.exists_end, ← long]
  unfold entryPart
  cases content with
  | symlink =>
    rw [mode]
    rfl
  | submodule =>
    rw [mode]
    rfl
  | blob size =>
    rw [measured mode, mode, ofPlaces_blob]
    rfl
  | directory entries =>
    rw [measured mode, mode]
    rfl

/-- Measures that obey the recursion at every object that is complete. -/
def Settled (objects : List HistoryObject) : Prop :=
  ∀ object ∈ firstOccurrences objects, Complete objects object.id →
    figure objects object.id = combine (figure objects) object

mutual

/-- By recursion on the content, with the entries of a directory taken one by one. -/
theorem figure_of_stored (settled : Settled objects) (content : Content) (id : ObjectId)
    (stored : content.Stored objects id) : figure objects id = ofContent content := by
  have complete := stored.complete
  cases content with
  | blob size =>
    obtain ⟨object, found, kind, _, rfl⟩ := stored
    obtain ⟨distinct, rfl⟩ := (find?_eq_some_iff objects id object).mp found
    rw [settled object distinct complete, combine_blob _ kind, ofContent]
  | symlink => exact stored.elim
  | submodule => exact stored.elim
  | directory entries =>
    obtain ⟨object, found, kind, listed⟩ := stored
    obtain ⟨distinct, rfl⟩ := (find?_eq_some_iff objects id object).mp found
    have own : Checkout.directory = .ofPlaces [([], .directory entries)] := by
      cases entries <;> rfl
    rw [settled object distinct complete, combine_tree _ kind, ofContent, own,
      foldl_of_listed settled entries object.links listed, listed.length_eq]
    rfl

theorem foldl_of_listed (settled : Settled objects) (entries : List (Segment × Content))
    (links : List Link) (listed : Content.Listed objects entries links) (n : Nat)
    (before : List (List Segment × Content)) :
    links.foldl (addEntry (figure objects)) ⟨n, .ofPlaces before⟩ =
      ⟨n, .ofPlaces (before ++ Content.placesUnder entries)⟩ := by
  cases entries with
  | nil =>
    obtain rfl : links = [] := listed
    rw [Content.placesUnder, List.append_nil, List.foldl_nil]
  | cons entry rest =>
    obtain ⟨name, content⟩ := entry
    obtain ⟨link, others, rfl, named, mode, stored, further⟩ := listed
    have part := entryPart_eq named mode fun followed =>
      figure_of_stored settled content link.target (stored followed)
    rw [List.foldl_cons, addEntry, part, ← Checkout.ofPlaces_append,
      foldl_of_listed settled rest others further, Content.placesUnder, List.append_assoc]

end

end Exact

namespace Assembly
open ObjectStream Dependency

variable {hints : Hints} {start : Summary} {accepted : List HistoryObject} {journal : Journal}
  {a : Assembly}

theorem Accounted.settled (accounted : Accounted hints start accepted journal a)
    (idle : a.ready = []) : Exact.Settled accepted := by
  intro object distinct complete
  have measured := accounted.measured_of_complete idle complete
  exact accounted.exact_recursive (accounted.mem_journal distinct measured)

/-- The objects of directory structures fit together. -/
theorem acceptAll_of_stored (references : List String) {objects : List HistoryObject}
    (truthful : Truthful hints objects)
    (stored : ∀ object ∈ objects, (object.kind = .blob ∨ object.kind = .tree) ∧
      ∃ content : Content, content.Stored objects object.id) :
    (Survey.acceptAll hints objects (ofReferences references)).2 = none := by
  refine acceptAll_fine references truthful (fun object member other => ?_)
    (fun object distinct => ?_)
  · rcases (stored object member).1 with kind | kind <;> simp [kind] at other
  · obtain ⟨kind, content, kept⟩ := stored object (mem_of_mem_firstOccurrences distinct)
    unfold HistoryObject.Fits
    rcases kind with kind | kind <;> rw [kind]
    · trivial
    · intro child needed
      have depends := (depends_iff objects object.id child).mpr ⟨object, distinct, rfl, needed⟩
      obtain ⟨inner, inside, _⟩ := kept.exists_smaller depends
      exact inside.kindIn

/-- The measure of a tree is what one counts in the full expansion of the directory that it stands
for. In a history of directories everything is accepted. -/
theorem measures_eq_expansions (hints : Hints) (objects : List HistoryObject)
    (references : List String) :
    let accepted := Survey.acceptAll hints objects (ofReferences references)
    (Truthful hints objects →
      (∀ object ∈ objects, (object.kind = .blob ∨ object.kind = .tree) ∧
        ∃ content : Content, content.Stored objects object.id) →
      accepted.2 = none) ∧
    (accepted.2 = none →
      ∃ journal, Runs hints [] (ofReferences references) objects journal accepted.1 ∧
        ∀ id entries, (Content.directory entries).Stored objects id →
          ∃ object m, (object, .tree m) ∈ journal ∧ object.id = id ∧
            m.entries = .ofNat entries.length ∧
            m.checkout = (Content.directory entries).checkout) := by
  intro accepted
  refine ⟨acceptAll_of_stored references, fun fine => ?_⟩
  have all : Survey.acceptAll hints objects (ofReferences references) = (accepted.1, none) :=
    Prod.ext rfl fine
  obtain ⟨journal, runs, accounted, idle⟩ := accounted_of_acceptAll references all
  refine ⟨journal, runs, fun id entries stored => ?_⟩
  have measured := Exact.figure_of_stored (accounted.settled idle) _ id stored
  have known := accounted.measured_of_complete idle stored.complete
  obtain ⟨object, inside, rfl⟩ := Journal.exists_of_mem_ids known
  have written := accounted.entry_mem inside
  rw [measured] at written
  exact ⟨object, _, written, rfl, rfl, Exact.Checkout.clamp_ofPlaces _⟩

/-- A directory with two directories that are the same, one that is empty, a symbolic link, a
submodule and a blob as large as 32 bits tell. -/
def nestedEntries : List (Segment × Content) :=
  let shared := Content.directory [(⟨[0x78, 0x79], by decide⟩, .blob 9)]
  [(⟨[0x61], by decide⟩, shared),
    (⟨[0x6c], by decide⟩, .symlink),
    (⟨[0x62], by decide⟩, shared),
    (⟨[0x65], by decide⟩, .directory []),
    (⟨[0x73], by decide⟩, .submodule),
    (⟨[0x7a], by decide⟩, .blob 0xffffffff)]

def nestedHistory : List HistoryObject :=
  [.tree (.ofNat 5) 200
      [⟨.ofNat 3, some [0x61], .content⟩, ⟨.ofNat 8, some [0x6c], .symlink⟩,
        ⟨.ofNat 3, some [0x62], .content⟩, ⟨.ofNat 4, some [0x65], .content⟩,
        ⟨.ofNat 9, some [0x73], .submodule⟩, ⟨.ofNat 2, some [0x7a], .content⟩],
    .tree (.ofNat 3) 35 [⟨.ofNat 1, some [0x78, 0x79], .content⟩],
    .tree (.ofNat 4) 0 [],
    .blob (.ofNat 2) 0xffffffff,
    .blob (.ofNat 1) 9]

theorem measures_eq_expansions_nested :
    ∃ journal a, Runs (fun _ => none) [] (ofReferences []) nestedHistory journal a ∧
      ∃ object m, (object, .tree m) ∈ journal ∧ object.id = .ofNat 5 ∧ m.entries = 6 ∧
        m.checkout = ⟨2, 4, 4, 3, .ofNat (Count.limit 64), 1, 1⟩ := by
  have file : (Content.blob 9).Stored nestedHistory (.ofNat 1) := ⟨_, rfl, rfl, rfl, rfl⟩
  have large : (Content.blob 0xffffffff).Stored nestedHistory (.ofNat 2) := ⟨_, rfl, rfl, rfl, rfl⟩
  have empty : (Content.directory []).Stored nestedHistory (.ofNat 4) := ⟨_, rfl, rfl, rfl⟩
  have shared : (Content.directory [(⟨[0x78, 0x79], by decide⟩, .blob 9)]).Stored nestedHistory
      (.ofNat 3) := ⟨_, rfl, rfl, _, _, rfl, rfl, rfl, fun _ => file, rfl⟩
  have whole : (Content.directory nestedEntries).Stored nestedHistory (.ofNat 5) :=
    ⟨_, rfl, rfl,
      _, _, rfl, rfl, rfl, fun _ => shared,
      _, _, rfl, rfl, rfl, fun followed => by contradiction,
      _, _, rfl, rfl, rfl, fun _ => shared,
      _, _, rfl, rfl, rfl, fun _ => empty,
      _, _, rfl, rfl, rfl, fun followed => by contradiction,
      _, _, rfl, rfl, rfl, fun _ => large, rfl⟩
  have stored : ∀ object ∈ nestedHistory, (object.kind = .blob ∨ object.kind = .tree) ∧
      ∃ content : Content, content.Stored nestedHistory object.id := by
    simp only [nestedHistory, List.forall_mem_cons]
    exact ⟨⟨.inr rfl, _, whole⟩, ⟨.inr rfl, _, shared⟩, ⟨.inr rfl, _, empty⟩, ⟨.inl rfl, _, large⟩,
      ⟨.inl rfl, _, file⟩, fun _ none => by contradiction⟩
  obtain ⟨fine, measured⟩ := measures_eq_expansions (fun _ => none) nestedHistory []
  obtain ⟨journal, runs, all⟩ := measured (fine (truthful_none nestedHistory) stored)
  obtain ⟨object, m, written, same, entries, checkout⟩ := all _ _ whole
  exact ⟨journal, _, runs, object, m, written, same, entries, checkout.trans (by decide)⟩

end Assembly

end HistorySurvey
