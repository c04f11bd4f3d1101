import HistorySurvey.Proofs.Reach
import HistorySurvey.Proofs.Recursion

/-! Surveys of what a store holds. Two lists that hold just what can be reached, each object as it
is stored, have the same totals; only the size of the empty tree may be told differently. -/
namespace HistorySurvey

namespace Reference

/-- Measuring looks at the kind and the links of an object, and at the size of a blob. -/
theorem combine_eq {a b : HistoryObject} (figure : ObjectId → Measure) (kind : a.kind = b.kind)
    (links : a.links = b.links) (size : a.kind = .blob → a.size = b.size) :
    combine figure a = combine figure b := by
  obtain ⟨_, kindA, sizeA, linksA, _⟩ := a
  obtain ⟨_, kindB, sizeB, linksB, _⟩ := b
  dsimp only at kind links size
  subst kind links
  cases kindA with
  | blob =>
    rw [combine, combine]
    simp only [size]
  | tree => rfl
  | commit => cases linksA <;> rfl
  | tag => cases linksA <;> rfl

end Reference

namespace Totals

variable {names : List String} {base : List HistoryObject} {figure : HistoryObject → Measure}
  {other : HistoryObject → HistoryObject} {s t : Summary}

def treeBytes (objects : List HistoryObject) : Nat :=
  ((objects.filter (·.kind = .tree)).map HistoryObject.size).sum

private theorem trees_resized : (trees (base.map fun o => (o, figure o))).map Prod.snd =
    (trees (base.map fun o => (other o, figure o))).map Prod.snd := by
  unfold trees
  rw [List.filterMap_map, List.filterMap_map, List.map_filterMap, List.map_filterMap]
  refine List.filterMap_congr fun o _ => ?_
  dsimp only [Function.comp_apply]
  cases figure o <;> rfl

private theorem ofTrees_resized {a b : List (Nat × TreeMeasure)}
    (same : a.map Prod.snd = b.map Prod.snd) :
    ofTrees a = { ofTrees b with bytes := (ofTrees a).bytes } := by
  have lengths := congrArg List.length same
  have entries := congrArg (List.map fun m : TreeMeasure => m.entries.widen.value) same
  have largest := congrArg (List.map TreeMeasure.entries) same
  simp only [List.length_map, List.map_map, Function.comp_def] at lengths entries largest
  simp only [ofTrees, lengths, entries, largest]

/-- Other names for the same measured objects do not show in totals, and other sizes of trees show
only in the sum of these. -/
theorem Of.unranked_of_resized (left : Of names (base.map fun o => (o, figure o)) s)
    (right : Of names (base.map fun o => (other o, figure o)) t)
    (references : s.references = t.references)
    (sizes : ∀ o ∈ base, (figure o).kind ≠ .tree → o.size = (other o).size) :
    s.unranked = { t.unranked with trees := { t.trees with bytes := s.trees.bytes } } := by
  have same : Totals.commits (base.map fun o => (o, figure o)) =
      Totals.commits (base.map fun o => (other o, figure o)) := by
    unfold Totals.commits
    rw [List.filterMap_map, List.filterMap_map]
    refine List.filterMap_congr fun o member => ?_
    dsimp only [Function.comp_apply]
    cases measured : figure o with
    | commit m =>
      have size := sizes o member (by rw [measured]; exact nofun)
      rw [size]
    | _ => rfl
  have blobs : Totals.blobs (base.map fun o => (o, figure o)) =
      Totals.blobs (base.map fun o => (other o, figure o)) := by
    unfold Totals.blobs
    rw [List.filterMap_map, List.filterMap_map]
    rfl
  have tags : Totals.tags (base.map fun o => (o, figure o)) =
      Totals.tags (base.map fun o => (other o, figure o)) := by
    unfold Totals.tags
    rw [List.filterMap_map, List.filterMap_map]
    rfl
  have trees : s.trees = { t.trees with bytes := s.trees.bytes } := by
    rw [left.trees, right.trees]
    exact ofTrees_resized trees_resized
  unfold Summary.unranked
  rw [left.commits, left.blobs, left.tags, left.checkout, same, blobs, tags, references,
    right.commits, right.blobs, right.tags, right.checkout, ← trees]

theorem Of.bytes_of_resized (left : Of names (base.map fun o => (o, figure o)) s)
    (right : Of names (base.map fun o => (other o, figure o)) t)
    (sizes : ∀ o ∈ base, o.size = (other o).size) : s.trees.bytes = t.trees.bytes := by
  have same : Totals.trees (base.map fun o => (o, figure o)) =
      Totals.trees (base.map fun o => (other o, figure o)) := by
    unfold Totals.trees
    rw [List.filterMap_map, List.filterMap_map]
    refine List.filterMap_congr fun o member => ?_
    dsimp only [Function.comp_apply]
    rw [sizes o member]
  rw [left.trees, right.trees, same]

theorem Of.bytes_eq (totals : Of names (base.map fun o => (o, figure o)) s)
    (kinds : ∀ o ∈ base, (figure o).kind = o.kind) :
    s.trees.bytes = .ofNat (treeBytes base) := by
  have sizes : (Totals.trees (base.map fun o => (o, figure o))).map Prod.fst =
      (base.filter (·.kind = .tree)).map HistoryObject.size := by
    unfold Totals.trees
    rw [List.filterMap_map, List.map_filterMap, ← List.filterMap_eq_filter, List.map_filterMap]
    refine List.filterMap_congr fun o member => ?_
    have kind := kinds o member
    cases measured : figure o <;> simp [measured, ← kind, Measure.kind, Option.guard]
  rw [totals.trees, ofTrees, sizes, treeBytes]

end Totals

theorem ObjectStream.bytes_of_run {stream : ObjectStream} {stopAfter : Option Nat} {s : Summary}
    (fine : (Survey.run stream stopAfter).result = .ok s) :
    s.trees.bytes = .ofNat (Totals.treeBytes (firstOccurrences stream.objects)) := by
  obtain ⟨journal, a, accounted, all, rfl⟩ := Assembly.accounted_of_stream fine
  have totals := (Totals.of_summary stream.references journal).perm (accounted.journal_perm all)
  refine totals.bytes_eq fun object distinct => ?_
  rw [accounted.figure_recursive (accounted.mem_journal distinct (all object distinct)),
    Reference.kind_combine]

namespace Git
open ObjectStream Dependency Assembly

/-- A list holds just the objects that can be reached, each as it is stored. -/
structure Portrait (store : Store) (roots : Set ObjectId) (objects : List HistoryObject) : Prop where
  ids : ∀ id, id ∈ objects.map HistoryObject.id ↔ Reachable store roots id
  portrays : ∀ object ∈ objects, ∃ stored original, store[object.id]? = some stored ∧
    stored.describe? object.id = some original ∧ Portrays object original

variable {store : Store} {roots : Set ObjectId} {objects others : List HistoryObject}

theorem Portrait.reachable (portrait : Portrait store roots objects) {object : HistoryObject}
    (member : object ∈ objects) : Reachable store roots object.id :=
  (portrait.ids object.id).mp (List.mem_map_of_mem member)

theorem Portrait.leads (portrait : Portrait store roots objects) {object : HistoryObject}
    (member : object ∈ objects) {child : ObjectId} (needed : child ∈ object.dependencies) :
    Leads store object.id child := by
  obtain ⟨stored, original, found, described, portrays⟩ := portrait.portrays object member
  have follows := object.dependencies_subset_followed needed
  rw [portrays.followed, StoredObject.followed_of_describe? described] at follows
  exact ⟨stored, found, follows⟩

theorem Portrait.closed (portrait : Portrait store roots objects) : Closed objects :=
  .of_listed fun _ member child needed => (portrait.ids child).mpr
    ((portrait.reachable member).tail (portrait.leads member needed))

theorem Portrait.acyclic (portrait : Portrait store roots objects) (intact : Intact store roots) :
    Acyclic objects := by
  have step {source target : ObjectId} (depends : Depends objects source target) :
      Reachable store roots source ∧ Leads store source target := by
    obtain ⟨object, distinct, rfl, needed⟩ := (depends_iff objects source target).mp depends
    have member := mem_of_mem_firstOccurrences distinct
    exact ⟨portrait.reachable member, portrait.leads member needed⟩
  intro id cycle
  obtain ⟨next, first, _⟩ := Relation.TransGen.head'_iff.mp cycle
  have way : Relation.TransGen (Leads store) id id :=
    Relation.TransGen.mono (fun _ _ depends => (step depends).2) _ _ cycle
  exact intact.acyclic id (step first).1 way

theorem Portrait.kindIn (portrait : Portrait store roots objects) {id : ObjectId}
    (reachable : Reachable store roots id) {stored : StoredObject} (found : store[id]? = some stored) :
    Reference.kindIn objects id = some stored.kind := by
  obtain ⟨object, distinct, rfl⟩ := List.mem_map.mp
    ((ids_firstOccurrences objects id).mpr ((portrait.ids id).mpr reachable))
  refine (kindIn_eq_some_iff objects object.id stored.kind).mpr ⟨object, distinct, rfl, ?_⟩
  obtain ⟨other, original, also, described, portrays⟩ :=
    portrait.portrays object (mem_of_mem_firstOccurrences distinct)
  obtain rfl := Option.some.inj (found.symm.trans also)
  rw [portrays.kind, (StoredObject.frame_of_describe? described).2.1]

theorem StoredObject.fits_of_describe? {stored : StoredObject} {id : ObjectId}
    {object : HistoryObject} (described : stored.describe? id = some object)
    {kind : ObjectId → Option Kind} (stated : ∀ lead ∈ stored.leads, kind lead.1 = some lead.2) :
    object.Fits kind := by
  unfold describe? at described
  unfold leads at stated
  unfold HistoryObject.Fits
  cases known : stored.kind with
  | blob =>
    rw [known] at described
    obtain rfl := Option.some.inj described
    trivial
  | tree =>
    simp only [known] at described stated
    obtain ⟨entries, read, rfl⟩ := Option.map_eq_some_iff.mp described
    rw [read, Option.getD_some] at stated
    intro child needed
    obtain ⟨link, listed, rfl⟩ := List.mem_map.mp needed
    obtain ⟨member, content⟩ := List.mem_filter.mp listed
    obtain ⟨entry, inside, rfl⟩ := List.mem_map.mp member
    have lead {target : Kind} (leads : entry.lead? = some (entry.target, target)) :
        kind entry.target = some target :=
      stated (entry.target, target) (List.mem_filterMap.mpr ⟨entry, inside, leads⟩)
    cases sort : entry.kind with
    | file => exact .inl (lead (by simp [TreeEntry.lead?, sort]))
    | tree => exact .inr (lead (by simp [TreeEntry.lead?, sort]))
    | symlink => simp [Walk.linkOf, sort] at content
    | submodule => simp [Walk.linkOf, sort] at content
  | commit =>
    simp only [known] at described stated
    obtain ⟨⟨root, parents⟩, read, rfl⟩ := Option.map_eq_some_iff.mp described
    rw [read, Option.map_some, Option.getD_some] at stated
    refine ⟨.toObject root, parents.map .toObject, rfl, stated (root, .tree) List.mem_cons_self, ?_⟩
    intro link listed
    obtain ⟨parent, member, rfl⟩ := List.mem_map.mp listed
    exact stated (parent, .commit) (List.mem_cons_of_mem _ (List.mem_map.mpr ⟨parent, member, rfl⟩))
  | tag =>
    simp only [known] at described
    obtain ⟨target, read, rfl⟩ := Option.map_eq_some_iff.mp described
    exact List.cons_ne_nil _ _

theorem StoredObject.followed_links {stored : StoredObject} {id : ObjectId}
    {object : HistoryObject} (described : stored.describe? id = some object) : object.Followed := by
  have frame := frame_of_describe? described
  unfold describe? at described
  intro either link listed
  rw [frame.2.1] at either
  rcases either with commit | tag
  · simp only [commit] at described
    obtain ⟨links, _, rfl⟩ := Option.map_eq_some_iff.mp described
    rcases List.mem_cons.mp listed with rfl | later
    · rfl
    · obtain ⟨parent, _, rfl⟩ := List.mem_map.mp later
      rfl
  · simp only [tag] at described
    obtain ⟨target, _, rfl⟩ := Option.map_eq_some_iff.mp described
    rw [List.mem_singleton.mp listed]
    rfl

theorem Portrays.fits_iff {object original : HistoryObject} (portrays : Portrays object original)
    (kind : ObjectId → Option Kind) : object.Fits kind ↔ original.Fits kind := by
  unfold HistoryObject.Fits HistoryObject.dependencies
  rw [portrays.kind, portrays.links]

theorem Portrait.fitting (portrait : Portrait store roots objects) (intact : Intact store roots) :
    Reference.WellKinded objects := by
  refine .of_forall fun object member => ?_
  obtain ⟨stored, original, found, described, portrays⟩ := portrait.portrays object member
  refine (portrays.fits_iff _).mpr (StoredObject.fits_of_describe? described fun lead listed => ?_)
  have reachable := portrait.reachable member
  have next := reachable.tail ⟨stored, found, List.mem_map_of_mem listed⟩
  obtain ⟨other, _, inside, _⟩ := intact.readable lead.1 next
  rw [portrait.kindIn next inside, intact.stated _ reachable stored found lead listed other inside]

theorem Portrait.followed (portrait : Portrait store roots objects) :
    ∀ object ∈ objects, object.Followed := by
  intro object member
  obtain ⟨stored, original, _, described, portrays⟩ := portrait.portrays object member
  unfold HistoryObject.Followed
  rw [portrays.kind, portrays.links]
  exact StoredObject.followed_links described

/-- In a store with nothing wrong, a survey of what can be reached gives a summary. -/
theorem Portrait.exists_summary {stream : ObjectStream}
    (portrait : Portrait store roots stream.objects) (intact : Intact store roots)
    (unfailing : stream.failure = none) (silent : stream.hints = fun _ => none) :
    ∃ s, (Survey.run stream none).result = .ok s := by
  refine run_of_sound stream unfailing ?_ portrait.followed portrait.closed
    (portrait.acyclic intact) (portrait.fitting intact)
  rw [silent]
  exact truthful_none stream.objects

/-! Two lists of what can be reached. -/

theorem Portrait.alike (left : Portrait store roots objects) (right : Portrait store roots others)
    {a b : HistoryObject} (first : a ∈ objects) (second : b ∈ others) (same : a.id = b.id) :
    a.kind = b.kind ∧ a.links = b.links ∧ (a.size = b.size ∨ a.kind = .tree ∧ a.id = emptyTree) := by
  obtain ⟨stored, original, found, described, one⟩ := left.portrays a first
  obtain ⟨stored', original', found', described', two⟩ := right.portrays b second
  rw [same] at found described
  obtain rfl := Option.some.inj (found.symm.trans found')
  obtain rfl := Option.some.inj (described.symm.trans described')
  refine ⟨one.kind.trans two.kind.symm, one.links.trans two.links.symm, ?_⟩
  rcases one.size with size | bare
  · rcases two.size with size' | ⟨tree, empty⟩
    · exact .inl (size.trans size'.symm)
    · exact .inr ⟨(one.kind.trans two.kind.symm).trans tree, same.trans empty⟩
  · exact .inr bare

theorem Portrait.exists_counterparts (left : Portrait store roots objects)
    (right : Portrait store roots others) :
    ∃ other : HistoryObject → HistoryObject,
      ((firstOccurrences objects).map other).Perm (firstOccurrences others) ∧
      ∀ object ∈ firstOccurrences objects, (other object).id = object.id ∧
        other object ∈ firstOccurrences others := by
  let other (object : HistoryObject) : HistoryObject := (others.find? (·.id = object.id)).getD object
  have chosen {object x : HistoryObject} (distinct : x ∈ firstOccurrences others)
      (same : x.id = object.id) : other object = x := by
    have found := (find?_eq_some_iff others object.id x).mpr ⟨distinct, same⟩
    simp only [other, found, Option.getD_some]
  have spec : ∀ object ∈ firstOccurrences objects, (other object).id = object.id ∧
      other object ∈ firstOccurrences others := by
    intro object distinct
    have reachable := left.reachable (mem_of_mem_firstOccurrences distinct)
    obtain ⟨x, inside, same⟩ := List.mem_map.mp
      ((ids_firstOccurrences others object.id).mpr ((right.ids object.id).mpr reachable))
    rw [chosen inside same]
    exact ⟨same, inside⟩
  refine ⟨other, ?_, spec⟩
  have ids : ((firstOccurrences objects).map other).map HistoryObject.id =
      (firstOccurrences objects).map HistoryObject.id := by
    rw [List.map_map]
    exact List.map_congr_left fun object distinct => (spec object distinct).1
  have distinct : ((firstOccurrences objects).map other).Nodup := by
    refine List.Nodup.of_map HistoryObject.id ?_
    rw [ids]
    exact nodup_firstOccurrences objects
  refine (List.perm_ext_iff_of_nodup distinct (nodup_firstOccurrences others).of_map).mpr fun x => ?_
  constructor
  · intro member
    obtain ⟨object, inside, rfl⟩ := List.mem_map.mp member
    exact (spec object inside).2
  · intro inside
    have reachable := right.reachable (mem_of_mem_firstOccurrences inside)
    obtain ⟨object, member, same⟩ := List.mem_map.mp
      ((ids_firstOccurrences objects x.id).mpr ((left.ids x.id).mpr reachable))
    exact List.mem_map.mpr ⟨object, member, chosen inside same.symm⟩

/-- Their totals are the same, but for the sum of the sizes of trees if the empty one is told
another size. -/
theorem Portrait.unranked_eq {first second : ObjectStream}
    (left : Portrait store roots first.objects) (right : Portrait store roots second.objects)
    (names : first.references = second.references) {s t : Summary}
    (fine : (Survey.run first none).result = .ok s)
    (well : (Survey.run second none).result = .ok t) :
    s.unranked = { t.unranked with trees := { t.trees with bytes := s.trees.bytes } } ∧
    ((∀ a ∈ first.objects, ∀ b ∈ second.objects, a.id = b.id → a.size = b.size) →
      s.unranked = t.unranked) := by
  obtain ⟨journal, a, accounted, all, rfl⟩ := accounted_of_stream fine
  obtain ⟨later, b, known, complete, rfl⟩ := accounted_of_stream well
  obtain ⟨other, permuted, spec⟩ := left.exists_counterparts right
  have alike {object : HistoryObject} (distinct : object ∈ firstOccurrences first.objects) :=
    left.alike right (mem_of_mem_firstOccurrences distinct)
      (mem_of_mem_firstOccurrences (spec object distinct).2) (spec object distinct).1.symm
  have measured {object : HistoryObject} (distinct : object ∈ firstOccurrences first.objects) :
      object ∈ journal.objects := accounted.mem_journal distinct (all object distinct)
  -- Both ways an object gets the one measure that its links give it.
  have figures : ∀ object ∈ firstOccurrences first.objects,
      Reference.figure second.objects (other object).id =
        Reference.figure first.objects object.id := by
    intro object distinct
    rw [(spec object distinct).1, accounted.figure_eq (all object distinct)]
    refine accounted.justified.figure_unique (fun part inside => ?_) (all object distinct)
    have member := (accounted.members part).mpr (.inl inside)
    obtain ⟨same, there⟩ := spec part member
    have found := known.figure_recursive (known.mem_journal there (complete _ there))
    obtain ⟨kind, links, size⟩ := alike member
    rw [← same, found]
    refine (Reference.combine_eq _ kind links fun blob => ?_).symm
    rcases size with size | ⟨tree, _⟩
    · exact size
    · rw [blob] at tree
      contradiction
  have totals := (Totals.of_summary first.references journal).perm (accounted.journal_perm all)
  have aligned : ((firstOccurrences second.objects).map fun x =>
        (x, Reference.figure second.objects x.id)).Perm
      ((firstOccurrences first.objects).map fun object =>
        (other object, Reference.figure first.objects object.id)) := by
    refine (permuted.symm.map _).trans ?_
    rw [List.map_map]
    refine List.Perm.of_eq (List.map_congr_left fun object distinct => ?_)
    exact Prod.ext rfl (figures object distinct)
  have others := ((Totals.of_summary second.references later).perm
    (known.journal_perm complete)).perm aligned
  rw [← names] at others ⊢
  have same := totals.unranked_of_resized others
    (by rw [Journal.summary_references, Journal.summary_references]) fun object distinct sort => by
      rcases (alike distinct).2.2 with size | ⟨tree, _⟩
      · exact size
      · rw [accounted.figure_recursive (measured distinct), Reference.kind_combine] at sort
        contradiction
  refine ⟨same, fun sizes => ?_⟩
  have bytes := totals.bytes_of_resized others fun object distinct => by
    obtain ⟨named, there⟩ := spec object distinct
    exact sizes object (mem_of_mem_firstOccurrences distinct) _ (mem_of_mem_firstOccurrences there)
      named.symm
  rw [same, bytes]
  rfl

end Git

end HistorySurvey
