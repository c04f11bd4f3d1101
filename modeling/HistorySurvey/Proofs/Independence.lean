import HistorySurvey.Proofs.Recursion

/-! Histories that have nothing to do with each other. When an assembly is done with one of them, the
objects of the other go through the same steps that they would go through on their own, for nothing
that was left behind is theirs. -/
namespace HistorySurvey

namespace Shelf

/-- The same places on two shelves but for those of some objects. -/
def SameBut (others : List ObjectId) (s t : Shelf) : Prop :=
  ∀ id, id ∉ others → t.places[id]? = s.places[id]?

variable {others : List ObjectId} {s t : Shelf} {id : ObjectId}

theorem SameBut.isFinalized_eq (same : s.SameBut others t) (own : id ∉ others) :
    t.isFinalized id = s.isFinalized id := by
  rw [Bool.eq_iff_iff, isFinalized_iff, isFinalized_iff, same id own]

theorem SameBut.get?_eq (same : s.SameBut others t) (own : id ∉ others) : t.get? id = s.get? id := by
  rw [get?, get?, same id own]

theorem SameBut.put (same : s.SameBut others t) (own : id ∉ others) (m : Measure)
    (uses : Option Nat) : (s.put id m uses).SameBut others (t.put id m uses) := by
  have known := same.isFinalized_eq own
  cases finalized : s.isFinalized id with
  | true =>
    rw [put_of_known finalized, put_of_known (known.trans finalized)]
    exact same
  | false =>
    intro other apart
    rw [places_put finalized, places_put (known.trans finalized), same other apart]

theorem SameBut.consume (same : s.SameBut others t) (id : ObjectId) :
    (s.consume id).SameBut others (t.consume id) := by
  intro other apart
  rw [places_consume, places_consume, same other apart]

theorem SameBut.consumeAll (same : s.SameBut others t) (ids : List ObjectId) :
    (ids.foldl Shelf.consume s).SameBut others (ids.foldl Shelf.consume t) := by
  induction ids generalizing s t with
  | nil => exact same
  | cons id rest ih => exact ih (same.consume id)

end Shelf

namespace Assembly
open ObjectStream

/-- Two assemblies before the same steps. One of them is done with some other objects. -/
structure Parallel (others : List ObjectId) (a b : Assembly) : Prop where
  shelf : a.shelf.SameBut others b.shelf
  parked : ∀ id : ObjectId, b.parked[id]? = a.parked[id]?
  waiters : ∀ id : ObjectId, b.waiters[id]? = a.waiters[id]?
  ready : b.ready = a.ready
  cancelled : b.cancelled = a.cancelled

/-- The same step of two assemblies. -/
def Abreast (others : List ObjectId) (x y : Assembly × Option SurveyError) : Prop :=
  Parallel others x.1 y.1 ∧ y.2 = x.2

variable {others : List ObjectId} {a b c : Assembly} {hints beside : Hints} {object : HistoryObject}
  {outcome : Option SurveyError}

theorem Abreast.exists_eq {y : Assembly × Option SurveyError}
    (abreast : Abreast others (c, outcome) y) : ∃ d, y = (d, outcome) ∧ Parallel others c d :=
  ⟨y.1, Prod.ext rfl abreast.2, abreast.1⟩

theorem Parallel.meet (parallel : Parallel others a b) (child parent : ObjectId) :
    Abreast others (a.meet child parent) (b.meet child parent) := by
  unfold Assembly.meet
  rw [parallel.parked parent]
  cases a.parked[parent]? with
  | none => exact ⟨parallel, rfl⟩
  | some entry =>
    dsimp only
    split
    · refine ⟨{ parallel with parked := fun id => ?_, ready := ?_ }, rfl⟩
      · simp only [Std.HashMap.getElem?_erase, parallel.parked]
      · rw [parallel.ready]
    · refine ⟨{ parallel with parked := fun id => ?_ }, rfl⟩
      simp only [Std.HashMap.getElem?_insert, parallel.parked]

theorem Parallel.meetAll (parallel : Parallel others a b) (child : ObjectId)
    (parents : List ObjectId) :
    Abreast others (Assembly.meetAll child parents a) (Assembly.meetAll child parents b) := by
  induction parents generalizing a b with
  | nil => exact ⟨parallel, rfl⟩
  | cons parent rest ih =>
    have abreast := parallel.meet child parent
    rw [Assembly.meetAll, Assembly.meetAll]
    cases met : a.meet child parent with
    | mk c outcome =>
      rw [met] at abreast
      obtain ⟨d, same, further⟩ := abreast.exists_eq
      rw [same]
      cases outcome with
      | none => exact ih further
      | some error => exact ⟨further, rfl⟩

theorem Parallel.announce (parallel : Parallel others a b) (child : ObjectId) :
    Abreast others (a.announce child) (b.announce child) := by
  unfold Assembly.announce
  rw [parallel.waiters]
  cases a.waiters[child]? with
  | none => exact ⟨parallel, rfl⟩
  | some parents =>
    have without : Parallel others { a with waiters := a.waiters.erase child }
        { b with waiters := b.waiters.erase child } :=
      { parallel with
        waiters := fun id => by simp only [Std.HashMap.getElem?_erase, parallel.waiters] }
    exact without.meetAll child parents.toList

theorem Parallel.finalize (parallel : Parallel others a b) (own : object.id ∉ others)
    (hinted : beside object.id = hints object.id) (m : Measure) :
    Parallel others (a.finalize hints object m) (b.finalize beside object m) where
  shelf := by
    have put := parallel.shelf.put own m (hints object.id)
    rw [Assembly.finalize, Assembly.finalize, hinted]
    exact put.consumeAll object.dependencies
  parked := parallel.parked
  waiters := parallel.waiters
  ready := parallel.ready
  cancelled := parallel.cancelled

theorem Parallel.pop (parallel : Parallel others a b) (rest : List HistoryObject) :
    Parallel others { a with ready := rest } { b with ready := rest } :=
  { parallel with ready := rfl }

/-- What an object is made of is measured among its own. -/
theorem Parallel.measured (parallel : Parallel others a b)
    (apart : ∀ id, a.shelf.isFinalized id = true → id ∉ others) {m : Measure}
    (measured : measure a.shelf object = .ok m) : measure b.shelf object = .ok m := by
  obtain ⟨present, fits, combined⟩ := (measure_ok_iff a.shelf object m).mp measured
  have held (child : ObjectId) (needed : child ∈ object.consulted) :
      b.shelf.get? child = a.shelf.get? child :=
    parallel.shelf.get?_eq (apart child (Shelf.isFinalized_of_get? (present child needed)))
  refine (measure_ok_iff b.shelf object m).mpr ⟨fun child needed => ?_, ?_, ?_⟩
  · rw [held child needed]
    exact present child needed
  · refine fits.mono fun child needed kind known => ?_
    rw [Shelf.kindOf, held child needed]
    exact known
  · rw [combined]
    refine Reference.combine_congr fun child needed => ?_
    rw [Shelf.figure, Shelf.figure, held child needed]

private theorem getElem?_enlistAll (parent : ObjectId) (children : List ObjectId)
    {w x : Std.HashMap ObjectId (Array ObjectId)} (same : ∀ id : ObjectId, x[id]? = w[id]?)
    (id : ObjectId) :
    (children.foldl (enlist parent) x)[id]? = (children.foldl (enlist parent) w)[id]? := by
  induction children generalizing w x with
  | nil => exact same id
  | cons child rest ih =>
    refine ih fun other => ?_
    rw [enlist, enlist, Std.HashMap.getElem?_alter, Std.HashMap.getElem?_alter, same, same]

theorem Parallel.park (parallel : Parallel others a b)
    (missing : unmet b.shelf object = unmet a.shelf object) :
    Parallel others (a.park object) (b.park object) where
  shelf := parallel.shelf
  parked id := by
    simp only [Assembly.park, missing, Std.HashMap.getElem?_insert, parallel.parked]
  waiters id := by
    simp only [Assembly.park, missing]
    exact getElem?_enlistAll object.id _ parallel.waiters id
  ready := parallel.ready
  cancelled := parallel.cancelled

theorem Parallel.knows_eq (parallel : Parallel others a b) (own : object.id ∉ others) :
    b.knows object.id = a.knows object.id := by
  rw [knows, knows, parallel.shelf.isFinalized_eq own, Std.HashMap.contains_eq_isSome_getElem?,
    Std.HashMap.contains_eq_isSome_getElem?, parallel.parked]

theorem Parallel.unmet_eq (parallel : Parallel others a b)
    (needs : ∀ child ∈ object.dependencies, child ∉ others) :
    unmet b.shelf object = unmet a.shelf object :=
  List.filter_congr fun child needed => by rw [parallel.shelf.isFinalized_eq (needs child needed)]

/-! Whole runs. -/

variable {start : Summary} {accepted objects : List HistoryObject} {journal final : Journal}

theorem Settles.parallel (settles : Settles hints journal a final c outcome) (fine : outcome = none)
    (accounted : Accounted hints start accepted journal a) (parallel : Parallel others a b)
    (own : ∀ id ∈ accepted.map HistoryObject.id, id ∉ others ∧ beside id = hints id)
    (earlier : Journal) :
    ∃ d, Settles beside (journal ++ earlier) b (final ++ earlier) d none ∧ Parallel others c d := by
  induction settles generalizing b with
  | idle journal a nothing =>
    exact ⟨b, .idle _ b (parallel.ready.trans nothing), parallel⟩
  | halted | failed | lost => contradiction
  | next journal a object rest m c final d outcome ready running measured announced _ ih =>
    have member : object.id ∈ accepted.map HistoryObject.id :=
      List.mem_map_of_mem (mem_of_mem_firstOccurrences
        ((accounted.members object).mpr (.inr (.inl (mem_ready ready)))))
    have apart (id : ObjectId) (finalized : a.shelf.isFinalized id = true) : id ∉ others :=
      (own id (accounted.mem_accepted ((accounted.shelved.isFinalized_iff id).mp finalized))).1
    obtain ⟨outside, hinted⟩ := own object.id member
    have told := ((parallel.pop rest).finalize outside hinted m).announce object.id
    rw [announced] at told
    obtain ⟨e, same, further⟩ := told.exists_eq
    obtain ⟨last, onward, alongside⟩ :=
      ih fine (accounted.measured ready measured announced).2 further
    exact ⟨last, .next _ b object rest m e _ last none (parallel.ready.trans ready)
      (parallel.cancelled.trans running) (parallel.measured apart measured) same onward, alongside⟩

theorem Accepts.parallel (accepts : Accepts hints journal a object final c none)
    (accounted : Accounted hints start accepted journal a) (idle : a.ready = [])
    (parallel : Parallel others a b)
    (own : ∀ id ∈ (accepted ++ [object]).map HistoryObject.id, id ∉ others ∧ beside id = hints id)
    (needs : a.knows object.id = false → ∀ child ∈ object.dependencies, child ∉ others)
    (earlier : Journal) :
    ∃ d, Accepts beside (journal ++ earlier) b object (final ++ earlier) d none ∧
      Parallel others c d := by
  have knows := parallel.knows_eq (own object.id (by simp)).1
  cases accepts with
  | known known => exact ⟨_, .known _ b object (knows.trans known), { parallel with }⟩
  | parked new missing =>
    have same := parallel.unmet_eq (needs new)
    exact ⟨b.park object, .parked _ b object (knows.trans new) (same ▸ missing), parallel.park same⟩
  | settled _ _ _ new met settles =>
    have same := parallel.unmet_eq (needs new)
    have pushed : Parallel others { a with ready := object :: a.ready }
        { b with ready := object :: b.ready } := { parallel with ready := by rw [parallel.ready] }
    obtain ⟨d, further, alongside⟩ :=
      settles.parallel rfl (accounted.push idle new met) pushed own earlier
    exact ⟨d, .settled _ b object _ d none (knows.trans new) (same.trans met) further, alongside⟩

theorem Runs.parallel (runs : Runs hints journal a objects final c)
    (accounted : Accounted hints start accepted journal a) (idle : a.ready = [])
    (parallel : Parallel others a b)
    (own : ∀ id ∈ (accepted ++ objects).map HistoryObject.id, id ∉ others ∧ beside id = hints id)
    (needs : ∀ object ∈ firstOccurrences (accepted ++ objects), ∀ child ∈ object.dependencies,
      child ∉ others) (earlier : Journal) :
    ∃ d, Runs beside (journal ++ earlier) b objects (final ++ earlier) d ∧ Parallel others c d := by
  induction runs generalizing accepted b with
  | nil journal a => exact ⟨b, .nil _ b, parallel⟩
  | cons journal a object between next rest final c accepts _ ih =>
    have parts : accepted ++ object :: rest = (accepted ++ [object]) ++ rest := by simp
    rw [parts] at own needs
    obtain ⟨further, quiet⟩ := accepts.accounted accounted idle
    have first : a.knows object.id = false → object ∈ firstOccurrences (accepted ++ [object]) := by
      intro new
      have unseen : object.id ∉ accepted.map HistoryObject.id := by
        rw [← accounted.knows_iff idle, new]
        exact Bool.false_ne_true
      rw [firstOccurrences_concat, if_neg unseen]
      exact List.mem_append_right _ List.mem_cons_self
    have kept := firstOccurrences_isPrefix (List.prefix_append (accepted ++ [object]) rest)
    obtain ⟨d, also, alongside⟩ := accepts.parallel accounted idle parallel
      (fun id member => own id (by rw [List.map_append]; exact List.mem_append_left _ member))
      (fun new => needs object (kept.subset (first new))) earlier
    obtain ⟨e, onward, last⟩ := ih further quiet alongside own needs
    exact ⟨e, .cons _ b object _ d rest _ e also onward, last⟩

theorem Runs.append {objects rest : List HistoryObject} {between : Journal}
    (first : Runs hints journal a objects between b) (second : Runs hints between b rest final c) :
    Runs hints journal a (objects ++ rest) final c := by
  induction first with
  | nil => exact second
  | cons journal a object between next others _ _ accepts _ ih =>
    exact .cons journal a object between next _ final c accepts (ih second)

end Assembly

/-! Two histories. -/

/-- A function that keeps the first occurrence of each id treats lists with no id in common apart. -/
theorem firsts_append {α : Type} (key : α → ObjectId) (firsts : List α → List α)
    (nil : firsts [] = [])
    (concat : ∀ xs x, firsts (xs ++ [x]) =
      if key x ∈ xs.map key then firsts xs else firsts xs ++ [x])
    {xs ys : List α} (disjoint : (xs.map key).Disjoint (ys.map key)) :
    firsts (xs ++ ys) = firsts xs ++ firsts ys := by
  induction ys using List.reverseRecOn with
  | nil => rw [List.append_nil, nil, List.append_nil]
  | append_singleton ys y ih =>
    rw [List.map_append, List.disjoint_append_right] at disjoint
    have own : key y ∉ xs.map key := fun member => disjoint.2 member List.mem_cons_self
    have seen : key y ∈ (xs ++ ys).map key ↔ key y ∈ ys.map key := by
      rw [List.map_append, List.mem_append, or_iff_right own]
    rw [← List.append_assoc, concat, concat, ih disjoint.1]
    by_cases again : key y ∈ ys.map key
    · rw [if_pos (seen.mpr again), if_pos again]
    · rw [if_neg (mt seen.mp again), if_neg again, List.append_assoc]

namespace ObjectStream

variable {first second : List HistoryObject}

theorem firstOccurrences_append
    (disjoint : (first.map HistoryObject.id).Disjoint (second.map HistoryObject.id)) :
    firstOccurrences (first ++ second) = firstOccurrences first ++ firstOccurrences second :=
  firsts_append HistoryObject.id firstOccurrences firstOccurrences_nil firstOccurrences_concat
    disjoint

theorem dependencyLinks_append
    (disjoint : (first.map HistoryObject.id).Disjoint (second.map HistoryObject.id)) :
    dependencyLinks (firstOccurrences (first ++ second)) =
      dependencyLinks (firstOccurrences first) ++ dependencyLinks (firstOccurrences second) := by
  rw [firstOccurrences_append disjoint, dependencyLinks, List.flatMap_append]
  rfl

theorem FewLinks.parts (few : FewLinks (first ++ second))
    (disjoint : (first.map HistoryObject.id).Disjoint (second.map HistoryObject.id)) :
    FewLinks first ∧ FewLinks second := by
  rw [FewLinks, dependencyLinks_append disjoint, List.length_append] at few
  exact ⟨by rw [FewLinks]; omega, by rw [FewLinks]; omega⟩

end ObjectStream

namespace Assembly
open ObjectStream Dependency

variable {first second : List HistoryObject}

theorem count_of_closed {objects : List HistoryObject} (closed : Closed objects) {id : ObjectId}
    (foreign : id ∉ objects.map HistoryObject.id) :
    (dependencyLinks (firstOccurrences objects)).count id = 0 := by
  refine List.count_eq_zero.mpr fun member => foreign ?_
  obtain ⟨object, distinct, needed⟩ := List.mem_flatMap.mp member
  exact closed object distinct id needed

/-- The objects of each history get the hints that they get alone. -/
theorem hints_append (few : FewLinks (first ++ second))
    (disjoint : (first.map HistoryObject.id).Disjoint (second.map HistoryObject.id))
    (closed : Closed first) (also : Closed second) (id : ObjectId) :
    (id ∈ first.map HistoryObject.id →
      countedLinks (linkCounts (first ++ second)) id = countedLinks (linkCounts first) id) ∧
    (id ∈ second.map HistoryObject.id →
      countedLinks (linkCounts (first ++ second)) id = countedLinks (linkCounts second) id) := by
  obtain ⟨left, right⟩ := few.parts disjoint
  rw [countedLinks_linkCounts few, countedLinks_linkCounts left, countedLinks_linkCounts right,
    dependencyLinks_append disjoint, List.count_append]
  refine ⟨fun member => ?_, fun member => ?_⟩
  · rw [count_of_closed also fun foreign => disjoint member foreign, Nat.add_zero]
  · rw [count_of_closed closed fun foreign => disjoint foreign member, Nat.zero_add]

theorem parallel_ofReferences (references names : List String) :
    Parallel [] (ofReferences references) (ofReferences names) := by
  rw [ofReferences_eq, ofReferences_eq]
  exact ⟨fun _ _ => rfl, fun _ => rfl, fun _ => rfl, rfl, rfl⟩

/-- An assembly that has measured all its objects is as good as new for any others. -/
theorem Accounted.parallel {hints : Hints} {start : Summary} {accepted : List HistoryObject}
    {journal : Journal} {a b : Assembly} (accounted : Accounted hints start accepted journal a)
    (idle : a.ready = []) (done : a.parked.isEmpty = true) (alongside : Parallel [] a b)
    (references : List String) :
    Parallel (accepted.map HistoryObject.id) (ofReferences references) b := by
  have nobody (id : ObjectId) : a.parked[id]? = none :=
    Std.HashMap.getElem?_eq_none (Std.HashMap.isEmpty_iff_forall_not_mem.mp done id)
  have free (child : ObjectId) : a.waiters[child]? = none := by
    cases found : a.waiters[child]? with
    | none => rfl
    | some parents =>
      have waited : a.waiters.contains child = true := by
        rw [Std.HashMap.contains_eq_isSome_getElem?, found]
        rfl
      obtain ⟨parent, waits⟩ :=
        List.exists_mem_of_ne_nil _ (accounted.balanced.inhabited child waited)
      have counted := List.count_pos_iff.mpr waits
      rw [accounted.balanced.listed, parkedLinks, nobody] at counted
      split at counted <;> simp at counted
  rw [ofReferences_eq]
  constructor
  · intro id own
    have new : id ∉ journal.ids := fun measured => own (accounted.mem_accepted measured)
    have absent := Std.HashMap.getElem?_eq_none_of_contains_eq_false
      ((accounted.shelved.isFinalized_eq_false_iff id).mpr new)
    rw [alongside.shelf id List.not_mem_nil, absent]
    exact (Shelf.places_empty id).symm
  · intro id
    rw [alongside.parked, nobody]
    exact Std.HashMap.getElem?_empty.symm
  · intro id
    rw [alongside.waiters, free]
    exact Std.HashMap.getElem?_empty.symm
  · exact alongside.ready.trans idle
  · exact alongside.cancelled.trans accounted.running

theorem Parallel.isEmpty_parked {others : List ObjectId} {a b : Assembly}
    (parallel : Parallel others a b) : b.parked.isEmpty = a.parked.isEmpty := by
  have same : b.parked.Equiv a.parked := .of_forall_getElem?_eq parallel.parked
  exact same.isEmpty_eq

/-- What a survey of some objects went through to its summary. -/
theorem exists_of_run {objects : List HistoryObject} {references : List String} {s : Summary}
    (fine : (Survey.run (ofList objects references none) none).result = .ok s) :
    ∃ (journal : Journal) (a : Assembly),
      Runs (countedLinks (linkCounts objects)) [] (ofReferences references) objects journal a ∧
      Accounted (countedLinks (linkCounts objects)) (Summary.ofReferences references) objects
        journal a ∧
      a.ready = [] ∧ a.parked.isEmpty = true ∧ Closed objects ∧
      s = journal.summary (Summary.ofReferences references) := by
  obtain ⟨_, a, accepted, finished⟩ := finish_of_stream fine
  obtain ⟨journal, runs, accounted, idle⟩ := accounted_of_acceptAll references accepted
  obtain ⟨all, rfl⟩ := (accounted.finish_ok_iff idle s).mp finished
  exact ⟨journal, a, runs, accounted, idle, ((finish_eq_ok_iff a _).mp finished).1,
    accounted.closed all, accounted.summary⟩

/-- A survey of one history and another one that have no objects in common measures each as it is
measured alone. -/
theorem run_append {references others : List String} {s t : Summary}
    (few : FewLinks (first ++ second))
    (disjoint : (first.map HistoryObject.id).Disjoint (second.map HistoryObject.id))
    (fine : (Survey.run (ofList first references none) none).result = .ok s)
    (well : (Survey.run (ofList second others none) none).result = .ok t) :
    ∃ journal later : Journal, journal.Justified ∧ (later ++ journal).Justified ∧
      s = journal.summary (Summary.ofReferences references) ∧
      t = later.summary (Summary.ofReferences others) ∧
      (∀ object ∈ journal.objects, object ∈ first) ∧ (∀ object ∈ later.objects, object ∈ second) ∧
      later.Justified ∧
      (Survey.run (ofList (first ++ second) (references ++ others) none) none).result =
        .ok ((later ++ journal).summary (Summary.ofReferences (references ++ others))) := by
  obtain ⟨journal, a, runs, accounted, idle, done, closed, rfl⟩ := exists_of_run fine
  obtain ⟨later, b, further, known, quiet, ended, also, rfl⟩ := exists_of_run well
  have hinted := hints_append few disjoint closed also
  obtain ⟨c, alone, alongside⟩ := runs.parallel (accounted_start _ references)
    (ready_ofReferences references) (parallel_ofReferences references (references ++ others))
    (fun id member => ⟨List.not_mem_nil, (hinted id).1 member⟩)
    (fun _ _ _ _ => List.not_mem_nil) []
  have renewed := accounted.parallel idle done alongside others
  obtain ⟨d, onward, last⟩ := further.parallel (accounted_start _ others)
    (ready_ofReferences others) renewed
    (fun id member => ⟨fun foreign => disjoint foreign member, (hinted id).2 member⟩)
    (fun object distinct child needed foreign =>
      disjoint foreign (also object distinct child needed)) journal
  rw [List.append_nil journal] at alone
  have whole := alone.append onward
  obtain ⟨joint, _⟩ := whole.accounted (accounted_start _ (references ++ others))
    (ready_ofReferences (references ++ others))
  have own {start : Summary} {accepted : List HistoryObject} {hints : Hints} {journal : Journal}
      {a : Assembly} (accounted : Accounted hints start accepted journal a) :
      ∀ object ∈ journal.objects, object ∈ accepted := fun object measured =>
    mem_of_mem_firstOccurrences ((accounted.members object).mpr (.inl measured))
  refine ⟨journal, later, accounted.justified, joint.justified, rfl, rfl, own accounted, own known,
    known.justified, ?_⟩
  rw [run_of_acceptAll (ofList (first ++ second) (references ++ others) none) rfl
    whole.acceptAll_eq, finish_eq_ok_iff]
  exact ⟨last.isEmpty_parked.trans ended, joint.summary⟩

end Assembly

end HistorySurvey
