import HistorySurvey.Proofs.Completion

/-! What a finished assembly says about objects that are left parked. Whoever waits for an object
that never arrives stays enlisted in order of arrival, so the least of those objects is named with
the first that depends on it. If all have arrived, those that are parked depend on a cycle. -/
namespace HistorySurvey.Assembly
open ObjectStream Dependency

variable {hints : Hints} {start : Summary} {accepted : List HistoryObject}
  {journal final : Journal} {a b : Assembly} {outcome : Option SurveyError}

/-- Those who wait for an object that is not measured are the distinct objects that depend on it, in
order of arrival and once for each link. -/
def Queued (accepted : List HistoryObject) (a : Assembly) : Prop :=
  ∀ child, a.shelf.isFinalized child = false →
    a.waiting child = (firstOccurrences accepted).flatMap fun object =>
      List.replicate (object.dependencies.count child) object.id

theorem queued_ofReferences (references : List String) : Queued [] (ofReferences references) := by
  intro child _
  rw [ofReferences_eq]
  simp [waiting, empty]

/-- Working off a stack only takes away those who waited for a measured object. -/
theorem Settles.waiting_eq (settles : Settles hints journal a final b outcome) {child : ObjectId}
    (unmeasured : b.shelf.isFinalized child = false) :
    a.shelf.isFinalized child = false ∧ b.waiting child = a.waiting child := by
  have announcing {a b : Assembly} {object : HistoryObject} {rest : List HistoryObject}
      {m : Measure} {outcome : Option SurveyError}
      (announced : ({ a with ready := rest }.finalize hints object m).announce object.id =
        (b, outcome)) (unmeasured : b.shelf.isFinalized child = false) :
      a.shelf.isFinalized child = false ∧ b.waiting child = a.waiting child := by
    obtain ⟨shelf, _, others⟩ := announce_frame ({ a with ready := rest }.finalize hints object m)
      object.id
    rw [announced] at shelf others
    rw [shelf, isFinalized_finalize, Bool.or_eq_false_iff, beq_eq_false_iff_ne] at unmeasured
    exact ⟨unmeasured.1, others child unmeasured.2⟩
  induction settles with
  | idle => exact ⟨unmeasured, rfl⟩
  | halted => exact ⟨unmeasured, rfl⟩
  | failed => exact ⟨unmeasured, rfl⟩
  | lost journal a object rest m b error ready running measured announced =>
    exact announcing announced unmeasured
  | next journal a object rest m b final c outcome ready running measured announced _ ih =>
    obtain ⟨before, same⟩ := ih unmeasured
    obtain ⟨first, also⟩ := announcing announced before
    exact ⟨first, same.trans also⟩

theorem Accepts.queued {object : HistoryObject}
    (accepts : Accepts hints journal a object final b outcome)
    (accounted : Accounted hints start accepted journal a) (idle : a.ready = [])
    (queued : Queued accepted a) : Queued (accepted ++ [object]) b := by
  have arrived (new : a.knows object.id = false) : firstOccurrences (accepted ++ [object]) =
      firstOccurrences accepted ++ [object] := by
    rw [firstOccurrences_concat, if_neg]
    rw [← accounted.knows_iff idle, new]
    exact Bool.false_ne_true
  intro child unmeasured
  cases accepts with
  | known known =>
    rw [firstOccurrences_concat, if_pos ((accounted.knows_iff idle object.id).mp known)]
    exact queued child unmeasured
  | parked new missing =>
    have misses : (unmet a.shelf object).count child = object.dependencies.count child := by
      refine List.count_filter ?_
      have before : a.shelf.isFinalized child = false := unmeasured
      rw [before]
      rfl
    rw [arrived new, List.flatMap_append, List.flatMap_singleton, ← misses]
    rw [← queued child unmeasured]
    exact toList_enlist object.id a.waiters (unmet a.shelf object) child
  | settled _ _ _ new met settles =>
    -- All that the object depends on is measured, so it waits for nobody.
    obtain ⟨before, same⟩ := settles.waiting_eq unmeasured
    have free : child ∉ object.dependencies := by
      intro member
      have measured := (unmet_eq_nil_iff a.shelf object).mp met child member
      rw [show a.shelf.isFinalized child = false from before] at measured
      contradiction
    rw [arrived new, List.flatMap_append, List.flatMap_singleton, List.count_eq_zero.mpr free,
      List.replicate_zero, List.append_nil, same]
    exact queued child before

theorem Runs.queued {objects : List HistoryObject} (runs : Runs hints journal a objects final b)
    (accounted : Accounted hints start accepted journal a) (idle : a.ready = [])
    (queued : Queued accepted a) : Queued (accepted ++ objects) b := by
  induction runs generalizing accepted with
  | nil journal a =>
    rw [List.append_nil]
    exact queued
  | cons journal a object between b rest final c accepts _ ih =>
    obtain ⟨next, quiet⟩ := accepts.accounted accounted idle
    have all := ih next quiet (accepts.queued accounted idle queued)
    rw [List.append_assoc] at all
    exact all

/-! Objects that never arrived. -/

theorem mem_absent_iff (a : Assembly) (child parent : ObjectId) :
    (child, parent) ∈ a.absent ↔
      a.parked.contains child = false ∧ (a.waiting child).head? = some parent := by
  simp only [absent, List.mem_mergeSort, List.mem_filterMap, Prod.exists,
    Std.HashMap.mem_toList_iff_getElem?_eq_some, waiting]
  constructor
  · rintro ⟨other, parents, found, named⟩
    split at named
    · contradiction
    · rename_i free
      obtain ⟨first, here, same⟩ := Option.map_eq_some_iff.mp named
      obtain ⟨rfl, rfl⟩ := Prod.mk.inj same
      refine ⟨Bool.eq_false_iff.mpr free, ?_⟩
      rw [found, Option.getD_some, List.head?_eq_getElem?, Array.getElem?_toList]
      exact here
  · rintro ⟨free, first⟩
    cases found : a.waiters[child]? with
    | none => simp [found] at first
    | some parents =>
      rw [found, Option.getD_some, List.head?_eq_getElem?, Array.getElem?_toList] at first
      exact ⟨child, parents, found, by simp [free, first]⟩

theorem absent_least {a : Assembly} {first : ObjectId × ObjectId} {rest : List (ObjectId × ObjectId)}
    (listed : a.absent = first :: rest) {child parent : ObjectId}
    (member : (child, parent) ∈ a.absent) : first.1 ≤ child := by
  have ascending : a.absent.Pairwise fun left right => decide (left.1 ≤ right.1) = true := by
    refine List.pairwise_mergeSort (fun x y z below above => ?_) (fun x y => ?_) _
    · rw [decide_eq_true_eq] at below above ⊢
      exact BitVec.le_trans below above
    · rw [Bool.or_eq_true, decide_eq_true_eq, decide_eq_true_eq]
      exact BitVec.le_total x.1.bits y.1.bits
  rw [listed] at ascending member
  rcases List.mem_cons.mp member with rfl | later
  · exact BitVec.le_refl _
  · exact of_decide_eq_true ((List.pairwise_cons.mp ascending).1 _ later)

private theorem head?_queue (objects : List HistoryObject) (child : ObjectId) :
    (objects.flatMap fun object =>
      List.replicate (object.dependencies.count child) object.id).head? =
      (objects.find? (child ∈ ·.dependencies)).map HistoryObject.id := by
  induction objects with
  | nil => rfl
  | cons object rest ih =>
    rw [List.flatMap_cons, List.head?_append, ih, List.head?_replicate, List.find?_cons]
    by_cases needed : child ∈ object.dependencies
    · rw [if_neg (List.count_pos_iff.mpr needed).ne', decide_eq_true needed]
      rfl
    · rw [if_pos (List.count_eq_zero.mpr needed), decide_eq_false needed]
      rfl

/-- An object is reported as missing if it never arrived and another depends on it, together with
the first that does. -/
theorem Accounted.mem_absent_iff (accounted : Accounted hints start accepted journal a)
    (idle : a.ready = []) (queued : Queued accepted a) (child parent : ObjectId) :
    (child, parent) ∈ a.absent ↔ child ∉ accepted.map HistoryObject.id ∧
      ((firstOccurrences accepted).find? (child ∈ ·.dependencies)).map HistoryObject.id =
        some parent := by
  rw [Assembly.mem_absent_iff, ← accounted.knows_iff idle, Bool.not_eq_true, knows,
    Bool.or_eq_false_iff]
  cases measured : a.shelf.isFinalized child with
  | false => rw [queued child measured, head?_queue]; simp
  | true =>
    have nobody : a.waiting child = [] := List.eq_nil_iff_forall_not_mem.mpr fun id member => by
      have count := accounted.balanced.listed child id
      rw [if_pos measured, List.count_eq_zero] at count
      exact count member
    simp [nobody]

/-! Parked objects. -/

theorem Accounted.size_parked (accounted : Accounted hints start accepted journal a)
    (idle : a.ready = []) :
    a.parked.size =
      {id | id ∈ accepted.map HistoryObject.id ∧ ¬ Complete accepted id}.ncard := by
  rw [← Std.HashMap.length_keys, Shelf.ncard_eq_length Std.HashMap.nodup_keys fun id => ?_]
  rw [Std.HashMap.mem_keys, ← Std.HashMap.contains_iff_mem]
  exact accounted.parked_iff_incomplete idle id

theorem isEmpty_parked_iff (a : Assembly) :
    a.parked.isEmpty = true ↔ ∀ id, a.parked.contains id = false := by
  rw [Std.HashMap.isEmpty_iff_forall_contains]

theorem Accounted.parked_of_absent (accounted : Accounted hints start accepted journal a)
    (idle : a.ready = []) {object : HistoryObject} (distinct : object ∈ firstOccurrences accepted)
    {child : ObjectId} (needed : child ∈ object.dependencies)
    (absent : child ∉ accepted.map HistoryObject.id) : a.parked.contains object.id = true := by
  refine (accounted.parked_iff_incomplete idle object.id).mpr ⟨?_, fun complete => ?_⟩
  · exact (ids_firstOccurrences accepted object.id).mp (List.mem_map_of_mem distinct)
  · exact absent (complete child (.single
      ((depends_iff accepted _ _).mpr ⟨object, distinct, rfl, needed⟩))).1

theorem Accounted.parked_of_cycle (accounted : Accounted hints start accepted journal a)
    (idle : a.ready = []) {id : ObjectId} (cycle : OnCycle accepted id) :
    a.parked.contains id = true := by
  refine (accounted.parked_iff_incomplete idle id).mpr ⟨?_, fun complete => ?_⟩
  · obtain ⟨_, depends, _⟩ := Relation.TransGen.head'_iff.mp cycle
    obtain ⟨object, distinct, rfl, _⟩ := (depends_iff accepted id _).mp depends
    exact (ids_firstOccurrences accepted object.id).mp (List.mem_map_of_mem distinct)
  · exact (complete id .refl).2 cycle

/-- The objects that somebody depends on although they never arrived. -/
def NeverArrived (objects : List HistoryObject) : Set ObjectId :=
  {id | id ∉ objects.map HistoryObject.id ∧
    ∃ object ∈ firstOccurrences objects, id ∈ object.dependencies}

theorem closed_iff (objects : List HistoryObject) :
    Closed objects ↔ NeverArrived objects = ∅ := by
  rw [Set.eq_empty_iff_forall_notMem]
  constructor
  · rintro closed id ⟨absent, object, distinct, needed⟩
    exact absent (closed object distinct id needed)
  · intro nothing object distinct child needed
    by_contra absent
    exact nothing child ⟨absent, object, distinct, needed⟩

theorem Accounted.finish_of_absent (accounted : Accounted hints start accepted journal a)
    (idle : a.ready = []) (queued : Queued accepted a) (absent : (NeverArrived accepted).Nonempty) :
    ∃ id parent, id ∈ NeverArrived accepted ∧ (∀ other ∈ NeverArrived accepted, id ≤ other) ∧
      (firstOccurrences accepted).find? (id ∈ ·.dependencies) = some parent ∧
      a.finish = .error (.missingObject id parent.id) := by
  have reported {id : ObjectId} (missing : id ∈ NeverArrived accepted) :
      ∃ parent, (id, parent) ∈ a.absent := by
    obtain ⟨absent, object, distinct, needed⟩ := missing
    have some : ((firstOccurrences accepted).find? (id ∈ ·.dependencies)).isSome = true :=
      List.find?_isSome.mpr ⟨object, distinct, by simpa using needed⟩
    obtain ⟨parent, found⟩ := Option.isSome_iff_exists.mp some
    exact ⟨parent.id, (accounted.mem_absent_iff idle queued id parent.id).mpr
      ⟨absent, by rw [found]; rfl⟩⟩
  obtain ⟨some, missing⟩ := absent
  obtain ⟨waits, member⟩ := reported missing
  obtain ⟨_, object, distinct, needed⟩ := missing
  have occupied : a.parked.isEmpty = false := by
    rw [← Bool.not_eq_true, isEmpty_parked_iff]
    intro nobody
    have parked := accounted.parked_of_absent idle distinct needed ‹_›
    rw [nobody] at parked
    contradiction
  cases listed : a.absent with
  | nil =>
    rw [listed] at member
    contradiction
  | cons first rest =>
    obtain ⟨id, parent⟩ := first
    have inside : (id, parent) ∈ a.absent := by rw [listed]; exact List.mem_cons_self
    obtain ⟨never, named⟩ := (accounted.mem_absent_iff idle queued id parent).mp inside
    obtain ⟨earliest, found, rfl⟩ := Option.map_eq_some_iff.mp named
    have depends : id ∈ earliest.dependencies := by simpa using List.find?_some found
    refine ⟨id, earliest, ⟨never, earliest, List.mem_of_find?_eq_some found, depends⟩, ?_, found, ?_⟩
    · intro other lacking
      obtain ⟨_, there⟩ := reported lacking
      exact absent_least listed there
    · simp [finish, occupied, listed]

theorem Accounted.finish_of_closed (accounted : Accounted hints start accepted journal a)
    (idle : a.ready = []) (queued : Queued accepted a) (closed : Closed accepted) :
    a.finish = if a.parked.isEmpty then .ok a.summary
      else .error (.breach (.stillParked a.parked.size)) := by
  have nothing : a.absent = [] := by
    refine List.eq_nil_iff_forall_not_mem.mpr fun ⟨id, parent⟩ member => ?_
    obtain ⟨absent, found⟩ := (accounted.mem_absent_iff idle queued id parent).mp member
    obtain ⟨object, found, _⟩ := Option.map_eq_some_iff.mp found
    have needed : id ∈ object.dependencies := by simpa using List.find?_some found
    exact absent (closed object (List.mem_of_find?_eq_some found) id needed)
  rw [finish, nothing]

/-- What is said of a history all of whose objects were accepted. If something never arrived that
another object depends on, the least such id is named, with the first object that depends on it.
Otherwise, if there is a cycle, the number of objects that are not complete is told, and without a
cycle the summary is given. -/
theorem finish_diagnosis (references : List String) (objects : List HistoryObject)
    (fine : (Survey.acceptAll (fun _ => none) objects (ofReferences references)).2 = none) :
    let a := (Survey.acceptAll (fun _ => none) objects (ofReferences references)).1
    let incomplete := {id | id ∈ objects.map HistoryObject.id ∧ ¬ Complete objects id}
    ((NeverArrived objects).Nonempty →
      ∃ id parent, id ∈ NeverArrived objects ∧ (∀ other ∈ NeverArrived objects, id ≤ other) ∧
        (firstOccurrences objects).find? (id ∈ ·.dependencies) = some parent ∧
        a.finish = .error (.missingObject id parent.id)) ∧
    (NeverArrived objects = ∅ → (∃ id, OnCycle objects id) →
      {id | a.parked.contains id = true} = incomplete ∧
      a.finish = .error (.breach (.stillParked incomplete.ncard))) ∧
    (NeverArrived objects = ∅ → Acyclic objects → a.finish = .ok a.summary) := by
  intro a incomplete
  have accepted : Survey.acceptAll (fun _ => none) objects (ofReferences references) = (a, none) :=
    Prod.ext rfl fine
  obtain ⟨journal, runs, accounted, idle⟩ := accounted_of_acceptAll references accepted
  have queued : Queued objects a := runs.queued (accounted_start _ references)
    (ready_ofReferences references) (queued_ofReferences references)
  refine ⟨accounted.finish_of_absent idle queued, fun closed ⟨id, cycle⟩ => ⟨?_, ?_⟩,
    fun closed acyclic => ?_⟩
  · exact Set.ext (accounted.parked_iff_incomplete idle)
  · have occupied : a.parked.isEmpty = false := by
      rw [← Bool.not_eq_true, isEmpty_parked_iff]
      intro nobody
      have parked := accounted.parked_of_cycle idle cycle
      rw [nobody] at parked
      contradiction
    rw [accounted.finish_of_closed idle queued ((closed_iff objects).mpr closed), occupied,
      accounted.size_parked idle]
    rfl
  · have closed := (closed_iff objects).mpr closed
    have nobody : a.parked.isEmpty = true := (isEmpty_parked_iff a).mpr fun id => by
      rw [← Bool.not_eq_true, accounted.parked_iff_incomplete idle]
      exact fun both => both.2 (closed.complete acyclic both.1)
    rw [accounted.finish_of_closed idle queued closed, nobody]
    rfl

/-- A tag of itself. -/
def circularHistory : List HistoryObject := [.tag (.ofNat 6) 150 (.ofNat 6)]

/-- The same, and tags of two objects that never arrive. -/
def brokenHistory : List HistoryObject :=
  [.tag (.ofNat 5) 150 (.ofNat 9),
    .tag (.ofNat 4) 150 (.ofNat 7),
    .tag (.ofNat 3) 150 (.ofNat 7)] ++ circularHistory

theorem finish_diagnosis_broken :
    (Survey.acceptAll (fun _ => none) brokenHistory (ofReferences [])).2 = none ∧
    (Survey.acceptAll (fun _ => none) brokenHistory (ofReferences [])).1.finish =
      .error (.missingObject (.ofNat 7) (.ofNat 4)) ∧
    (Survey.acceptAll (fun _ => none) circularHistory (ofReferences [])).2 = none ∧
    (Survey.acceptAll (fun _ => none) circularHistory (ofReferences [])).1.finish =
      .error (.breach (.stillParked 1)) := by
  have fine : (Survey.acceptAll (fun _ => none) brokenHistory (ofReferences [])).2 = none :=
    acceptAll_fine [] (truthful_none brokenHistory) (by decide) (.of_forall (by decide))
  have well : (Survey.acceptAll (fun _ => none) circularHistory (ofReferences [])).2 = none :=
    acceptAll_fine [] (truthful_none circularHistory) (by decide) (.of_forall (by decide))
  refine ⟨fine, ?_, well, ?_⟩
  · have distinct : firstOccurrences brokenHistory = brokenHistory :=
      firstOccurrences_of_nodup (by decide)
    have seven : ObjectId.ofNat 7 ∈ NeverArrived brokenHistory := by
      refine ⟨by decide, .tag (.ofNat 4) 150 (.ofNat 7), ?_, by decide⟩
      rw [distinct]
      decide
    obtain ⟨id, parent, never, least, found, told⟩ :=
      (finish_diagnosis [] brokenHistory fine).1 ⟨_, seven⟩
    have same : id = .ofNat 7 := by
      obtain ⟨absent, object, member, needed⟩ := never
      rw [distinct] at member
      have only : ∀ object ∈ brokenHistory, ∀ child ∈ object.dependencies,
          child ∉ brokenHistory.map HistoryObject.id → child ≤ .ofNat 7 → child = .ofNat 7 := by
        decide
      exact only object member id needed absent (least _ seven)
    have first : brokenHistory.find? (ObjectId.ofNat 7 ∈ ·.dependencies) =
        some (.tag (.ofNat 4) 150 (.ofNat 7)) := by decide
    rw [distinct, same, first] at found
    rw [told, same, ← Option.some.inj found]
    rfl
  · have circle : OnCycle circularHistory (.ofNat 6) :=
      .single ⟨.tag (.ofNat 6) 150 (.ofNat 6), by decide, by decide⟩
    have closed : Closed circularHistory := .of_listed (by decide)
    have told := ((finish_diagnosis [] circularHistory well).2.1
      ((closed_iff circularHistory).mp closed) ⟨_, circle⟩).2
    have one : {id | id ∈ circularHistory.map HistoryObject.id ∧
        ¬ Complete circularHistory id} = {.ofNat 6} := by
      ext id
      simp only [Set.mem_ofPred_eq, Set.mem_singleton_iff]
      constructor
      · rintro ⟨member, _⟩
        exact List.mem_singleton.mp member
      · rintro rfl
        exact ⟨by decide, fun complete => (complete _ .refl).2 circle⟩
    rw [told, one, Set.ncard_singleton]

end HistorySurvey.Assembly
