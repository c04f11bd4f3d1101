import HistorySurvey.Proofs.Hinting

/-! Releasing measures by counted links. An assembly that knows the number of links goes through the
same steps as one that does not and keeps all its measures: only their shelves differ. It keeps
exactly what is still needed. -/
namespace HistorySurvey.Assembly
open ObjectStream

/-- The same assembly over another shelf. -/
def withShelf (a : Assembly) (s : Shelf) : Assembly := { a with shelf := s }

private theorem meet_withShelf (child : ObjectId) (a : Assembly) (s : Shelf) (parent : ObjectId) :
    (a.withShelf s).meet child parent =
      ((a.meet child parent).1.withShelf s, (a.meet child parent).2) := by
  simp only [meet, withShelf]
  split
  · rfl
  · split <;> rfl

private theorem meetAll_withShelf (child : ObjectId) (parents : List ObjectId) (a : Assembly)
    (s : Shelf) : meetAll child parents (a.withShelf s) =
      ((meetAll child parents a).1.withShelf s, (meetAll child parents a).2) := by
  induction parents generalizing a with
  | nil => rfl
  | cons parent rest ih =>
    rw [meetAll, meetAll, meet_withShelf]
    obtain ⟨b, _ | error⟩ := a.meet child parent
    · exact ih b
    · rfl

private theorem announce_withShelf (a : Assembly) (s : Shelf) (child : ObjectId) :
    (a.withShelf s).announce child =
      ((a.announce child).1.withShelf s, (a.announce child).2) := by
  have same : (a.withShelf s).waiters = a.waiters := rfl
  simp only [announce, same]
  cases a.waiters[child]? with
  | none => rfl
  | some parents =>
    exact meetAll_withShelf child parents.toList { a with waiters := a.waiters.erase child } s

variable {hints other : Hints} {start : Summary} {accepted objects : List HistoryObject}
  {journal final : Journal} {u b : Assembly} {s : Shelf} {outcome : Option SurveyError}

private theorem Accounted.isFinalized_withShelf
    (accounted : Accounted hints start accepted journal (u.withShelf s))
    (twin : Accounted other start accepted journal u) (id : ObjectId) :
    s.isFinalized id = u.shelf.isFinalized id :=
  Bool.eq_iff_iff.mpr ((accounted.shelved.isFinalized_iff id).trans
    (twin.shelved.isFinalized_iff id).symm)

private theorem Accounted.measure_withShelf
    (accounted : Accounted hints start accepted journal (u.withShelf s))
    (twin : Accounted other start accepted journal u) (taken : accepted <+: objects)
    (truthful : Truthful hints objects) (alike : Truthful other objects)
    {object : HistoryObject} {rest : List HistoryObject} (ready : u.ready = object :: rest)
    (followed : object.Followed) : measure u.shelf object = measure s object := by
  have first := mem_ready ready
  refine measure_congr fun child member => ?_
  have needed := followed.consulted_subset member
  exact (twin.ready_held taken alike first needed).trans
    (accounted.ready_held taken truthful first needed).symm

/-- Measuring an object leads to the same assembly over another shelf, which takes the measure. -/
theorem finalize_announce_withShelf (hints other : Hints) (u : Assembly) (s : Shelf)
    (object : HistoryObject) (rest : List HistoryObject) (m : Measure) :
    ({ u.withShelf s with ready := rest }.finalize hints object m).announce object.id =
      ((({ u with ready := rest }.finalize other object m).announce object.id).1.withShelf
          (object.dependencies.foldl Shelf.consume (s.put object.id m (hints object.id))),
        (({ u with ready := rest }.finalize other object m).announce object.id).2) := by
  have told := announce_withShelf ({ u with ready := rest }.finalize other object m)
    (object.dependencies.foldl Shelf.consume (s.put object.id m (hints object.id))) object.id
  exact told

/-- Working off a ready stack goes the same way over either shelf. -/
theorem Settles.over_shelf (settles : Settles hints journal (u.withShelf s) final b outcome)
    (accounted : Accounted hints start accepted journal (u.withShelf s))
    (twin : Accounted other start accepted journal u) (taken : accepted <+: objects)
    (truthful : Truthful hints objects) (alike : Truthful other objects)
    (followed : ∀ object ∈ objects, object.Followed) :
    ∃ v t, b = v.withShelf t ∧ Settles other journal u final v outcome := by
  generalize shelved : u.withShelf s = a at settles
  have follows {object : HistoryObject} {rest : List HistoryObject} {w : Assembly} {j : Journal}
      (twin : Accounted other start accepted j w) (ready : w.ready = object :: rest) :
      object.Followed := by
    have distinct := (twin.members object).mpr (.inr (.inl (mem_ready ready)))
    exact followed object (taken.subset (mem_of_mem_firstOccurrences distinct))
  -- One journal accounts for both, so both shelves hold what the next ready object is made of.
  induction settles generalizing u s with
  | idle journal a nothing =>
    subst shelved
    exact ⟨u, s, rfl, .idle journal u nothing⟩
  | halted journal a object rest ready cancelled =>
    subst shelved
    exact ⟨{ u with ready := rest }, s, rfl, .halted journal u object rest ready cancelled⟩
  | failed journal a object rest error ready running measured =>
    subst shelved
    have same := accounted.measure_withShelf twin taken truthful alike ready (follows twin ready)
    exact ⟨{ u with ready := rest }, s, rfl,
      .failed journal u object rest error ready running (same.trans measured)⟩
  | lost journal a object rest m b error ready running measured announced =>
    subst shelved
    have none := (accounted.measured ready measured announced).1
    contradiction
  | next journal a object rest m b final c outcome ready running measured announced _ ih =>
    subst shelved
    have same := accounted.measure_withShelf twin taken truthful alike ready (follows twin ready)
    have told := finalize_announce_withShelf hints other u s object rest m
    obtain ⟨shelf, fine⟩ := Prod.mk.inj (told.symm.trans announced)
    have alone : ({ u with ready := rest }.finalize other object m).announce object.id =
        ((({ u with ready := rest }.finalize other object m).announce object.id).1, none) :=
      Prod.ext rfl fine
    have kept := (accounted.measured ready measured announced).2
    rw [← shelf] at kept
    have alike := same.trans measured
    obtain ⟨v, t, left, settles⟩ := ih kept (twin.measured ready alike alone).2 shelf
    exact ⟨v, t, left,
      .next journal u object rest m _ final v outcome ready running alike alone settles⟩

theorem Accepts.over_shelf {object : HistoryObject}
    (accepts : Accepts hints journal (u.withShelf s) object final b outcome)
    (accounted : Accounted hints start accepted journal (u.withShelf s))
    (twin : Accounted other start accepted journal u) (idle : u.ready = [])
    (taken : accepted ++ [object] <+: objects)
    (truthful : Truthful hints objects) (alike : Truthful other objects)
    (followed : ∀ object ∈ objects, object.Followed) :
    ∃ v t, b = v.withShelf t ∧ Accepts other journal u object final v outcome := by
  have same := accounted.isFinalized_withShelf twin
  have knows : (u.withShelf s).knows object.id = u.knows object.id :=
    congrArg (· || u.parked.contains object.id) (same object.id)
  have misses : unmet s object = unmet u.shelf object :=
    List.filter_congr fun child _ => by rw [same]
  cases accepts with
  | known known => exact ⟨_, s, rfl, .known journal u object (knows ▸ known)⟩
  | parked new missing =>
    refine ⟨u.park object, s, ?_, .parked journal u object (knows ▸ new) (misses ▸ missing)⟩
    simp only [park, withShelf, misses]
  | settled _ _ _ new met settles =>
    have pushed := accounted.push idle new met
    have alone := twin.push idle (knows ▸ new) (misses ▸ met)
    obtain ⟨v, t, left, settles⟩ :=
      Settles.over_shelf settles pushed alone taken truthful alike followed
    exact ⟨v, t, left,
      .settled journal u object final v outcome (knows ▸ new) (misses ▸ met) settles⟩

theorem Accounted.acceptAll_over_shelf {rest : List HistoryObject}
    (accounted : Accounted hints start accepted journal (u.withShelf s))
    (twin : Accounted other start accepted journal u) (idle : u.ready = [])
    (taken : accepted ++ rest <+: objects)
    (truthful : Truthful hints objects) (alike : Truthful other objects)
    (followed : ∀ object ∈ objects, object.Followed) :
    ∃ t, Survey.acceptAll hints rest (u.withShelf s) =
      ((Survey.acceptAll other rest u).1.withShelf t, (Survey.acceptAll other rest u).2) := by
  induction rest generalizing accepted journal u s with
  | nil => exact ⟨s, rfl⟩
  | cons object rest ih =>
    have step : accepted ++ [object] <+: objects :=
      (List.prefix_append_right_inj accepted).mpr (List.prefix_append [object] rest) |>.trans taken
    obtain ⟨final, accepts⟩ := accepts_accept hints journal (u.withShelf s) object
    obtain ⟨v, t, left, alone⟩ :=
      accepts.over_shelf accounted twin idle step truthful alike followed
    have kept := accepts.accounted accounted idle
    have known := alone.accounted twin idle
    have stepped : (u.withShelf s).accept hints object =
        (v.withShelf t, ((u.withShelf s).accept hints object).2) := Prod.ext left rfl
    rw [Survey.acceptAll, Survey.acceptAll, alone.accept_eq, stepped]
    cases ended : ((u.withShelf s).accept hints object).2 with
    | some error => exact ⟨t, rfl⟩
    | none =>
      rw [left, ended] at kept
      rw [ended] at known
      refine ih kept.1 known.1 known.2 ?_
      rw [List.append_assoc]
      exact taken

/-- With true numbers of links, a history is assembled as it is without any. -/
theorem acceptAll_over_shelf (references : List String) {first : List HistoryObject}
    (truthful : Truthful hints objects) (taken : first <+: objects)
    (followed : ∀ object ∈ objects, object.Followed) :
    let a := ofReferences references
    ∃ t, Survey.acceptAll hints first a =
      ((Survey.acceptAll (fun _ => none) first a).1.withShelf t,
        (Survey.acceptAll (fun _ => none) first a).2) :=
  Accounted.acceptAll_over_shelf (accounted_start hints references)
    (accounted_start (fun _ => none) references) (ready_ofReferences references) taken
    truthful (truthful_none objects) followed

private theorem accepted_begins (objects : List HistoryObject) (references : List String)
    (limit stopAfter : Option Nat) :
    Survey.accepted (ofList objects references limit) stopAfter <+: objects := by
  have known : (ofList objects references limit).objects <+: objects := by
    cases limit with
    | none => exact List.prefix_refl objects
    | some limit => exact List.take_prefix limit objects
  cases stopAfter with
  | none => exact known
  | some calls => exact (List.take_prefix calls _).trans known

/-- The numbers of links do not show in the outcome of a survey. -/
theorem run_withoutHints (objects : List HistoryObject) (references : List String)
    (limit stopAfter : Option Nat) (few : FewLinks objects)
    (followed : ∀ object ∈ objects, object.Followed) :
    Survey.run (ofList objects references limit) stopAfter =
      Survey.run (ofList objects references limit).withoutHints stopAfter := by
  obtain ⟨t, same⟩ := acceptAll_over_shelf references (truthful_counted few)
    (accepted_begins objects references limit stopAfter) followed
  have stream : (ofList objects references limit).hints = countedLinks (linkCounts objects) ∧
      (ofList objects references limit).references = references := ⟨rfl, rfl⟩
  unfold ofReferences at same
  unfold Survey.run
  dsimp only
  rw [stream.1, stream.2, same]
  rfl

/-- A shelf with true numbers of links keeps exactly the measures that are still needed. -/
theorem Accounted.held_iff {a : Assembly} (accounted : Accounted hints start accepted journal a)
    (taken : accepted <+: objects)
    (counted : ∀ id, hints id = some ((dependencyLinks (firstOccurrences objects)).count id))
    (id : ObjectId) :
    (a.shelf.get? id).isSome = true ↔ a.shelf.isFinalized id = true ∧
      ∃ object ∈ firstOccurrences objects, a.shelf.isFinalized object.id = false ∧
        id ∈ object.dependencies := by
  have needed := accounted.uses_lt_iff taken id
  simp only [accounted.shelved.isFinalized_eq_false_iff, ← needed]
  rw [accounted.shelved.isFinalized_iff, ← Journal.measure?_isSome_iff, accounted.shelved.get?_eq,
    counted]
  cases journal.measure? id with
  | none => simp
  | some m => simp

private theorem held_eq_zero {a : Assembly} (idle : a.ready = [])
    (accounted : Accounted (countedLinks (linkCounts objects)) start objects journal a)
    (few : FewLinks objects) {s : Summary} (finished : a.finish = .ok s) : a.held = 0 := by
  have all := ((accounted.finish_ok_iff idle s).mp finished).1
  have nothing : {id | (a.shelf.get? id).isSome = true} = ∅ := by
    refine Set.eq_empty_of_forall_notMem fun id held => ?_
    obtain ⟨_, object, distinct, unmeasured, _⟩ := (accounted.held_iff (List.prefix_refl _)
      (countedLinks_linkCounts few) id).mp held
    rw [accounted.shelved.isFinalized_eq_false_iff] at unmeasured
    exact unmeasured (all object distinct)
  rw [held, accounted.counted.live_eq, nothing, Set.ncard_empty]

/-- With the numbers of links counted by the source, a survey ends as it does without them. After
every accepted object the measures held are those that an object still to be measured depends on. -/
theorem counted_links_release_exactly (objects : List HistoryObject) (references : List String)
    (limit stopAfter : Option Nat) (few : FewLinks objects)
    (followed : ∀ object ∈ objects, object.Followed) :
    let stream := ofList objects references limit
    let begun := ofReferences references
    Survey.run stream stopAfter = Survey.run stream.withoutHints stopAfter ∧
    (∀ before, before <+: objects → (Survey.acceptAll stream.hints before begun).2 = none →
      let a := (Survey.acceptAll stream.hints before begun).1
      let needed := {id | a.shelf.isFinalized id = true ∧
        ∃ object ∈ firstOccurrences objects, a.shelf.isFinalized object.id = false ∧
          id ∈ object.dependencies}
      (∀ id, (a.shelf.get? id).isSome = true ↔ id ∈ needed) ∧ a.held = needed.ncard) ∧
    ∀ s, (Survey.run stream stopAfter).result = .ok s →
      (Survey.acceptAll stream.hints (Survey.accepted stream stopAfter) begun).1.held = 0 := by
  intro stream begun
  refine ⟨run_withoutHints objects references limit stopAfter few followed, ?_, ?_⟩
  · intro before sofar fine a needed
    have accepted : Survey.acceptAll stream.hints before begun = (a, none) := Prod.ext rfl fine
    obtain ⟨journal, _, accounted, _⟩ := accounted_of_acceptAll references accepted
    have held := accounted.held_iff sofar (countedLinks_linkCounts few)
    refine ⟨held, ?_⟩
    rw [Assembly.held, accounted.counted.live_eq]
    exact congrArg Set.ncard (Set.ext held)
  · intro s fine
    obtain ⟨all, b, accepted, finished⟩ := finish_of_run fine
    obtain ⟨journal, _, accounted, idle⟩ := accounted_of_acceptAll references accepted
    rw [all]
    change (Survey.acceptAll (countedLinks (linkCounts objects)) objects begun).1.held = 0
    rw [accepted]
    exact held_eq_zero idle accounted few finished

/-- A blob that a tree lists twice, and a commit of that tree. -/
def sharedHistory : List HistoryObject :=
  [.blob (.ofNat 3) 9,
    .tree (.ofNat 2) 70 [.toObject (.ofNat 3), .toObject (.ofNat 3)],
    .commit (.ofNat 1) 200 (.ofNat 2) []]

theorem counted_links_release_shared :
    FewLinks sharedHistory ∧ (∀ object ∈ sharedHistory, object.Followed) ∧
    Survey.run (ofList sharedHistory ["refs/heads/main"] none) none =
      Survey.run (ofList sharedHistory ["refs/heads/main"] none).withoutHints none := by
  have few : FewLinks sharedHistory := .of_listed (by decide)
  have followed : ∀ object ∈ sharedHistory, object.Followed := by decide
  exact ⟨few, followed,
    (counted_links_release_exactly sharedHistory ["refs/heads/main"] none none few followed).1⟩

end HistorySurvey.Assembly
