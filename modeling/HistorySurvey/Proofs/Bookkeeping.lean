import Mathlib.Algebra.BigOperators.Group.Finset.Basic
import HistorySurvey.Proofs.Failure
import HistorySurvey.Proofs.Forgetting

/-! The bookkeeping of an assembly that keeps every measure, over any requests and also after
failures. Counts and lists of those who wait agree after every request, no count is taken below
zero on the way, and no failure is a breach. -/
namespace HistorySurvey.Assembly

/-- How often somebody waits, over the lists of all objects. -/
def occurrences (a : Assembly) (id : ObjectId) : Nat :=
  (a.waiters.toList.flatMap fun entry => entry.2.toList).count id

/-- Counts, lists and measures agree. -/
structure Booked (a : Assembly) : Prop where
  awaited : ∀ child, a.waiters.contains child = true → a.shelf.isFinalized child = false
  waits : ∀ (child : ObjectId) (parents : Array ObjectId), a.waiters[child]? = some parents →
    ∀ parent ∈ parents, a.parked.contains parent = true
  counted : ∀ (id : ObjectId) (entry : Parked), a.parked[id]? = some entry →
    entry.object.id = id ∧ 0 < entry.missing ∧ entry.missing = a.occurrences id ∧
      entry.missing = (unmet a.shelf entry.object).length
  apart : ∀ id, a.parked.contains id = true → a.shelf.isFinalized id = false

/-! The lists of all objects together. -/

theorem waiting_of_entry {a : Assembly} {child : ObjectId} {parents : Array ObjectId}
    (found : a.waiters[child]? = some parents) : a.waiting child = parents.toList := by
  rw [waiting, found, Option.getD_some]

theorem occurrences_eq_sum (a : Assembly) (id : ObjectId) :
    a.occurrences id = (a.waiters.keys.map fun child => (a.waiting child).count id).sum := by
  rw [occurrences, List.count_flatMap, ← Std.HashMap.map_fst_toList_eq_keys, List.map_map]
  congr 1
  refine List.map_congr_left fun entry member => ?_
  have found := Std.HashMap.mem_toList_iff_getElem?_eq_some.mp member
  simp only [Function.comp_apply, waiting_of_entry found]

private theorem sum_count_eq_length {keys ids : List ObjectId} (distinct : keys.Nodup)
    (within : ∀ id ∈ ids, id ∈ keys) : (keys.map fun key => ids.count key).sum = ids.length := by
  rw [← List.sum_toFinset _ distinct]
  have all := Multiset.sum_count_eq_card (s := keys.toFinset) (m := (ids : Multiset ObjectId))
    fun id member => List.mem_toFinset.mpr (within id (Multiset.mem_coe.mp member))
  simpa using all

theorem Balanced.count_waiting {a : Assembly} {owed : List ObjectId} (balanced : Balanced owed a)
    {id : ObjectId} {entry : Parked} (found : a.parked[id]? = some entry) (child : ObjectId) :
    (a.waiting child).count id = (unmet a.shelf entry.object).count child := by
  rw [balanced.listed, parkedLinks_of_parked found, count_unmet]

theorem Balanced.occurrences_eq {a : Assembly} {owed : List ObjectId} (balanced : Balanced owed a)
    {id : ObjectId} {entry : Parked} (found : a.parked[id]? = some entry) :
    a.occurrences id = (unmet a.shelf entry.object).length := by
  simp only [occurrences_eq_sum, balanced.count_waiting found]
  refine sum_count_eq_length ?_ fun child missed => ?_
  · exact a.waiters.distinct_keys.imp fun apart => by simpa using apart
  · have some : id ∈ a.waiting child := by
      rw [← List.count_pos_iff, balanced.count_waiting found]
      exact List.count_pos_iff.mpr missed
    rw [Std.HashMap.mem_keys, Std.HashMap.mem_iff_isSome_getElem?]
    by_contra absent
    rw [Option.not_isSome_iff_eq_none] at absent
    rw [waiting, absent] at some
    contradiction

theorem Balanced.booked {a : Assembly} (balanced : Balanced [] a) : Booked a where
  awaited child listed := by
    by_contra measured
    refine balanced.inhabited child listed (List.eq_nil_iff_forall_not_mem.mpr fun id => ?_)
    rw [← List.count_eq_zero, balanced.listed, if_pos (Bool.not_eq_false _ |>.mp measured)]
  waits child parents found parent member := by
    have waiting : parent ∈ a.waiting child := by
      rw [waiting_of_entry found]
      exact Array.mem_toList_iff.mpr member
    exact balanced.parked_of_waiting waiting
  counted id entry found := by
    obtain ⟨named, _, positive, missing⟩ := balanced.parked id entry found
    rw [List.count_nil, Nat.add_zero] at missing
    exact ⟨named, positive, missing.trans (balanced.occurrences_eq found).symm, missing⟩
  apart id held := by
    obtain ⟨entry, found⟩ := (contains_parked_iff a id).mp held
    exact (balanced.parked id entry found).2.1

/-! Telling those who wait. -/

/-- Parents can be told one after the other of a measured child. Each is parked when its turn comes,
with a count above zero, which then goes down by one. -/
def Tells (child : ObjectId) : List ObjectId → Assembly → Prop
  | [], _ => True
  | parent :: rest, a =>
    (∃ entry, a.parked[parent]? = some entry ∧ 0 < entry.missing) ∧
      Tells child rest (a.meet child parent).1

/-- Whoever waits for a child can be told. -/
def Announces (child : ObjectId) (a : Assembly) : Prop :=
  ∀ parents, a.waiters[child]? = some parents →
    Tells child parents.toList { a with waiters := a.waiters.erase child }

theorem Balanced.tells {owed : List ObjectId} {a : Assembly} (balanced : Balanced owed a)
    (child : ObjectId) : Tells child owed a := by
  induction owed generalizing a with
  | nil => trivial
  | cons parent rest ih =>
    obtain ⟨entry, found⟩ :=
      (contains_parked_iff a parent).mp (balanced.owed parent List.mem_cons_self)
    obtain ⟨b, met, left, _⟩ := balanced.meet child
    refine ⟨⟨entry, found, (balanced.parked parent entry found).2.2.1⟩, ?_⟩
    rw [met]
    exact ih left

theorem Balanced.announces {a : Assembly} {object : HistoryObject} {rest : List HistoryObject}
    (balanced : Balanced [] a) (ready : a.ready = object :: rest) (hints : Hints) (m : Measure) :
    Announces object.id (({ a with ready := rest } : Assembly).finalize hints object m) := by
  intro parents found
  have left := balanced.finalized ready hints m (a.waiters.erase object.id)
    Std.HashMap.getElem?_erase_self
    fun id different => by simp [Std.HashMap.getElem?_erase, different]
  rw [waiting_of_entry (a := a) found] at left
  exact left.tells object.id

/-! Serving requests. -/

/-- Ready objects are worked off, and after each measure everyone who waits for it can be told. -/
inductive Drains (hints : Hints) : Assembly → Prop
  | idle (a : Assembly) (nothing : a.ready = []) : Drains hints a
  | halted (a : Assembly) (cancelled : a.cancelled = true) : Drains hints a
  | failed (a : Assembly) (object : HistoryObject) (rest : List HistoryObject) (error : SurveyError)
      (ready : a.ready = object :: rest) (measured : measure a.shelf object = .error error) :
      Drains hints a
  | next (a : Assembly) (object : HistoryObject) (rest : List HistoryObject) (m : Measure)
      (ready : a.ready = object :: rest) (measured : measure a.shelf object = .ok m)
      (announces : Announces object.id ({ a with ready := rest }.finalize hints object m))
      (further :
        Drains hints (({ a with ready := rest }.finalize hints object m).announce object.id).1) :
      Drains hints a

/-- Serving a request tells only those who can be told. -/
def Attends (hints : Hints) (a : Assembly) : Request → Prop
  | .take object => a.knows object.id = false → unmet a.shelf object = [] →
    Drains hints { a with ready := object :: a.ready }
  | .stop => True

def AttendsAll (hints : Hints) : List Request → Assembly → Prop
  | [], _ => True
  | request :: rest, a => Attends hints a request ∧ AttendsAll hints rest (a.serve hints request).1

theorem serveAll_append (hints : Hints) (first rest : List Request) (a : Assembly) :
    serveAll hints (first ++ rest) a =
      let left := serveAll hints first a
      let right := serveAll hints rest left.1
      (right.1, left.2 ++ right.2) := by
  induction first generalizing a with
  | nil => rfl
  | cons request others ih => simp only [List.cons_append, serveAll, ih, List.append_assoc]

/-! The ledger carries the books from step to step, and the shelf, which loses nothing, what an object
is measured from. -/

section
variable {start : Summary} {taken : List HistoryObject} {journal final : Journal}
  {dropped skipped : List ObjectId} {a b : Assembly} {outcome : Option SurveyError}

theorem Ledger.measure_ne_breach (ledger : Ledger start taken journal dropped skipped a)
    (lasting : a.shelf.Lasting) (followed : ∀ object ∈ taken, object.Followed)
    {object : HistoryObject} {rest : List HistoryObject} (ready : a.ready = object :: rest)
    (cause : Breach) : measure a.shelf object ≠ .error (.breach cause) := by
  intro failed
  have inside := mem_ready ready
  have met := (unmet_eq_nil_iff a.shelf object).mp (ledger.balanced.ready object inside).1
  obtain ⟨child, needed, absent⟩ := (measure_error failed).2 cause rfl
  have depends := (followed object (ledger.outstanding object (.inl inside))).consulted_subset needed
  have held := lasting.held (met child depends)
  rw [absent] at held
  contradiction

theorem lasting_announce (lasting : a.shelf.Lasting) (object : HistoryObject) (m : Measure) :
    ((a.finalize (fun _ => none) object m).announce object.id).1.shelf.Lasting := by
  rw [(announce_frame _ object.id).1, finalize, (lasting.put object.id m).consumeAll_eq]
  exact lasting.put object.id m

theorem Settles.drains (settles : Settles (fun _ => none) journal a final b outcome)
    (ledger : Ledger start taken journal dropped skipped a) (lasting : a.shelf.Lasting)
    (followed : ∀ object ∈ taken, object.Followed) :
    Drains (fun _ => none) a ∧ b.shelf.Lasting ∧ ∀ cause, outcome ≠ some (.breach cause) := by
  induction settles with
  | idle journal a nothing => exact ⟨.idle a nothing, lasting, fun _ => nofun⟩
  | halted journal a object rest ready cancelled =>
    exact ⟨.halted a cancelled, lasting, fun _ => nofun⟩
  | failed journal a object rest error ready running measured =>
    refine ⟨.failed a object rest error ready measured, lasting, fun cause same => ?_⟩
    obtain rfl := Option.some.inj same
    exact ledger.measure_ne_breach lasting followed ready cause measured
  | lost journal a object rest m b error ready running measured announced =>
    have never := (ledger.measured ready m announced).1
    contradiction
  | next journal a object rest m b final c outcome ready running measured announced _ ih =>
    have kept := lasting_announce (a := { a with ready := rest }) lasting object m
    rw [announced] at kept
    obtain ⟨further, left, quiet⟩ := ih (ledger.measured ready m announced).2 kept
    have announces := ledger.balanced.announces ready (fun _ => none) m
    refine ⟨.next a object rest m ready measured announces ?_, left, quiet⟩
    rw [announced]
    exact further

theorem Accepts.attends {object : HistoryObject}
    (accepts : Accepts (fun _ => none) journal a object final b outcome)
    (served : Served start taken journal dropped skipped a) (lasting : a.shelf.Lasting)
    (followed : ∀ other ∈ taken ++ [object], other.Followed) :
    Attends (fun _ => none) a (.take object) ∧ b.shelf.Lasting ∧
      ∀ cause, outcome ≠ some (.breach cause) := by
  cases accepts with
  | known known => exact ⟨fun new => by simp [known] at new, lasting, fun _ => nofun⟩
  | parked new missing => exact ⟨fun _ met => absurd met missing, lasting, fun _ => nofun⟩
  | settled _ _ _ new met settles =>
    obtain ⟨drains, left, quiet⟩ := settles.drains (served.enter_ready new met) lasting followed
    exact ⟨fun _ _ => drains, left, quiet⟩

theorem serve_attends (request : Request) (served : Served start taken journal dropped skipped a)
    (lasting : a.shelf.Lasting)
    (followed : ∀ object ∈ taken ++ request.object?.toList, object.Followed) :
    Attends (fun _ => none) a request ∧ (a.serve (fun _ => none) request).1.shelf.Lasting ∧
      ∀ cause, (a.serve (fun _ => none) request).2 ≠ some (.breach cause) := by
  cases request with
  | stop => exact ⟨trivial, lasting, fun _ => nofun⟩
  | take object =>
    obtain ⟨final, accepts⟩ := accepts_accept (fun _ => none) journal a object
    exact accepts.attends served lasting followed

theorem serveAll_attends (requests : List Request)
    (served : Served start taken journal dropped skipped a) (lasting : a.shelf.Lasting)
    (identified : ∀ a ∈ taken ++ Request.objects requests,
      ∀ b ∈ taken ++ Request.objects requests, a.id = b.id → a = b)
    (followed : ∀ object ∈ taken ++ Request.objects requests, object.Followed) :
    AttendsAll (fun _ => none) requests a ∧
      ∀ cause, .breach cause ∉ (serveAll (fun _ => none) requests a).2 := by
  induction requests generalizing taken journal dropped skipped a with
  | nil => exact ⟨trivial, fun _ => List.not_mem_nil⟩
  | cons request rest ih =>
    have split : Request.objects (request :: rest) =
        request.object?.toList ++ Request.objects rest := by
      cases request <;> rfl
    rw [split, ← List.append_assoc] at identified followed
    obtain ⟨attends, left, quiet⟩ := serve_attends request served lasting
      fun object member => followed object (List.mem_append_left _ member)
    obtain ⟨between, lost, met, _, step⟩ := serve_served (fun _ => none) request served
      fun object new other before => identified other (by simp [before]) object
        (by simp [Option.mem_toList.mpr new])
    obtain ⟨others, silent⟩ := ih step left identified followed
    refine ⟨⟨attends, others⟩, fun cause member => ?_⟩
    rw [serveAll, List.mem_append, Option.mem_toList] at member
    exact member.elim (quiet cause) (silent cause)

end

/-- If an id always stands for the same object, and commits and tags follow all their links, the
books of an assembly that keeps every measure are right after any requests, failed ones included. On
the way, whoever waited for a measured object was parked when it was told, with a count above zero,
and no failure was a breach. -/
theorem books_are_right (references : List String) (requests : List Request)
    (identified : ∀ a ∈ Request.objects requests, ∀ b ∈ Request.objects requests,
      a.id = b.id → a = b)
    (followed : ∀ object ∈ Request.objects requests, object.Followed) :
    let hints : Hints := fun _ => none
    Booked (serveAll hints requests (ofReferences references)).1 ∧
      AttendsAll hints requests (ofReferences references) ∧
      ∀ cause, .breach cause ∉ (serveAll hints requests (ofReferences references)).2 := by
  intro hints
  have begun : Served (Summary.ofReferences references) [] [] [] [] (ofReferences references) :=
    ⟨ledger_start references, fun _ => ready_ofReferences references⟩
  obtain ⟨_, _, _, _, ledger, _⟩ := serveAll_served hints requests begun identified
  exact ⟨ledger.balanced.booked,
    serveAll_attends requests begun (lasting_ofReferences references) identified followed⟩

/-- The commit fails and is dropped. It is taken once more, and then the blob after a request to
stop. -/
theorem books_are_right_stranded :
    let requests := strandedHistory.map Request.take ++
      [.take strandingCommit, .stop, .take sharedBlob]
    let run := serveAll (fun _ => none) requests (ofReferences [])
    (∀ a ∈ Request.objects requests, ∀ b ∈ Request.objects requests, a.id = b.id → a = b) ∧
      (∀ object ∈ Request.objects requests, object.Followed) ∧
      .unexpectedKind (.ofNat 1) (.ofNat 3) [.tree] .blob ∈ run.2 ∧ Booked run.1 ∧
      AttendsAll (fun _ => none) requests (ofReferences []) ∧ ∀ cause, .breach cause ∉ run.2 := by
  intro requests run
  have identified : ∀ a ∈ Request.objects requests, ∀ b ∈ Request.objects requests,
      a.id = b.id → a = b := by decide
  have followed : ∀ object ∈ Request.objects requests, object.Followed := by decide
  refine ⟨identified, followed, ?_, books_are_right [] requests identified followed⟩
  obtain ⟨a, served, _⟩ := serveAll_strandedHistory
  simp [run, requests, serveAll_append, served]

end HistorySurvey.Assembly
