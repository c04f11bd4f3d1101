import HistorySurvey.Proofs.Completion

/-! An assembly that goes on being used after failures. Every accepted object is still in one place,
but an object that fails is dropped, and those that were ready with it wait for the next object that
can be measured. Nothing of that is parked, so the summary is given without them. -/
namespace HistorySurvey

inductive Request
  | take (object : HistoryObject)
  | stop

namespace Request

def object? : Request → Option HistoryObject
  | take object => some object
  | stop => none

def objects (requests : List Request) : List HistoryObject := requests.filterMap object?

end Request

namespace Summary

/-- The number of distinct objects of a kind. -/
def countOf (s : Summary) : Kind → Count32
  | .blob => s.blobs.count
  | .tree => s.trees.count
  | .commit => s.commits.count
  | .tag => s.tags.count

def objectCount (s : Summary) : Nat := (Kind.all.map fun kind => (s.countOf kind).value).sum

theorem countOf_record (s : Summary) (object : HistoryObject) (m : Measure) (kind : Kind) :
    (s.record object m).countOf kind =
      if m.kind = kind then s.countOf kind + 1 else s.countOf kind := by
  cases m <;> cases kind <;> rfl

theorem countOf_references (names : List String) (kind : Kind) :
    (Summary.ofReferences names).countOf kind = 0 := by
  unfold Summary.ofReferences
  induction names using List.reverseRecOn with
  | nil => cases kind <;> rfl
  | append_singleton names name ih =>
    rw [List.foldl_append, ← ih]
    cases kind <;> rfl

end Summary

namespace Journal

theorem countOf_summary (names : List String) (journal : Journal) (kind : Kind) :
    (journal.summary (Summary.ofReferences names)).countOf kind =
      .ofNat (journal.countP (·.2.kind = kind)) := by
  induction journal with
  | nil => exact Summary.countOf_references names kind
  | cons entry earlier ih =>
    change (Summary.record (summary _ earlier) entry.1 entry.2).countOf kind = _
    rw [Summary.countOf_record, ih, List.countP_cons]
    by_cases same : entry.2.kind = kind
    · rw [if_pos same, if_pos (by simpa using same)]
      exact Count.ofNat_add _ 1
    · rw [if_neg same, if_neg (by simpa using same), Nat.add_zero]

private theorem length_eq_sum_kinds (journal : Journal) :
    (Kind.all.map fun kind => journal.countP (·.2.kind = kind)).sum = journal.length := by
  induction journal with
  | nil => rfl
  | cons entry earlier ih =>
    simp only [Kind.all, List.map_cons, List.map_nil, List.sum_cons, List.sum_nil, List.countP_cons,
      List.length_cons] at ih ⊢
    cases entry.2.kind <;> simp <;> omega

/-- As long as no count is at its limit, the counts of the kinds add up. -/
theorem objectCount_summary (names : List String) (journal : Journal)
    (below : ∀ kind,
      ((journal.summary (Summary.ofReferences names)).countOf kind).saturated = false) :
    (journal.summary (Summary.ofReferences names)).objectCount = journal.length := by
  rw [← length_eq_sum_kinds, Summary.objectCount]
  congr 1
  refine List.map_congr_left fun kind _ => ?_
  have room := below kind
  rw [countOf_summary, ← Bool.not_eq_true, Count.saturated_iff, Count.value_ofNat] at room
  rw [countOf_summary, Count.value_ofNat]
  omega

end Journal

namespace Assembly
open ObjectStream

def serve (hints : Hints) (a : Assembly) : Request → Assembly × Option SurveyError
  | .take object => a.accept hints object
  | .stop => (a.cancel, none)

/-- Serves requests one after the other and goes on after failures, which are listed. -/
def serveAll (hints : Hints) : List Request → Assembly → Assembly × List SurveyError
  | [], a => (a, [])
  | request :: rest, a =>
    let served := a.serve hints request
    let others := serveAll hints rest served.1
    (others.1, served.2.toList ++ others.2)

/-- Where the objects taken so far have gone. Each is measured, dropped after a failure, skipped
because it was known, or still pending. -/
structure Ledger (start : Summary) (taken : List HistoryObject) (journal : Journal)
    (dropped skipped : List ObjectId) (a : Assembly) : Prop where
  balanced : Balanced [] a
  placed : ∀ id, (taken.map HistoryObject.id).count id =
    journal.ids.count id + dropped.count id + skipped.count id + a.pending id
  /-- As long as nothing was dropped, no object has two places. -/
  single : dropped = [] → ∀ id ∈ taken.map HistoryObject.id,
    journal.ids.count id + a.pending id = 1
  outstanding : ∀ object, a.Outstanding object → object ∈ taken
  shelved : ∀ id, a.shelf.isFinalized id = true ↔ id ∈ journal.ids
  summary : a.summary = journal.summary start
  finalized : a.statistics.finalized = journal.length
  progress : a.progress = journal.length
  duplicates : a.statistics.duplicates = skipped.length

variable {hints : Hints} {start : Summary} {taken : List HistoryObject} {journal : Journal}
  {dropped skipped : List ObjectId} {a : Assembly}

theorem ledger_start (references : List String) :
    Ledger (Summary.ofReferences references) [] [] [] [] (ofReferences references) := by
  have accounted := accounted_start (fun _ => none) references
  constructor
  case balanced => exact accounted.balanced
  case shelved => exact accounted.shelved.isFinalized_iff
  case outstanding =>
    exact fun object waits => (accounted.members object).mpr (.inr waits)
  case placed => intro id; rw [ofReferences_eq]; simp [Assembly.pending, empty, Journal.ids]
  case single => intro _ id member; contradiction
  all_goals rw [ofReferences_eq]; rfl

private theorem pending_pop {object : HistoryObject} {rest : List HistoryObject}
    (ready : a.ready = object :: rest) (id : ObjectId) :
    a.pending id =
      ({ a with ready := rest } : Assembly).pending id + if object.id = id then 1 else 0 := by
  simp only [Assembly.pending, ready, List.map_cons, List.count_cons, beq_iff_eq]
  omega

private theorem outstanding_pop {object : HistoryObject} {rest : List HistoryObject}
    (ready : a.ready = object :: rest) {other : HistoryObject}
    (waits : ({ a with ready := rest } : Assembly).Outstanding other) : a.Outstanding other :=
  waits.imp_left fun member => by rw [ready]; exact List.mem_cons_of_mem _ member

theorem Ledger.drop (ledger : Ledger start taken journal dropped skipped a)
    {object : HistoryObject} {rest : List HistoryObject} (ready : a.ready = object :: rest) :
    Ledger start taken journal (object.id :: dropped) skipped { a with ready := rest } := by
  refine { ledger with balanced := ?_, placed := ?_, single := ?_, outstanding := ?_ }
  · refine { ledger.balanced with ready := fun other member => ?_ }
    exact ledger.balanced.ready other (by rw [ready]; exact List.mem_cons_of_mem _ member)
  · intro id
    rw [ledger.placed, pending_pop ready, List.count_cons]
    simp only [beq_iff_eq]
    omega
  · intro nothing
    contradiction
  · exact fun other waits => ledger.outstanding other (outstanding_pop ready waits)

/-- A measured object moves from the stack into the journal, and those who waited for it move to
the stack. -/
theorem Ledger.measured (ledger : Ledger start taken journal dropped skipped a)
    {object : HistoryObject} {rest : List HistoryObject} (ready : a.ready = object :: rest)
    (m : Measure) {b : Assembly} {outcome : Option SurveyError}
    (announced : (({ a with ready := rest } : Assembly).finalize hints object m).announce object.id =
      (b, outcome)) :
    outcome = none ∧ Ledger start taken ((object, m) :: journal) dropped skipped b := by
  obtain ⟨w, c, told, balanced, moved⟩ := ledger.balanced.announce_finalize ready hints m
  obtain ⟨rfl, rfl⟩ := Prod.mk.inj (announced.symm.trans told)
  refine ⟨rfl, ?_⟩
  have shelf : b.shelf = (({ a with ready := rest } : Assembly).finalize hints object m).shelf := by
    rw [moved.frame]
  -- The object is pending once less and measured once more.
  have shifted (id : ObjectId) : (Journal.ids ((object, m) :: journal)).count id + b.pending id =
      journal.ids.count id + a.pending id := by
    have popped := pending_pop ready id
    have kept : b.pending id = ({ a with ready := rest } : Assembly).pending id := moved.pending id
    rw [Journal.ids_cons, List.count_cons, kept]
    simp only [beq_iff_eq]
    omega
  constructor
  case balanced => exact balanced
  case placed =>
    intro id
    have before := ledger.placed id
    have after := shifted id
    omega
  case single =>
    intro nothing id member
    have before := ledger.single nothing id member
    have after := shifted id
    omega
  case outstanding =>
    intro other waits
    exact ledger.outstanding other (outstanding_pop ready ((moved.outstanding other).mp waits))
  case shelved =>
    intro id
    rw [shelf, isFinalized_finalize, Journal.ids_cons, List.mem_cons, Bool.or_eq_true,
      ledger.shelved, beq_iff_eq, or_comm, eq_comm]
  case summary =>
    rw [moved.frame]
    exact congrArg (Summary.record · object m) ledger.summary
  case finalized =>
    rw [moved.frame]
    exact congrArg (· + 1) ledger.finalized
  case progress =>
    rw [moved.frame]
    exact congrArg (· + 1) ledger.progress
  case duplicates =>
    rw [moved.frame]
    exact ledger.duplicates

/-- Settling drops one object if it fails. If it does not fail, nothing stays ready. -/
theorem Settles.ledger {final : Journal} {b : Assembly} {outcome : Option SurveyError}
    (settles : Settles hints journal a final b outcome)
    (ledger : Ledger start taken journal dropped skipped a) :
    ∃ lost, lost.length = outcome.toList.length ∧
      Ledger start taken final (lost ++ dropped) skipped b ∧ (outcome = none → b.ready = []) := by
  induction settles with
  | idle journal a nothing => exact ⟨[], rfl, ledger, fun _ => nothing⟩
  | halted journal a object rest ready cancelled =>
    exact ⟨[object.id], rfl, ledger.drop ready, fun none => by contradiction⟩
  | failed journal a object rest error ready running measured =>
    exact ⟨[object.id], rfl, ledger.drop ready, fun none => by contradiction⟩
  | lost journal a object rest m b error ready running measured announced =>
    have never := (ledger.measured ready m announced).1
    contradiction
  | next journal a object rest m b final c outcome ready running measured announced _ ih =>
    exact ih (ledger.measured ready m announced).2

private theorem count_concat (taken : List HistoryObject) (object : HistoryObject) (id : ObjectId) :
    ((taken ++ [object]).map HistoryObject.id).count id =
      (taken.map HistoryObject.id).count id + if object.id = id then 1 else 0 := by
  simp [List.count_singleton]

theorem Ledger.mem_taken (ledger : Ledger start taken journal dropped skipped a) {id : ObjectId}
    (found : 0 < journal.ids.count id + a.pending id) : id ∈ taken.map HistoryObject.id := by
  have placed := ledger.placed id
  exact List.count_pos_iff.mp (by omega)

private theorem Ledger.skip (ledger : Ledger start taken journal dropped skipped a)
    {object : HistoryObject} (known : a.knows object.id = true) :
    Ledger start (taken ++ [object]) journal dropped (object.id :: skipped)
      { a with statistics :=
        { a.statistics with duplicates := a.statistics.duplicates + 1 } } := by
  have seen : object.id ∈ taken.map HistoryObject.id := by
    apply ledger.mem_taken
    rw [knows, Bool.or_eq_true, ledger.shelved] at known
    rcases known with measured | parked
    · exact Nat.add_pos_left (List.count_pos_iff.mpr measured) _
    · simp only [Assembly.pending, parked, if_true]
      omega
  refine { ledger with balanced := ?_, placed := ?_, single := ?_, outstanding := ?_,
                       duplicates := ?_ }
  · exact { ledger.balanced with }
  · intro id
    have before := ledger.placed id
    have same : ({ a with statistics := { a.statistics with
      duplicates := a.statistics.duplicates + 1 } } : Assembly).pending id = a.pending id := rfl
    rw [count_concat, same, List.count_cons]
    simp only [beq_iff_eq]
    omega
  · intro nothing id member
    refine ledger.single nothing id ?_
    rw [List.map_append, List.mem_append, List.map_singleton, List.mem_singleton] at member
    exact member.elim (fun before => before) fun same => same ▸ seen
  · exact fun other waits => List.mem_append_left _ (ledger.outstanding other waits)
  · exact congrArg (· + 1) ledger.duplicates

private theorem Ledger.enter (ledger : Ledger start taken journal dropped skipped a)
    (idle : dropped = [] → a.ready = []) {object : HistoryObject}
    (new : a.knows object.id = false) {b : Assembly} (balanced : Balanced [] b)
    (frame : b = { a with
      parked := b.parked, ready := b.ready, waiters := b.waiters, statistics := b.statistics })
    (counts : b.statistics.finalized = a.statistics.finalized ∧
      b.statistics.duplicates = a.statistics.duplicates)
    (pending : ∀ id, b.pending id = a.pending id + if object.id = id then 1 else 0)
    (outstanding : ∀ other, b.Outstanding other → a.Outstanding other ∨ other = object) :
    Ledger start (taken ++ [object]) journal dropped skipped b := by
  obtain ⟨unmeasured, outside⟩ := (knows_eq_false_iff a object.id).mp new
  constructor
  case balanced => exact balanced
  case placed =>
    intro id
    have before := ledger.placed id
    rw [count_concat, pending]
    omega
  case single =>
    -- With nothing ready, an object that is not known is in no place yet.
    intro nothing id member
    have absent : journal.ids.count object.id + a.pending object.id = 0 := by
      have fresh : object.id ∉ journal.ids := by
        rw [← ledger.shelved, unmeasured]
        exact Bool.false_ne_true
      have free := (contains_parked_eq_false_iff a object.id).mpr outside
      simp [Assembly.pending, idle nothing, free, List.count_eq_zero.mpr fresh]
    rw [pending]
    by_cases same : object.id = id
    · subst same
      rw [if_pos rfl]
      omega
    · rw [if_neg same, Nat.add_zero]
      apply ledger.single nothing
      simpa [Ne.symm same] using member
  case outstanding =>
    intro other waits
    rcases outstanding other waits with before | rfl
    · exact List.mem_append_left _ (ledger.outstanding other before)
    · exact List.mem_append_right _ List.mem_cons_self
  case shelved =>
    rw [frame]
    exact ledger.shelved
  case summary =>
    rw [frame]
    exact ledger.summary
  case finalized => exact counts.1.trans ledger.finalized
  case progress =>
    rw [frame]
    exact ledger.progress
  case duplicates => exact counts.2.trans ledger.duplicates

/-- What serving a request leaves: the ledger, and nothing ready unless something was dropped. -/
def Served (start : Summary) (taken : List HistoryObject) (journal : Journal)
    (dropped skipped : List ObjectId) (a : Assembly) : Prop :=
  Ledger start taken journal dropped skipped a ∧ (dropped = [] → a.ready = [])

/-- An object that misses nothing is taken to the ready ones. -/
theorem Served.enter_ready {object : HistoryObject}
    (served : Served start taken journal dropped skipped a) (new : a.knows object.id = false)
    (met : unmet a.shelf object = []) :
    Ledger start (taken ++ [object]) journal dropped skipped
      { a with ready := object :: a.ready } := by
  obtain ⟨ledger, idle⟩ := served
  apply ledger.enter idle new (ledger.balanced.accept_ready new met) rfl ⟨rfl, rfl⟩
  · intro id
    simp only [Assembly.pending, List.map_cons, List.count_cons, beq_iff_eq]
    omega
  · rintro other (ready | parked)
    · rcases List.mem_cons.mp ready with rfl | before
      · exact .inr rfl
      · exact .inl (.inl before)
    · exact .inl (.inr parked)

theorem Accepts.served {object : HistoryObject} {final : Journal} {b : Assembly}
    {outcome : Option SurveyError} (accepts : Accepts hints journal a object final b outcome)
    (served : Served start taken journal dropped skipped a)
    (identified : ∀ other ∈ taken, other.id = object.id → other = object) :
    ∃ lost met, lost.length = outcome.toList.length ∧
      Served start (taken ++ [object]) final (lost ++ dropped) (met ++ skipped) b := by
  have ⟨ledger, idle⟩ := served
  cases accepts with
  | known known => exact ⟨[], [object.id], rfl, ledger.skip known, idle⟩
  | parked new missing =>
    have alone : ∀ other ∈ a.ready, other.id = object.id → other = object :=
      fun other waits => identified other (ledger.outstanding other (.inl waits))
    have outside := (contains_parked_eq_false_iff a object.id).mpr
      ((knows_eq_false_iff a object.id).mp new).2
    refine ⟨[], [], rfl, ?_, idle⟩
    apply ledger.enter idle new (ledger.balanced.park new missing alone) rfl ⟨rfl, rfl⟩
    · intro id
      simp only [Assembly.pending, Assembly.park, Std.HashMap.contains_insert, Nat.add_assoc]
      by_cases same : object.id = id
      · subst same
        simp [outside]
      · simp [same]
    · rintro other (ready | ⟨missing, found⟩)
      · exact .inl (.inl ready)
      · simp only [Assembly.park, Std.HashMap.getElem?_insert, beq_iff_eq] at found
        split at found
        · exact .inr (congrArg Parked.object (Option.some.inj found)).symm
        · exact .inl (.inr ⟨missing, found⟩)
  | settled _ _ _ new met settles =>
    obtain ⟨lost, failures, kept, quiet⟩ := settles.ledger
      (served.enter_ready new met)
    refine ⟨lost, [], failures, kept, fun nothing => quiet ?_⟩
    rw [(List.append_eq_nil_iff.mp nothing).1] at failures
    simpa using failures.symm

theorem serve_served (hints : Hints) (request : Request)
    (served : Served start taken journal dropped skipped a)
    (identified : ∀ object ∈ request.object?, ∀ other ∈ taken, other.id = object.id →
      other = object) :
    ∃ final lost met, lost.length = (a.serve hints request).2.toList.length ∧
      Served start (taken ++ request.object?.toList) final (lost ++ dropped) (met ++ skipped)
        (a.serve hints request).1 := by
  cases request with
  | take object =>
    obtain ⟨final, accepts⟩ := accepts_accept hints journal a object
    obtain ⟨lost, met, kept⟩ := accepts.served served (identified object rfl)
    exact ⟨final, lost, met, kept⟩
  | stop =>
    obtain ⟨ledger, idle⟩ := served
    refine ⟨journal, [], [], rfl, ?_, idle⟩
    rw [Request.object?, Option.toList_none, List.append_nil]
    exact { ledger with balanced := { ledger.balanced with } }

theorem serveAll_served (hints : Hints) (requests : List Request)
    (served : Served start taken journal dropped skipped a)
    (identified : ∀ a ∈ taken ++ Request.objects requests,
      ∀ b ∈ taken ++ Request.objects requests, a.id = b.id → a = b) :
    ∃ final lost met, lost.length = (serveAll hints requests a).2.length ∧
      Served start (taken ++ Request.objects requests) final (lost ++ dropped) (met ++ skipped)
        (serveAll hints requests a).1 := by
  induction requests generalizing taken journal dropped skipped a with
  | nil =>
    refine ⟨journal, [], [], rfl, ?_⟩
    rw [Request.objects, List.filterMap_nil, List.append_nil]
    exact served
  | cons request rest ih =>
    have split : Request.objects (request :: rest) =
        request.object?.toList ++ Request.objects rest := by
      cases request <;> rfl
    rw [split, ← List.append_assoc] at identified ⊢
    obtain ⟨between, lost, met, failures, step⟩ := serve_served hints request served
      fun object new other before => identified other (by simp [before]) object
        (by simp [Option.mem_toList.mpr new])
    obtain ⟨final, later, more, others, all⟩ := ih step identified
    refine ⟨final, later ++ lost, more ++ met, ?_, ?_⟩
    · rw [serveAll, List.length_append, List.length_append, others, failures, Nat.add_comm]
    · rw [List.append_assoc later, List.append_assoc more]
      exact all

/-! What a summary counts after failures. -/

/-- Every id among some objects is counted exactly once in a summary of a journal. -/
structure CountsOnce (objects : List HistoryObject) (journal : Journal) (a : Assembly)
    (s : Summary) : Prop where
  once : ∀ id ∈ objects.map HistoryObject.id, journal.ids.count id = 1
  finalized : a.statistics.finalized = (objects.map HistoryObject.id).dedup.length
  unique : (∀ kind, (s.countOf kind).saturated = false) →
    s.objectCount = (objects.map HistoryObject.id).dedup.length

theorem Ledger.countsOnce {references : List String}
    (ledger : Ledger (Summary.ofReferences references) taken journal dropped skipped a)
    (once : ∀ id ∈ taken.map HistoryObject.id, journal.ids.count id = 1) :
    CountsOnce taken journal a a.summary := by
  have same : journal.ids.Perm (taken.map HistoryObject.id).dedup := by
    refine List.perm_iff_count.mpr fun id => ?_
    by_cases member : id ∈ taken.map HistoryObject.id
    · rw [once id member, List.count_dedup, if_pos member]
    · have absent : id ∉ journal.ids := fun measured =>
        member (ledger.mem_taken (Nat.add_pos_left (List.count_pos_iff.mpr measured) _))
      rw [List.count_eq_zero.mpr absent, List.count_dedup, if_neg member]
  have length : journal.length = (taken.map HistoryObject.id).dedup.length := by
    rw [← same.length_eq, Journal.ids, List.length_map]
  refine ⟨once, ledger.finalized.trans length, fun below => ?_⟩
  rw [ledger.summary] at below ⊢
  exact (Journal.objectCount_summary references journal below).trans length

/-- An assembly that gives a summary after failures has put every object taken in one place: it is
in the summary, or it was dropped with a failure, or skipped as a duplicate, or it is left among the
ready ones. The summary counts every id once if nothing failed. If no id was taken twice, it does so
only then. -/
theorem finish_after_failures (hints : Hints) (references : List String) (requests : List Request)
    (identified : ∀ a ∈ Request.objects requests, ∀ b ∈ Request.objects requests,
      a.id = b.id → a = b) (s : Summary)
    (fine : (serveAll hints requests (ofReferences references)).1.finish = .ok s) :
    let objects := Request.objects requests
    let a := (serveAll hints requests (ofReferences references)).1
    let failures := (serveAll hints requests (ofReferences references)).2
    ∃ (journal : Journal) (dropped skipped : List ObjectId),
      s = journal.summary (Summary.ofReferences references) ∧
      a.statistics.finalized = journal.length ∧
      a.progress = journal.length ∧
      dropped.length = failures.length ∧
      a.statistics.duplicates = skipped.length ∧
      (objects.map HistoryObject.id).Perm
        (journal.ids ++ dropped ++ skipped ++ a.ready.map HistoryObject.id) ∧
      (failures = [] → CountsOnce objects journal a s) ∧
      ((objects.map HistoryObject.id).Nodup →
        (CountsOnce objects journal a s ↔ failures = [])) := by
  intro objects a failures
  have begun : Served (Summary.ofReferences references) [] [] [] [] (ofReferences references) :=
    ⟨ledger_start references, fun _ => ready_ofReferences references⟩
  obtain ⟨journal, dropped, skipped, lost, ledger, idle⟩ :=
    serveAll_served hints requests begun identified
  rw [List.append_nil] at ledger idle
  rw [List.append_nil] at ledger
  change dropped.length = failures.length at lost
  -- Nothing is parked, so all that is pending is ready.
  have bare : a.parked.isEmpty = true ∧ a.summary = s := by
    change a.finish = .ok s at fine
    unfold finish at fine
    split at fine
    · rename_i nothing
      exact ⟨nothing, Except.ok.inj fine⟩
    · split at fine <;> contradiction
  have pending (id : ObjectId) : a.pending id = (a.ready.map HistoryObject.id).count id := by
    have free : a.parked.contains id = false := by
      rw [← Bool.not_eq_true]
      exact Std.HashMap.isEmpty_iff_forall_not_mem.mp bare.1 id
    rw [Assembly.pending, free]
    rfl
  have placed : (objects.map HistoryObject.id).Perm
      (journal.ids ++ dropped ++ skipped ++ a.ready.map HistoryObject.id) := by
    refine List.perm_iff_count.mpr fun id => ?_
    have place := ledger.placed id
    rw [List.nil_append] at place
    rw [List.count_append, List.count_append, List.count_append, ← pending]
    exact place
  have careful (none : failures = []) : CountsOnce objects journal a s := by
    have nothing : dropped = [] := by
      rw [none] at lost
      exact List.eq_nil_of_length_eq_zero lost
    rw [← bare.2]
    apply ledger.countsOnce
    intro id member
    have single := ledger.single nothing id member
    rw [pending, idle nothing] at single
    exact single
  refine ⟨journal, dropped, skipped, ?_, ledger.finalized, ledger.progress, lost,
    ledger.duplicates, placed, careful, fun distinct => ⟨fun counted => ?_, careful⟩⟩
  · rw [← bare.2]
    exact ledger.summary
  · -- What was dropped would be taken once more than it is counted.
    have nothing : dropped = [] := by
      refine List.eq_nil_iff_forall_not_mem.mpr fun id member => ?_
      have inside : id ∈ objects.map HistoryObject.id := by
        rw [placed.mem_iff]
        simp [member]
      have twice := placed.count_eq id
      have positive := List.count_pos_iff.mpr member
      rw [List.count_eq_one_of_mem distinct inside, List.count_append, List.count_append,
        List.count_append, counted.once id inside] at twice
      omega
    rw [nothing] at lost
    exact List.eq_nil_of_length_eq_zero lost.symm

def strandedTree : HistoryObject := .tree (.ofNat 2) 33 [.toObject (.ofNat 1)]

/-- A commit that takes a blob for its root tree. -/
def strandingCommit : HistoryObject := .commit (.ofNat 3) 150 (.ofNat 1) []

def sharedBlob : HistoryObject := .blob (.ofNat 1) 9

def strandedHistory : List HistoryObject := [strandedTree, strandingCommit, sharedBlob]

/-- The blob makes both others ready. The commit is taken up first and fails, and the tree stays. -/
theorem serveAll_strandedHistory :
    ∃ b : Assembly, serveAll (fun _ => none) (strandedHistory.map .take) (ofReferences []) =
        (b, [.unexpectedKind (.ofNat 1) (.ofNat 3) [.tree] .blob]) ∧
      b.finish = .ok b.summary ∧ b.summary.objectCount = 1 ∧ b.statistics.finalized = 1 ∧
      b.ready = [strandedTree] := by
  have ids : strandedTree.id = .ofNat 2 ∧ strandingCommit.id = .ofNat 3 ∧
      sharedBlob.id = .ofNat 1 := ⟨rfl, rfl, rfl⟩
  have links : strandedTree.dependencies = [.ofNat 1] ∧
      strandingCommit.dependencies = [.ofNat 1] ∧ sharedBlob.dependencies = [] := by decide
  have apart : ObjectId.ofNat 2 ≠ .ofNat 3 ∧ ObjectId.ofNat 2 ≠ .ofNat 1 ∧
      ObjectId.ofNat 3 ≠ .ofNat 1 := by decide
  have first : empty.accept (fun _ => none) strandedTree = (empty.park strandedTree, none) := by
    apply Accepts.accept_eq (.parked [] empty strandedTree _ _)
    · simp [knows, empty, Shelf.isFinalized, Shelf.empty]
    · simp [unmet, empty, Shelf.isFinalized, Shelf.empty, links]
  let one := empty.park strandedTree
  have second : one.accept (fun _ => none) strandingCommit = (one.park strandingCommit, none) := by
    apply Accepts.accept_eq (.parked [] one strandingCommit _ _)
    · simp [knows, one, park, empty, Shelf.isFinalized, Shelf.empty, ids, apart]
    · simp [unmet, one, park, empty, Shelf.isFinalized, Shelf.empty, links]
  let two := one.park strandingCommit
  let three := ({ two with ready := [] } : Assembly).finalize (fun _ => none) sharedBlob
    (.blob (.ofNat 9))
  let four := { three with
    waiters := three.waiters.erase (.ofNat 1)
    parked := (three.parked.erase (.ofNat 2)).erase (.ofNat 3)
    ready := [strandingCommit, strandedTree] }
  have told : three.announce (.ofNat 1) = (four, none) := by
    have waiters : three.waiters[ObjectId.ofNat 1]? = some #[.ofNat 2, .ofNat 3] := by
      simp [three, finalize, two, one, park, empty, Shelf.isFinalized, Shelf.empty, links, ids,
        unmet, enlist]
    have parked : three.parked[ObjectId.ofNat 2]? = some ⟨strandedTree, 1⟩ ∧
        three.parked[ObjectId.ofNat 3]? = some ⟨strandingCommit, 1⟩ := by
      simp [three, finalize, two, one, park, empty, Shelf.isFinalized, Shelf.empty, links, ids,
        unmet, Std.HashMap.getElem_insert, apart, apart.1.symm]
    simp [announce, waiters, meetAll, meet, parked, Std.HashMap.getElem?_erase, apart, four]
    rfl
  have mismatch : measure four.shelf strandingCommit =
      .error (.unexpectedKind (.ofNat 1) (.ofNat 3) [.tree] .blob) := by
    have held : four.shelf.get? (.ofNat 1) = some (.blob (.ofNat 9)) := by
      simp [four, three, finalize, two, one, park, empty, Shelf.empty, links, ids, Shelf.put,
        Shelf.accepts, Shelf.isFinalized, Shelf.get?]
    simp [strandingCommit, HistoryObject.commit, measure, measureCommit, lookup, Link.toObject, held,
      unexpected]
    rfl
  have third : two.accept (fun _ => none) sharedBlob = ({ four with ready := [strandedTree] },
      some (.unexpectedKind (.ofNat 1) (.ofNat 3) [.tree] .blob)) := by
    refine Accepts.accept_eq (.settled [] two sharedBlob _ _ _ ?_ rfl
      (.next _ _ sharedBlob [] (.blob (.ofNat 9)) four _ _ _ rfl rfl rfl told
        (.failed _ _ strandingCommit [strandedTree] _ rfl rfl mismatch)))
    simp [knows, two, one, park, empty, Shelf.isFinalized, Shelf.empty, ids, apart]
  refine ⟨{ four with ready := [strandedTree] }, ?_, ?_, rfl, rfl, rfl⟩
  · simp [strandedHistory, serveAll, serve, ofReferences, first, one, second, two, third]
  · have nobody : four.parked.isEmpty = true := by
      simp [four, three, finalize, two, one, park, empty, ids, apart, Std.HashMap.size_erase,
        Std.HashMap.size_insert]
    simp [finish, nobody]

theorem finish_after_failures_stranded :
    ∃ (a : Assembly) (failures : List SurveyError) (s : Summary),
      serveAll (fun _ => none) (strandedHistory.map .take) (ofReferences []) = (a, failures) ∧
      a.finish = .ok s ∧
      ∃ (journal : Journal) (dropped skipped : List ObjectId),
        s = journal.summary (Summary.ofReferences []) ∧ dropped.length = failures.length ∧
        (strandedHistory.map HistoryObject.id).Perm
          (journal.ids ++ dropped ++ skipped ++ a.ready.map HistoryObject.id) ∧
        ¬ CountsOnce strandedHistory journal a s := by
  obtain ⟨a, served, fine, _⟩ := serveAll_strandedHistory
  have objects : Request.objects (strandedHistory.map .take) = strandedHistory := rfl
  have all := finish_after_failures (fun _ => none) [] (strandedHistory.map .take)
    (by rw [objects]; decide) a.summary (by rw [served]; exact fine)
  simp only [served, objects] at all
  obtain ⟨journal, dropped, skipped, recorded, _, _, lost, _, placed, _, exactly⟩ := all
  refine ⟨a, _, a.summary, served, fine, journal, dropped, skipped, recorded, lost, placed, ?_⟩
  intro counted
  have never := (exactly (by decide)).mp counted
  contradiction

/-- A tree and a commit are accepted without a failure, and a blob is measured. The summary that is
then given counts one of the three. -/
theorem summary_without_stranded :
    ∃ (a : Assembly) (s : Summary),
      serveAll (fun _ => none) (strandedHistory.map .take) (ofReferences []) =
        (a, [.unexpectedKind (.ofNat 1) (.ofNat 3) [.tree] .blob]) ∧
      a.finish = .ok s ∧ s.objectCount = 1 ∧ a.statistics.finalized = 1 ∧
      (strandedHistory.map HistoryObject.id).dedup.length = 3 := by
  obtain ⟨a, served, fine, one, measured, _⟩ := serveAll_strandedHistory
  exact ⟨a, a.summary, served, fine, one, measured, by decide⟩

end Assembly

end HistorySurvey
