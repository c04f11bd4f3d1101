import HistorySurvey.Proofs.Journal

/-! What an assembly knows, told by its journal: the shelf, the summary and the counts follow from
the objects measured so far, and every accepted object is measured, ready or parked. Measuring one
object and accepting one object keep the account, and so does every run without a failure. -/
namespace HistorySurvey

/-- A shelf has a place for every measured object, as its uses leave it. -/
def Journal.Shelved (hints : Hints) (journal : Journal) (s : Shelf) : Prop :=
  ∀ id, s.places[id]? = (journal.measure? id).map fun m =>
    Shelf.placeAfter (hints id) m (journal.uses id)

namespace Journal

variable {hints : Hints} {journal : Journal} {s : Shelf}

theorem Shelved.isFinalized_iff (shelved : journal.Shelved hints s) (id : ObjectId) :
    s.isFinalized id = true ↔ id ∈ journal.ids := by
  rw [Shelf.isFinalized_iff, shelved, ← measure?_isSome_iff]
  cases journal.measure? id <;> simp

theorem Shelved.isFinalized_eq_false_iff (shelved : journal.Shelved hints s) (id : ObjectId) :
    s.isFinalized id = false ↔ id ∉ journal.ids := by
  rw [← shelved.isFinalized_iff, Bool.not_eq_true]

theorem Shelved.get?_eq (shelved : journal.Shelved hints s) (id : ObjectId) :
    s.get? id = (journal.measure? id).bind fun m =>
      if ∀ n, hints id = some n → journal.uses id < n then some m else none := by
  rw [Shelf.get?, shelved]
  cases journal.measure? id with
  | none => rfl
  | some m => exact Shelf.measure_placeAfter (hints id) m (journal.uses id)

theorem Shelved.measure?_of_get? (shelved : journal.Shelved hints s) {id : ObjectId} {m : Measure}
    (held : s.get? id = some m) : journal.measure? id = some m := by
  rw [shelved.get?_eq, Option.bind_eq_some_iff] at held
  obtain ⟨n, found, kept⟩ := held
  split at kept
  · rw [found, kept]
  · contradiction

theorem Shelved.get?_eq_measure? (shelved : journal.Shelved hints s) {id : ObjectId}
    (enough : ∀ n, hints id = some n → journal.uses id < n) : s.get? id = journal.measure? id := by
  rw [shelved.get?_eq]
  cases journal.measure? id with
  | none => rfl
  | some m => exact if_pos enough

theorem shelved_empty (hints : Hints) : Shelved hints [] Shelf.empty :=
  fun id => Shelf.places_empty id

theorem Shelved.cons (shelved : journal.Shelved hints s) (justified : journal.Justified)
    {object : HistoryObject} (fresh : object.id ∉ journal.ids) (m : Measure) :
    Shelved hints ((object, m) :: journal)
      (object.dependencies.foldl Shelf.consume (s.put object.id m (hints object.id))) := by
  have new := (shelved.isFinalized_eq_false_iff object.id).mpr fresh
  intro id
  rw [measure?_cons, uses_cons]
  by_cases same : object.id = id
  · subst same
    rw [if_pos rfl, Option.map_some, justified.uses_eq_zero fresh, Nat.add_comm]
    exact Shelf.places_consumeAll _ _ _ _ m 0 (by rw [Shelf.places_put new, if_pos rfl])
  · -- The uses of an older measure go on from where they were.
    rw [if_neg same]
    have before : (s.put object.id m (hints object.id)).places[id]? = s.places[id]? := by
      rw [Shelf.places_put new, if_neg same]
    cases found : journal.measure? id with
    | some x =>
      rw [Option.map_some, Nat.add_comm]
      exact Shelf.places_consumeAll _ _ _ _ x _ (by rw [before, shelved, found]; rfl)
    | none =>
      have absent : Shelf.isFinalized (object.dependencies.foldl Shelf.consume
          (s.put object.id m (hints object.id))) id = false := by
        rw [Shelf.isFinalized_consumeAll, Shelf.isFinalized_put, Bool.or_eq_false_iff,
          shelved.isFinalized_eq_false_iff, ← measure?_isSome_iff, found]
        simpa using same
      exact Std.HashMap.getElem?_eq_none_of_contains_eq_false absent

theorem Justified.measured (justified : journal.Justified) (shelved : journal.Shelved hints s)
    {object : HistoryObject} {m : Measure} (fresh : object.id ∉ journal.ids)
    (dependencies : ∀ child ∈ object.dependencies, child ∈ journal.ids)
    (measured : Assembly.measure s object = .ok m) : Justified ((object, m) :: journal) := by
  obtain ⟨present, fits, combined⟩ := (Assembly.measure_ok_iff s object m).mp measured
  refine .cons object m journal fresh dependencies (fun child member => ?_) (fits.mono ?_) ?_
    justified
  · exact (shelved.isFinalized_iff child).mp (Shelf.isFinalized_of_get? (present child member))
  · intro id _ kind known
    obtain ⟨x, held, named⟩ := Option.map_eq_some_iff.mp known
    rw [kindOf, shelved.measure?_of_get? held, Option.map_some, named]
  · rw [combined]
    refine Reference.combine_congr fun child member => ?_
    obtain ⟨x, held⟩ := Option.isSome_iff_exists.mp (present child member)
    rw [Shelf.figure, figure, held, shelved.measure?_of_get? held]

/-- The summary of the measured objects, on top of what was there before. -/
def summary (start : Summary) (journal : Journal) : Summary :=
  journal.foldr (fun entry s => s.record entry.1 entry.2) start

end Journal

/-- A summary of references alone. -/
def Summary.ofReferences (references : List String) : Summary :=
  references.foldl Summary.recordReference Summary.empty

namespace Assembly
open ObjectStream

/-- An assembly before its first object. -/
def ofReferences (references : List String) : Assembly :=
  references.foldl Assembly.recordReference Assembly.empty

/-- An assembly that has accepted a list of objects without a failure, and measured those of its
journal. -/
structure Accounted (hints : Hints) (start : Summary) (accepted : List HistoryObject)
    (journal : Journal) (a : Assembly) : Prop where
  balanced : Balanced [] a
  justified : journal.Justified
  shelved : journal.Shelved hints a.shelf
  counted : a.shelf.Counted
  summary : a.summary = journal.summary start
  finalized : a.statistics.finalized = journal.length
  progress : a.progress = journal.length
  duplicates : a.statistics.duplicates + (firstOccurrences accepted).length = accepted.length
  fresh : a.Fresh
  members : ∀ object, object ∈ firstOccurrences accepted ↔
    object ∈ journal.objects ∨ a.Outstanding object
  running : a.cancelled = false

variable {hints : Hints} {start : Summary} {accepted : List HistoryObject} {journal : Journal}
  {a : Assembly}

theorem Accounted.mem_journal (accounted : Accounted hints start accepted journal a)
    {object : HistoryObject} (member : object ∈ firstOccurrences accepted)
    (measured : object.id ∈ journal.ids) : object ∈ journal.objects := by
  obtain ⟨other, inside, same⟩ := Journal.exists_of_mem_ids measured
  have distinct := (accounted.members other).mpr (.inl inside)
  rw [← firstOccurrences_injective distinct member same]
  exact inside

theorem Accounted.mem_accepted (accounted : Accounted hints start accepted journal a)
    {id : ObjectId} (measured : id ∈ journal.ids) : id ∈ accepted.map HistoryObject.id := by
  obtain ⟨object, inside, rfl⟩ := Journal.exists_of_mem_ids measured
  have distinct := (accounted.members object).mpr (.inl inside)
  exact List.mem_map_of_mem (mem_of_mem_firstOccurrences distinct)

theorem Accounted.ready_new (accounted : Accounted hints start accepted journal a)
    {object : HistoryObject} {rest : List HistoryObject} (ready : a.ready = object :: rest) :
    object.id ∉ journal.ids ∧ ∀ child ∈ object.dependencies, child ∈ journal.ids := by
  have first := mem_ready ready
  have new := (accounted.shelved.isFinalized_eq_false_iff object.id).mp
    (accounted.fresh.2 object first)
  refine ⟨new, fun child member => ?_⟩
  have met := (accounted.balanced.ready object first).1
  rw [unmet_eq_nil_iff] at met
  exact (accounted.shelved.isFinalized_iff child).mp (met child member)

/-- Measuring a ready object never fails to tell those who wait, and keeps the account. -/
theorem Accounted.measured (accounted : Accounted hints start accepted journal a)
    {object : HistoryObject} {rest : List HistoryObject} (ready : a.ready = object :: rest)
    {m : Measure} (measured : measure a.shelf object = .ok m) {b : Assembly}
    {outcome : Option SurveyError}
    (announced : ({ a with ready := rest }.finalize hints object m).announce object.id =
      (b, outcome)) :
    outcome = none ∧ Accounted hints start accepted ((object, m) :: journal) b := by
  obtain ⟨new, dependencies⟩ := accounted.ready_new ready
  obtain ⟨w, c, told, balanced, moved⟩ := accounted.balanced.announce_finalize ready hints m
  rw [announced] at told
  obtain ⟨rfl, rfl⟩ := Prod.mk.inj told
  have shelf : b.shelf = object.dependencies.foldl Shelf.consume
      (a.shelf.put object.id m (hints object.id)) := by rw [moved.frame]; rfl
  have stack := accounted.fresh
  rw [Fresh, ready, List.map_cons, List.nodup_cons, List.forall_mem_cons] at stack
  refine ⟨rfl, ?_⟩
  constructor
  · exact balanced
  · exact accounted.justified.measured accounted.shelved new dependencies measured
  · rw [shelf]
    exact accounted.shelved.cons accounted.justified new m
  · rw [shelf]
    exact (accounted.counted.put object.id m _).consumeAll _
  · rw [moved.frame]
    exact congrArg (·.record object m) accounted.summary
  · rw [moved.frame]
    exact congrArg (· + 1) accounted.finalized
  · rw [moved.frame]
    exact congrArg (· + 1) accounted.progress
  · rw [moved.frame]
    exact accounted.duplicates
  · refine moved.fresh ⟨stack.1.2, fun other member => ?_⟩
    change Shelf.isFinalized (finalize hints { a with ready := rest } object m).shelf other.id =
      false
    rw [isFinalized_finalize, Bool.or_eq_false_iff, beq_eq_false_iff_ne]
    exact ⟨stack.2.2 other member, fun same => stack.1.1 (same ▸ List.mem_map_of_mem member)⟩
  · intro other
    rw [accounted.members, moved.outstanding]
    simp only [Outstanding, ready, Journal.objects, List.map_cons, List.mem_cons]
    constructor
    · rintro (before | (same | waiting) | parked)
      · exact .inl (.inr before)
      · exact .inl (.inl same)
      · exact .inr (.inl waiting)
      · exact .inr (.inr parked)
    · rintro ((same | before) | waiting | parked)
      · exact .inr (.inl (.inl same))
      · exact .inl before
      · exact .inr (.inl (.inr waiting))
      · exact .inr (.inr parked)
  · rw [moved.frame]
    exact accounted.running

/-- How a step may end: with nothing ready and the account kept, or at a ready object that cannot
be measured, which is dropped. -/
def Ended (hints : Hints) (start : Summary) (accepted : List HistoryObject) (final : Journal)
    (b : Assembly) : Option SurveyError → Prop
  | none => Accounted hints start accepted final b ∧ b.ready = []
  | some error => ∃ c object rest, Accounted hints start accepted final c ∧
      c.ready = object :: rest ∧ measure c.shelf object = .error error ∧
      b = { c with ready := rest }

theorem Settles.accounted {final : Journal} {b : Assembly} {outcome : Option SurveyError}
    (settles : Settles hints journal a final b outcome)
    (accounted : Accounted hints start accepted journal a) :
    Ended hints start accepted final b outcome := by
  induction settles with
  | idle journal a nothing => exact ⟨accounted, nothing⟩
  | halted journal a object rest ready cancelled =>
    rw [accounted.running] at cancelled
    contradiction
  | failed journal a object rest error ready running measured =>
    exact ⟨a, object, rest, accounted, ready, measured, rfl⟩
  | lost journal a object rest m b error ready running measured announced =>
    have none := (accounted.measured ready measured announced).1
    contradiction
  | next journal a object rest m b final c outcome ready running measured announced _ ih =>
    exact ih (accounted.measured ready measured announced).2

/-! Accepting an object. -/

/-- With nothing ready, exactly the accepted ids are known. -/
theorem Accounted.knows_iff (accounted : Accounted hints start accepted journal a)
    (idle : a.ready = []) (id : ObjectId) :
    a.knows id = true ↔ id ∈ accepted.map HistoryObject.id := by
  rw [knows, Bool.or_eq_true, accounted.shelved.isFinalized_iff, contains_parked_iff,
    ← ids_firstOccurrences]
  constructor
  · rintro (measured | ⟨entry, found⟩)
    · exact (ids_firstOccurrences accepted id).mpr (accounted.mem_accepted measured)
    · have named := (accounted.balanced.parked id entry found).1
      refine List.mem_map.mpr ⟨entry.object, (accounted.members _).mpr (.inr (.inr ?_)), named⟩
      exact ⟨entry.missing, by rw [named, found]⟩
  · intro member
    obtain ⟨object, distinct, rfl⟩ := List.mem_map.mp member
    rcases (accounted.members object).mp distinct with measured | ready | ⟨missing, found⟩
    · exact .inl (Journal.mem_ids measured)
    · rw [idle] at ready
      contradiction
    · exact .inr ⟨_, found⟩

private theorem Accounted.skip (accounted : Accounted hints start accepted journal a)
    {object : HistoryObject} (seen : object.id ∈ accepted.map HistoryObject.id) :
    Accounted hints start (accepted ++ [object]) journal
      { a with statistics :=
        { a.statistics with duplicates := a.statistics.duplicates + 1 } } := by
  have same : firstOccurrences (accepted ++ [object]) = firstOccurrences accepted := by
    rw [firstOccurrences_concat, if_pos seen]
  refine { accounted with balanced := ?_, duplicates := ?_, members := ?_ }
  · exact { accounted.balanced with }
  · have before := accounted.duplicates
    rw [same, List.length_append, List.length_singleton]
    simp only
    omega
  · rw [same]
    exact accounted.members

private theorem duplicates_concat {object : HistoryObject} {duplicates : Nat}
    (before : duplicates + (firstOccurrences accepted).length = accepted.length)
    (new : object.id ∉ accepted.map HistoryObject.id) :
    duplicates + (firstOccurrences (accepted ++ [object])).length =
      (accepted ++ [object]).length := by
  rw [firstOccurrences_concat, if_neg new, List.length_append, List.length_append,
    ← Nat.add_assoc, before]

theorem Accounted.push (accounted : Accounted hints start accepted journal a)
    (idle : a.ready = []) {object : HistoryObject} (new : a.knows object.id = false)
    (met : unmet a.shelf object = []) :
    Accounted hints start (accepted ++ [object]) journal { a with ready := object :: a.ready } := by
  have unseen : object.id ∉ accepted.map HistoryObject.id := by
    rw [← accounted.knows_iff idle, new]
    exact Bool.false_ne_true
  refine { accounted with
    balanced := accounted.balanced.accept_ready new met
    duplicates := duplicates_concat accounted.duplicates unseen
    fresh := ?_
    members := ?_ }
  · simp only [Fresh, idle, List.map_cons, List.map_nil, List.forall_mem_singleton]
    exact ⟨List.nodup_singleton _, ((knows_eq_false_iff a object.id).mp new).1⟩
  · intro other
    rw [firstOccurrences_concat, if_neg unseen, List.mem_append, List.mem_singleton,
      accounted.members]
    simp only [Outstanding, idle, List.mem_cons, List.not_mem_nil, false_or, or_false]
    rw [or_assoc, or_comm (a := ∃ missing, _)]

private theorem Accounted.park (accounted : Accounted hints start accepted journal a)
    (idle : a.ready = []) {object : HistoryObject} (new : a.knows object.id = false)
    (missing : unmet a.shelf object ≠ []) :
    Accounted hints start (accepted ++ [object]) journal (a.park object) := by
  have unseen : object.id ∉ accepted.map HistoryObject.id := by
    rw [← accounted.knows_iff idle, new]
    exact Bool.false_ne_true
  have outside := ((knows_eq_false_iff a object.id).mp new).2
  refine { accounted with
    balanced := accounted.balanced.park new missing (by simp [idle])
    duplicates := duplicates_concat accounted.duplicates unseen
    members := ?_ }
  intro other
  rw [firstOccurrences_concat, if_neg unseen, List.mem_append, List.mem_singleton,
    accounted.members]
  simp only [Outstanding, Assembly.park, idle, List.not_mem_nil, false_or,
    Std.HashMap.getElem?_insert, beq_iff_eq, or_assoc]
  refine or_congr Iff.rfl ?_
  by_cases same : object.id = other.id
  · rw [if_pos same, ← same, outside]
    constructor
    · rintro (⟨count, found⟩ | rfl)
      · contradiction
      · exact ⟨_, rfl⟩
    · rintro ⟨count, found⟩
      exact .inr (congrArg Parked.object (Option.some.inj found)).symm
  · rw [if_neg same]
    exact or_iff_left fun equal => same (congrArg HistoryObject.id equal.symm)

theorem Accepts.accounted {object : HistoryObject} {final : Journal} {b : Assembly}
    {outcome : Option SurveyError} (accepts : Accepts hints journal a object final b outcome)
    (accounted : Accounted hints start accepted journal a) (idle : a.ready = []) :
    Ended hints start (accepted ++ [object]) final b outcome := by
  cases accepts with
  | known known =>
    exact ⟨accounted.skip ((accounted.knows_iff idle object.id).mp known), idle⟩
  | parked new missing => exact ⟨accounted.park idle new missing, idle⟩
  | settled _ _ _ new met settles => exact settles.accounted (accounted.push idle new met)

private theorem foldl_recordReference (references : List String) (a : Assembly) :
    references.foldl Assembly.recordReference a =
      { a with summary := references.foldl Summary.recordReference a.summary } := by
  induction references generalizing a with
  | nil => rfl
  | cons reference rest ih => exact ih (a.recordReference reference)

theorem ofReferences_eq (references : List String) :
    ofReferences references = { empty with summary := Summary.ofReferences references } :=
  foldl_recordReference references empty

theorem ready_ofReferences (references : List String) : (ofReferences references).ready = [] := by
  rw [ofReferences_eq]
  rfl

theorem accounted_start (hints : Hints) (references : List String) :
    Accounted hints (Summary.ofReferences references) [] [] (ofReferences references) := by
  rw [ofReferences_eq]
  constructor
  case balanced =>
    constructor
    · intro child id
      simp [waiting, parkedLinks, Assembly.empty]
    · intro child present
      simp [Assembly.empty] at present
    · intro id entry found
      simp [Assembly.empty] at found
    · intro id member
      contradiction
    · intro object member
      contradiction
  case justified => exact .nil
  case shelved => exact Journal.shelved_empty hints
  case counted => exact Shelf.counted_empty
  case fresh => exact ⟨List.nodup_nil, fun object member => by contradiction⟩
  case members => intro object; simp [Journal.objects, Outstanding, Assembly.empty]
  all_goals rfl

theorem Runs.accounted {objects : List HistoryObject} {final : Journal} {b : Assembly}
    (runs : Runs hints journal a objects final b)
    (accounted : Accounted hints start accepted journal a) (idle : a.ready = []) :
    Accounted hints start (accepted ++ objects) final b ∧ b.ready = [] := by
  induction runs generalizing accepted with
  | nil journal a =>
    rw [List.append_nil]
    exact ⟨accounted, idle⟩
  | cons journal a object between b rest final c accepts _ ih =>
    obtain ⟨next, quiet⟩ := accepts.accounted accounted idle
    have all := ih next quiet
    rw [List.append_assoc] at all
    exact all

theorem accounted_of_acceptAll (references : List String) {objects : List HistoryObject}
    {b : Assembly}
    (accepted : Survey.acceptAll hints objects (ofReferences references) = (b, none)) :
    ∃ journal, Runs hints [] (ofReferences references) objects journal b ∧
      Accounted hints (Summary.ofReferences references) objects journal b ∧ b.ready = [] := by
  obtain ⟨journal, runs⟩ := runs_of_acceptAll [] accepted
  have all := runs.accounted (accounted_start hints references) (ready_ofReferences references)
  exact ⟨journal, runs, all⟩

/-- A run fails only because an object cannot be measured whose dependencies all are. -/
theorem Accounted.acceptAll_error (accounted : Accounted hints start accepted journal a)
    (idle : a.ready = []) {objects : List HistoryObject} {b : Assembly} {error : SurveyError}
    (failed : Survey.acceptAll hints objects a = (b, some error)) :
    ∃ taken, taken <+: objects ∧ ∃ final c next rest,
      Accounted hints start (accepted ++ taken) final c ∧ c.ready = next :: rest ∧
      measure c.shelf next = .error error ∧ b = { c with ready := rest } := by
  induction objects generalizing accepted journal a with
  | nil => simp [Survey.acceptAll] at failed
  | cons object others ih =>
    obtain ⟨between, accepts⟩ := accepts_accept hints journal a object
    have step := accepts.accounted accounted idle
    rw [Survey.acceptAll] at failed
    cases stepped : a.accept hints object with
    | mk d outcome =>
      rw [stepped] at failed step
      cases outcome with
      | some problem =>
        obtain ⟨rfl, same⟩ := Prod.mk.inj failed
        obtain rfl := Option.some.inj same
        obtain ⟨c, next, rest, kept, ready, measured, left⟩ := step
        exact ⟨[object], List.prefix_append [object] others, between, c, next, rest, kept, ready,
          measured, left⟩
      | none =>
        obtain ⟨kept, quiet⟩ := step
        obtain ⟨taken, first, final, c, next, rest, more⟩ := ih kept quiet failed
        refine ⟨object :: taken, List.cons_prefix_cons.mpr ⟨rfl, first⟩, final, c, next, rest, ?_⟩
        rw [List.append_assoc] at more
        exact more

/-! How a survey ends. -/

theorem finish_eq_ok_iff (a : Assembly) (s : Summary) :
    a.finish = .ok s ↔ a.parked.isEmpty = true ∧ a.summary = s := by
  unfold finish
  cases a.parked.isEmpty with
  | true => simp
  | false =>
    simp only [Bool.false_eq_true, if_false, false_and, iff_false]
    split <;> simp

/-- A survey ends well if every distinct object was measured. -/
theorem Accounted.finish_ok_iff (accounted : Accounted hints start accepted journal a)
    (idle : a.ready = []) (s : Summary) :
    a.finish = .ok s ↔
      (∀ object ∈ firstOccurrences accepted, object.id ∈ journal.ids) ∧ s = a.summary := by
  -- Nothing is ready, so what is not measured is parked.
  have empty : a.parked.isEmpty = true ↔
      ∀ object ∈ firstOccurrences accepted, object.id ∈ journal.ids := by
    rw [Std.HashMap.isEmpty_iff_forall_not_mem]
    constructor
    · intro none object distinct
      rcases (accounted.members object).mp distinct with measured | ready | ⟨missing, found⟩
      · exact Journal.mem_ids measured
      · rw [idle] at ready
        contradiction
      · exact absurd ((contains_parked_iff a object.id).mpr ⟨_, found⟩) (none object.id)
    · intro all id member
      obtain ⟨entry, found⟩ := (contains_parked_iff a id).mp member
      obtain ⟨named, new, _⟩ := accounted.balanced.parked id entry found
      have distinct : entry.object ∈ firstOccurrences accepted :=
        (accounted.members entry.object).mpr (.inr (.inr ⟨entry.missing, by rw [named, found]⟩))
      have measured := all entry.object distinct
      rw [named, ← accounted.shelved.isFinalized_iff, new] at measured
      contradiction
  exact (finish_eq_ok_iff a s).trans (and_congr empty eq_comm)

theorem run_of_acceptAll (stream : ObjectStream) {b : Assembly} (unfailing : stream.failure = none)
    (accepted : Survey.acceptAll stream.hints stream.objects (ofReferences stream.references) =
      (b, none)) : (Survey.run stream none).result = b.finish := by
  have whole : Survey.accepted stream none = stream.objects := rfl
  have never : Survey.interruption stream none = none := by rw [Survey.interruption, unfailing]; rfl
  unfold Survey.run
  dsimp only
  rw [ofReferences] at accepted
  rw [whole, never, accepted]

theorem accepted_of_uninterrupted {stream : ObjectStream} {stopAfter : Option Nat}
    (whole : Survey.interruption stream stopAfter = none) :
    Survey.accepted stream stopAfter = stream.objects ∧ stream.failure = none := by
  unfold Survey.interruption at whole
  unfold Survey.accepted
  cases stopAfter with
  | none => exact ⟨rfl, Option.map_eq_none_iff.mp whole⟩
  | some calls =>
    simp only at whole ⊢
    split at whole
    · contradiction
    · rename_i enough
      exact ⟨List.take_of_length_le (Nat.not_lt.mp enough), Option.map_eq_none_iff.mp whole⟩

/-- A survey gives a summary only if all objects were accepted and none is left. -/
theorem finish_of_stream {stream : ObjectStream} {stopAfter : Option Nat} {s : Summary}
    (fine : (Survey.run stream stopAfter).result = .ok s) :
    (Survey.accepted stream stopAfter = stream.objects ∧ stream.failure = none) ∧
    ∃ b, Survey.acceptAll stream.hints stream.objects (ofReferences stream.references) = (b, none) ∧
      b.finish = .ok s := by
  unfold Survey.run at fine
  simp only at fine
  split at fine
  · contradiction
  · contradiction
  · rename_i accepted whole
    have all := accepted_of_uninterrupted whole
    rw [all.1] at accepted fine
    exact ⟨all, _, Prod.ext rfl accepted, fine⟩

private theorem objects_of_unfailing {objects : List HistoryObject} {references : List String}
    {limit : Option Nat} (unfailing : (ofList objects references limit).failure = none) :
    (ofList objects references limit).objects = objects := by
  cases limit with
  | none => rfl
  | some limit =>
    simp only [ofList, Option.bind_some, Option.map_eq_none_iff,
      List.getElem?_eq_none_iff] at unfailing
    exact List.take_of_length_le unfailing

theorem finish_of_run {objects : List HistoryObject} {references : List String}
    {limit stopAfter : Option Nat} {s : Summary}
    (fine : (Survey.run (ofList objects references limit) stopAfter).result = .ok s) :
    Survey.accepted (ofList objects references limit) stopAfter = objects ∧
    ∃ b, Survey.acceptAll (countedLinks (linkCounts objects)) objects (ofReferences references) =
        (b, none) ∧ b.finish = .ok s := by
  obtain ⟨⟨all, unfailing⟩, finished⟩ := finish_of_stream fine
  have whole := objects_of_unfailing unfailing
  rw [whole] at all finished
  exact ⟨all, finished⟩

end Assembly

end HistorySurvey
