import HistorySurvey.Proofs.Diagnosis
import HistorySurvey.Proofs.Interruption
import HistorySurvey.Proofs.Portrait
import HistorySurvey.Proofs.Release
import HistorySurvey.Proofs.Walking

/-! Surveys of repositories. A walk reads just what its references lead to, so no object is missing
in a survey of it. -/
namespace HistorySurvey

namespace Assembly
open ObjectStream Dependency

theorem interruption_eq {stream : ObjectStream} {stopAfter : Option Nat} {error : SurveyError}
    (stopped : Survey.interruption stream stopAfter = some error) :
    error = .cancelled ∨ ∃ cause, error = .source cause := by
  have source (failed : stream.failure.map SurveyError.source = some error) :
      ∃ cause, error = .source cause := by
    obtain ⟨cause, _, rfl⟩ := Option.map_eq_some_iff.mp failed
    exact ⟨cause, rfl⟩
  unfold Survey.interruption at stopped
  split at stopped
  · split at stopped
    · exact .inl (Option.some.inj stopped).symm
    · exact .inr (source stopped)
  · exact .inr (source stopped)

/-- If a stream that does not fail hands out all that its objects depend on, no object is missing. -/
theorem run_ne_missing {stream : ObjectStream} (complete : stream.failure = none → Closed stream.objects)
    (stopAfter : Option Nat) (id parent : ObjectId) :
    (Survey.run stream stopAfter).result ≠ .error (.missingObject id parent) := by
  intro missing
  rw [run_eq] at missing
  cases accepted : Survey.acceptAll stream.hints (Survey.accepted stream stopAfter)
      (ofReferences stream.references) with
  | mk b outcome =>
    rw [accepted] at missing
    cases outcome with
    | some error =>
      -- An object was not accepted, so it could not be measured.
      obtain rfl := Except.error.inj missing
      obtain ⟨_, _, _, _, _, _, _, _, failed, _⟩ :=
        (accounted_start stream.hints stream.references).acceptAll_error
          (ready_ofReferences stream.references) accepted
      rcases (measure_error failed).1 with ⟨_, wrong⟩ | ⟨_, _, _, wrong⟩ | ⟨_, wrong⟩ <;> contradiction
    | none =>
      dsimp only at missing
      cases stopped : Survey.interruption stream stopAfter with
      | some error =>
        rw [stopped] at missing
        obtain rfl := Except.error.inj missing
        rcases interruption_eq stopped with wrong | ⟨_, wrong⟩ <;> contradiction
      | none =>
        -- All were accepted, so the end of the assembly tells, and nobody waits for an absent object.
        rw [stopped] at missing
        obtain ⟨whole, unfailing⟩ := accepted_of_uninterrupted stopped
        obtain ⟨journal, runs, accounted, idle⟩ :=
          accounted_of_acceptAll stream.references accepted
        have queued : Queued (Survey.accepted stream stopAfter) b :=
          runs.queued (accounted_start _ stream.references) (ready_ofReferences stream.references)
            (queued_ofReferences stream.references)
        have closed := complete unfailing
        rw [← whole] at closed
        change b.finish = _ at missing
        rw [accounted.finish_of_closed idle queued closed] at missing
        split at missing <;> simp at missing

end Assembly

namespace Git
open ObjectStream Dependency Assembly

variable {store : Store} {roots : Set ObjectId} {objects : List HistoryObject}

/-- Just the objects that can be reached, in any order, each as it is stored and with any name. -/
structure Mirrors (store : Store) (roots : Set ObjectId) (objects : List HistoryObject) : Prop where
  ids : ∀ id, id ∈ objects.map HistoryObject.id ↔ Reachable store roots id
  stored : ∀ object ∈ objects, ∃ stored, store[object.id]? = some stored ∧
    stored.describe? object.id = some { object with name := none }

theorem Mirrors.portrait (mirrors : Mirrors store roots objects) : Portrait store roots objects := by
  refine ⟨mirrors.ids, fun object member => ?_⟩
  obtain ⟨stored, found, described⟩ := mirrors.stored object member
  exact ⟨stored, _, found, described, rfl, rfl, rfl, .inl rfl⟩

theorem Mirrors.exists_summary (mirrors : Mirrors store roots objects) (intact : Intact store roots)
    (few : FewLinks objects) (references : List String) :
    ∃ s, (Survey.run (ofList objects references none) none).result = .ok s := by
  rw [run_withoutHints objects references none none few mirrors.portrait.followed]
  exact mirrors.portrait.exists_summary intact rfl rfl

/-- The second id is listed, after the first. -/
def Onward (objects : List HistoryObject) (source target : ObjectId) : Prop :=
  target ∈ objects.map HistoryObject.id ∧
    (objects.map HistoryObject.id).idxOf source < (objects.map HistoryObject.id).idxOf target

instance (objects : List HistoryObject) (source target : ObjectId) :
    Decidable (Onward objects source target) :=
  inferInstanceAs (Decidable (_ ∧ _))

/-- What is stored, listed so that each object leads only to later ones and none but a root comes
without one that leads to it. -/
structure Listed (store : Store) (roots : Set ObjectId) (objects : List HistoryObject) : Prop where
  stored : ∀ object ∈ objects, ∃ stored, store[object.id]? = some stored ∧
    stored.describe? object.id = some { object with name := none }
  rooted : ∀ root ∈ roots, root ∈ objects.map HistoryObject.id
  onward : ∀ object ∈ objects, ∀ child ∈ object.followed, Onward objects object.id child
  reached : ∀ object ∈ objects,
    object.id ∈ roots ∨ ∃ source ∈ objects, object.id ∈ source.followed

namespace Listed

theorem leads_iff (listed : Listed store roots objects) {object : HistoryObject}
    (member : object ∈ objects) (target : ObjectId) :
    Leads store object.id target ↔ target ∈ object.followed := by
  obtain ⟨stored, found, described⟩ := listed.stored object member
  have follows := StoredObject.followed_of_describe? described
  change object.followed = _ at follows
  rw [follows]
  constructor
  · rintro ⟨other, also, inside⟩
    obtain rfl := Option.some.inj (found.symm.trans also)
    exact inside
  · exact fun inside => ⟨stored, found, inside⟩

theorem leads_onward (listed : Listed store roots objects) {source target : ObjectId}
    (member : source ∈ objects.map HistoryObject.id) (leads : Leads store source target) :
    Onward objects source target := by
  obtain ⟨object, inside, rfl⟩ := List.mem_map.mp member
  exact listed.onward object inside target ((listed.leads_iff inside target).mp leads)

theorem reachable (listed : Listed store roots objects) {object : HistoryObject}
    (member : object ∈ objects) : Reachable store roots object.id := by
  -- What leads to an object comes before it in the list.
  induction place : (objects.map HistoryObject.id).idxOf object.id using Nat.strongRecOn
    generalizing object with
  | ind place ih =>
    rcases listed.reached object member with root | ⟨source, before, followed⟩
    · exact .root root
    · have less := (listed.onward source before _ followed).2
      exact (ih _ (place ▸ less) before rfl).tail ((listed.leads_iff before _).mpr followed)

theorem mirrors (listed : Listed store roots objects) : Mirrors store roots objects := by
  refine ⟨fun id => ⟨fun member => ?_, ?_⟩, listed.stored⟩
  · obtain ⟨object, inside, rfl⟩ := List.mem_map.mp member
    exact listed.reachable inside
  · rintro ⟨root, chosen, way⟩
    induction way with
    | refl => exact listed.rooted root chosen
    | tail _ leads before => exact (listed.leads_onward before leads).1

theorem way_onward (listed : Listed store roots objects) {first last : ObjectId}
    (member : first ∈ objects.map HistoryObject.id)
    (way : Relation.TransGen (Leads store) first last) : Onward objects first last := by
  induction way with
  | single leads => exact listed.leads_onward member leads
  | tail _ leads ih =>
    obtain ⟨inside, less⟩ := listed.leads_onward ih.1 leads
    exact ⟨inside, ih.2.trans less⟩

theorem intact (listed : Listed store roots objects)
    (fits : ∀ object ∈ objects, ∀ stored, store[object.id]? = some stored →
      ∀ lead ∈ stored.leads, ∃ target ∈ objects, target.id = lead.1 ∧ target.kind = lead.2) :
    Intact store roots := by
  have known {id : ObjectId} (reachable : Reachable store roots id) :
      id ∈ objects.map HistoryObject.id := (listed.mirrors.ids id).mpr reachable
  refine ⟨fun id reachable => ?_, fun id reachable stored found lead leads other there => ?_,
    fun id reachable cycle => Nat.lt_irrefl _ (listed.way_onward (known reachable) cycle).2⟩
  · obtain ⟨object, member, rfl⟩ := List.mem_map.mp (known reachable)
    obtain ⟨stored, found, described⟩ := listed.stored object member
    exact ⟨stored, _, found, described⟩
  · obtain ⟨object, member, rfl⟩ := List.mem_map.mp (known reachable)
    obtain ⟨target, inside, same, kind⟩ := fits object member stored found lead leads
    obtain ⟨content, also, described⟩ := listed.stored target inside
    rw [same, there] at also
    obtain rfl := Option.some.inj also
    exact (StoredObject.frame_of_describe? described).2.1.symm.trans kind

end Listed

namespace Walk
variable {w last : Walk} {calls : List (ObjectId × Option HistoryObject)}

/-- What there is to say of the calls of a walk. Each is for another id that can be reached, also
where it fails, and at the end none is left of those that what was read leads to. -/
structure Exact (store : Store) (roots : Set ObjectId)
    (calls : List (ObjectId × Option HistoryObject)) (last : Walk) : Prop where
  bounded : calls.length ≤ {id | Reachable store roots id}.ncard
  distinct : (called calls).Nodup
  reachable : ∀ id ∈ called calls, Reachable store roots id
  within : ((produced calls).map HistoryObject.id).Sublist (called calls)
  unfailing : (∀ call ∈ calls, call.2 ≠ none) → (produced calls).map HistoryObject.id = called calls
  exhaustive : last.next = .ok none → ∀ id, id ∈ called calls ↔ Traced roots (produced calls) id

private theorem ids_of_named (named : ∀ id object, (id, some object) ∈ calls → object.id = id) :
    ((produced calls).map HistoryObject.id).Sublist (called calls) ∧
    ((∀ call ∈ calls, call.2 ≠ none) → (produced calls).map HistoryObject.id = called calls) := by
  induction calls with
  | nil => exact ⟨.slnil, fun _ => rfl⟩
  | cons call rest ih =>
    obtain ⟨within, whole⟩ := ih fun id object member =>
      named id object (List.mem_cons_of_mem _ member)
    obtain ⟨id, _ | object⟩ := call
    · exact ⟨within.cons id, fun read => absurd rfl (read _ List.mem_cons_self)⟩
    · obtain rfl := named id object List.mem_cons_self
      refine ⟨within.cons_cons object.id, fun read => ?_⟩
      exact congrArg (object.id :: ·) (whole fun call member => read call (List.mem_cons_of_mem _ member))

theorem Walked.ids_produced (walked : Walked store roots calls last) :
    ((produced calls).map HistoryObject.id).Sublist (called calls) ∧
    ((∀ call ∈ calls, call.2 ≠ none) → (produced calls).map HistoryObject.id = called calls) :=
  ids_of_named fun id object member => (walked.made id object member).1

theorem Walked.exact (walked : Walked store roots calls last) (finite : roots.Finite) :
    Exact store roots calls last := by
  obtain ⟨within, whole⟩ := walked.ids_produced
  exact ⟨walked.length_le finite, (List.nodup_append.mp walked.distinct).1, walked.reachable, within,
    whole, walked.called_iff⟩

theorem Walked.closed_of_ended (walked : Walked store roots calls last)
    (read : ∀ call ∈ calls, call.2 ≠ none) (ended : last.next = .ok none) :
    Closed (produced calls) := by
  refine .of_listed fun object member child needed => ?_
  have known := walked.closed object member child (object.dependencies_subset_followed needed)
  rw [walked.ids_produced.2 read]
  exact (walked.found_iff_called ended child).mp known

theorem Walked.portrait (walked : Walked store roots calls last)
    (genuine : ∀ object ∈ produced calls, Genuine store object)
    (read : ∀ call ∈ calls, call.2 ≠ none) (ended : last.next = .ok none) :
    Portrait store roots (produced calls) := by
  refine ⟨fun id => ?_, genuine⟩
  rw [walked.ids_produced.2 read]
  exact walked.called_of_genuine genuine read ended id

theorem Walked.made_of_produced (walked : Walked store roots calls last) {object : HistoryObject}
    (member : object ∈ produced calls) : Made store roots object := by
  obtain ⟨⟨id, result⟩, inside, same⟩ := List.mem_filterMap.mp member
  obtain rfl : result = some object := same
  exact (walked.made id object inside).2

end Walk

def Repository.selected (filter : References.Filter) (r : Repository) : Set ObjectId :=
  {id | ∃ references name, r.references = .ok references ∧ (name, id) ∈ references ∧
    filter.chooses name = true}

namespace History
variable {filter : References.Filter} {named : Bool} {r : Repository} {h : History}

theorem walk_of_opened (opened : ofRepository filter named r = .ok h) :
    ∃ chosen : List (String × ObjectId),
      r.selected filter = {id | id ∈ chosen.map Prod.snd} ∧ h.walk = .start r.store chosen named := by
  unfold ofRepository at opened
  split at opened
  · contradiction
  · cases listed : r.references with
    | error error =>
      rw [listed] at opened
      contradiction
    | ok references =>
      rw [listed] at opened
      refine ⟨references.filter fun reference => filter.chooses reference.1, Set.ext fun id => ?_, ?_⟩
      · simp [Repository.selected, listed, and_comm]
      · rw [← Except.ok.inj opened]

theorem finite_selected (opened : ofRepository filter named r = .ok h) :
    (r.selected filter).Finite := by
  obtain ⟨chosen, selected, _⟩ := walk_of_opened opened
  rw [selected]
  exact (chosen.map Prod.snd).finite_toSet

theorem walked_of_opened (opened : ofRepository filter named r = .ok h) :
    Walk.Walked r.store (r.selected filter) [] h.walk := by
  obtain ⟨chosen, selected, walk⟩ := walk_of_opened opened
  rw [selected, walk]
  exact Walk.walked_start r.store chosen named

/-- The objects of a history are those that its walk reads before a call fails. -/
theorem calls_stream (h : History) : ∃ last, Walk.Calls h.walk
    (h.stream.objects.map fun object => (object.id, some object)) last ∧
    last.Stops h.stream.failure :=
  h.walk.calls_objects

/-- So they are what a walk read all of whose calls succeeded. -/
theorem walked_stream (opened : ofRepository filter named r = .ok h) : ∃ calls last,
    Walk.Calls h.walk calls last ∧ Walk.Walked r.store (r.selected filter) calls last ∧
    Walk.produced calls = h.stream.objects ∧ (∀ call ∈ calls, call.2 ≠ none) ∧
    last.Stops h.stream.failure := by
  obtain ⟨last, calls, stops⟩ := h.calls_stream
  have walked := calls.walked (walked_of_opened opened)
  rw [List.nil_append] at walked
  refine ⟨_, last, calls, walked, ?_, ?_, stops⟩
  · simp [Walk.produced]
  · simp

theorem closed_stream (opened : ofRepository filter named r = .ok h)
    (unfailing : h.stream.failure = none) : Closed h.stream.objects := by
  obtain ⟨calls, last, _, walked, whole, read, stops⟩ := walked_stream opened
  rw [unfailing] at stops
  rw [← whole]
  exact walked.closed_of_ended read stops

theorem distinct_stream (opened : ofRepository filter named r = .ok h) :
    (h.stream.objects.map HistoryObject.id).Nodup := by
  obtain ⟨calls, last, _, walked, whole, read, _⟩ := walked_stream opened
  rw [← whole, walked.ids_produced.2 read]
  exact (List.nodup_append.mp walked.distinct).1

theorem portrait_stream (opened : ofRepository filter named r = .ok h)
    (intact : Intact r.store (r.selected filter)) :
    h.stream.failure = none ∧ Portrait r.store (r.selected filter) h.stream.objects := by
  obtain ⟨calls, last, _, walked, whole, read, stops⟩ := walked_stream opened
  cases failed : h.stream.failure with
  | some error =>
    rw [failed] at stops
    exact absurd stops (walked.unfailing intact error)
  | none =>
    rw [failed] at stops
    rw [← whole]
    exact ⟨rfl, walked.portrait (fun _ member => (walked.made_of_produced member).genuine intact)
      read stops⟩

end History

/-! Repositories with one reference, which is chosen. -/

theorem History.ofRepository_single {filter : References.Filter} {r : Repository} {name : String}
    {id : ObjectId} (named : Bool) (whole : r.shallow = false)
    (listed : r.references = .ok [(name, id)]) (chosen : filter.chooses name = true) :
    History.ofRepository filter named r = .ok ⟨[(name, true)], .start r.store [(name, id)] named⟩ := by
  simp only [History.ofRepository, whole, listed]
  simp [chosen, bind, Except.bind]

theorem Repository.selected_single {filter : References.Filter} {r : Repository} {name : String}
    {id : ObjectId} (listed : r.references = .ok [(name, id)])
    (chosen : filter.chooses name = true) : r.selected filter = {id} := by
  ext other
  simp [Repository.selected, listed, chosen]

theorem Repository.replacements_single {r : Repository} {name : String} {id : ObjectId}
    (listed : r.references = .ok [(name, id)]) (other : replacement? (name, id) = none) :
    r.replacements = [] := by
  rw [replacements, listed]
  simp [other]

/-- A walk is called for each id once, for nothing but what can be reached, and in the end for
everything that leads on from its references through what it read. So a survey of it misses no
object. If there is nothing wrong with what can be reached, the survey gives a summary, and its
totals are those of a survey of the stored objects themselves, except that the trees have the sizes
that the walk tells of them. These are the stored ones but for the empty tree. -/
theorem walk_exact (filter : References.Filter) (named : Bool) (r : Repository) {h : History}
    (opened : History.ofRepository filter named r = .ok h) :
    let roots := r.selected filter
    {id | Reachable r.store roots id}.Finite ∧
    (∀ calls last, Walk.Calls h.walk calls last → Walk.Exact r.store roots calls last) ∧
    (∃ calls last, Walk.Calls h.walk calls last ∧ last.next = .ok none) ∧
    (∃ last, Walk.Calls h.walk (h.stream.objects.map fun object => (object.id, some object)) last ∧
      last.Stops h.stream.failure) ∧
    (∀ stopAfter id parent,
      (Survey.run h.stream stopAfter).result ≠ .error (.missingObject id parent)) ∧
    (Intact r.store roots → ∃ s, (Survey.run h.stream none).result = .ok s ∧
      ∀ objects, Mirrors r.store roots objects →
        (FewLinks objects →
          ∃ t, (Survey.run (ofList objects h.references none) none).result = .ok t) ∧
        ∀ t, (Survey.run (ofList objects h.references none) none).result = .ok t →
          s.unranked = { t.unranked with trees := { t.trees with
            bytes := .ofNat (Totals.treeBytes h.stream.objects) } } ∧
          ((∀ object ∈ h.stream.objects, object.id = emptyTree → object.size = 0) →
            s.unranked = t.unranked)) := by
  intro roots
  have finite := History.finite_selected opened
  have walked := History.walked_of_opened opened
  refine ⟨finite_reachable r.store finite, fun calls last made => ?_, ?_, h.calls_stream, ?_, ?_⟩
  · have after := made.walked walked
    rw [List.nil_append] at after
    exact after.exact finite
  · exact walked.exists_end finite
  · exact run_ne_missing (History.closed_stream opened)
  · intro intact
    obtain ⟨unfailing, left⟩ := History.portrait_stream opened intact
    obtain ⟨s, fine⟩ := left.exists_summary intact unfailing rfl
    refine ⟨s, fine, fun objects mirrors =>
      ⟨fun few => mirrors.exists_summary intact few h.references, fun t well => ?_⟩⟩
    have right : Portrait r.store roots (ofList objects h.references none).objects :=
      mirrors.portrait
    obtain ⟨totals, equal⟩ := left.unranked_eq right rfl fine well
    rw [bytes_of_run fine, firstOccurrences_of_nodup (History.distinct_stream opened)] at totals
    refine ⟨totals, fun bare => equal fun a first b second same => ?_⟩
    rcases (left.alike right first second same).2.2 with size | ⟨_, empty⟩
    · exact size
    · obtain ⟨stored, found, described⟩ := mirrors.stored b second
      rw [← same, empty, r.store_emptyTree] at found
      obtain rfl := Option.some.inj found
      rw [bare a first empty]
      exact (StoredObject.frame_of_describe? described).2.2.symm

/-! A repository with a tag of the second of two commits. The tree of this one has a directory, a
symbolic link and a submodule. -/

def releaseTag : ObjectId := .ofNat 0x46570cf18b885ba7fb0b21d0b6e34fbd007fa56c

def releaseCommit : ObjectId := .ofNat 0x7061eca91356c14612d332c7a0f870d01c8e2f83

def firstCommit : ObjectId := .ofNat 0xfb14cb0a7e3c3032a65e7a054ad018b44cf41120

def releaseTree : ObjectId := .ofNat 0xf4b05c7fe59449c0a4cc47b6af0847436bab0f65

def sourceTree : ObjectId := .ofNat 0xeebfed94e75e7760540d1485c740902590a00332

def linkBlob : ObjectId := .ofNat 0x2e65efe2a145dda7ee51d1741299f848e5bf752e

def sourceBlob : ObjectId := .ofNat 0x61780798228d17af2d34fce4cfbdf35556832472

def releaseEntries : List TreeEntry :=
  [⟨.tree, ascii "d", sourceTree⟩, ⟨.symlink, ascii "l", linkBlob⟩,
    ⟨.submodule, ascii "m", .ofNat 0x5555555555555555555555555555555555555555⟩]

def sourceEntry : TreeEntry := ⟨.file, ascii "a", sourceBlob⟩

def tagContent : Bytes :=
  ascii "object 7061eca91356c14612d332c7a0f870d01c8e2f83\ntype commit\ntag v1\n"

/-- Who made a commit, and that there is no more to say of it. -/
def commitSignatures : Bytes :=
  ascii "author A <a@b> 0 +0000\ncommitter A <a@b> 0 +0000\n\n"

def releaseContent : Bytes :=
  ascii "tree f4b05c7fe59449c0a4cc47b6af0847436bab0f65\n" ++
  ascii "parent fb14cb0a7e3c3032a65e7a054ad018b44cf41120\n" ++ commitSignatures

def firstContent : Bytes :=
  ascii "tree eebfed94e75e7760540d1485c740902590a00332\n" ++ commitSignatures

def releaseTreeContent : Bytes :=
  ascii "40000 d" ++
  [0x00, 0xee, 0xbf, 0xed, 0x94, 0xe7, 0x5e, 0x77, 0x60, 0x54,
    0x0d, 0x14, 0x85, 0xc7, 0x40, 0x90, 0x25, 0x90, 0xa0, 0x03, 0x32] ++
  ascii "120000 l" ++
  [0x00, 0x2e, 0x65, 0xef, 0xe2, 0xa1, 0x45, 0xdd, 0xa7, 0xee,
    0x51, 0xd1, 0x74, 0x12, 0x99, 0xf8, 0x48, 0xe5, 0xbf, 0x75, 0x2e] ++
  ascii "160000 m" ++ 0x00 :: List.replicate idSize 0x55

def sourceTreeContent : Bytes :=
  ascii "100644 a" ++
  [0x00, 0x61, 0x78, 0x07, 0x98, 0x22, 0x8d, 0x17, 0xaf, 0x2d,
    0x34, 0xfc, 0xe4, 0xcf, 0xbd, 0xf3, 0x55, 0x56, 0x83, 0x24, 0x72]

def releasedRepository : Repository :=
  { objects :=
      [(releaseTag, ⟨.tag, tagContent⟩), (releaseCommit, ⟨.commit, releaseContent⟩),
        (firstCommit, ⟨.commit, firstContent⟩), (releaseTree, ⟨.tree, releaseTreeContent⟩),
        (sourceTree, ⟨.tree, sourceTreeContent⟩), (linkBlob, ⟨.blob, [0x61]⟩),
        (sourceBlob, ⟨.blob, [0x62, newLine]⟩)]
    loose := [("refs/tags/v1", "46570cf18b885ba7fb0b21d0b6e34fbd007fa56c")]
    packed := []
    shallow := false }

def releasedHistory : History :=
  { selection := [("refs/tags/v1", true)]
    walk := .start releasedRepository.store [("refs/tags/v1", releaseTag)] false }

/-- What it holds. The submodule belongs to another history. -/
def releasedObjects : List HistoryObject :=
  [.tag releaseTag tagContent.length releaseCommit,
    .commit releaseCommit releaseContent.length releaseTree [firstCommit],
    .commit firstCommit firstContent.length sourceTree [],
    .tree releaseTree releaseTreeContent.length (releaseEntries.map Walk.linkOf),
    .tree sourceTree sourceTreeContent.length [Walk.linkOf sourceEntry],
    .blob linkBlob 1,
    .blob sourceBlob 2]

private theorem released_contents :
    tagTarget? tagContent = some (releaseCommit, .commit) ∧
    commitLinks? releaseContent = some (releaseTree, [firstCommit]) ∧
    commitLinks? firstContent = some (sourceTree, []) ∧
    treeEntries? releaseTreeContent = some releaseEntries ∧
    treeEntries? sourceTreeContent = some [sourceEntry] := by
  decide +kernel

theorem released_references :
    releasedRepository.references = .ok [("refs/tags/v1", releaseTag)] := by
  decide +kernel

theorem chooses_tag : References.Filter.all.chooses "refs/tags/v1" = true := by
  decide

theorem released_opened :
    History.ofRepository .all false releasedRepository = .ok releasedHistory :=
  History.ofRepository_single false rfl released_references chooses_tag

theorem released_selected : releasedRepository.selected .all = {releaseTag} :=
  Repository.selected_single released_references chooses_tag

private theorem released_described :
    (releasedRepository.objects.map fun entry => entry.2.describe? entry.1) =
      releasedObjects.map some := by
  simp only [releasedRepository, List.map_cons, List.map_nil, StoredObject.describe?,
    released_contents]
  rfl

private theorem released_leads :
    (releasedRepository.objects.flatMap fun entry => entry.2.leads) =
      [(releaseCommit, .commit), (releaseTree, .tree), (firstCommit, .commit), (sourceTree, .tree),
        (sourceTree, .tree), (linkBlob, .blob), (sourceBlob, .blob)] := by
  simp only [releasedRepository, List.flatMap_cons, List.flatMap_nil, StoredObject.leads,
    released_contents]
  rfl

private theorem released_stored {entry : ObjectId × StoredObject}
    (listed : entry ∈ releasedRepository.objects) :
    releasedRepository.store[entry.1]? = some entry.2 := by
  have kept := Repository.replacements_single released_references (by decide)
  have apart : ∀ entry ∈ releasedRepository.objects, entry.1 ≠ emptyTree := by decide
  exact Repository.store_of_mem kept listed (by decide) (apart entry listed)

private theorem released_entry {object : HistoryObject} (member : object ∈ releasedObjects) :
    ∃ entry ∈ releasedRepository.objects, entry.1 = object.id ∧
      entry.2.describe? object.id = some object := by
  have described : some object ∈ releasedObjects.map some := List.mem_map_of_mem member
  rw [← released_described] at described
  obtain ⟨entry, listed, same⟩ := List.mem_map.mp described
  have id := (StoredObject.frame_of_describe? same).1
  exact ⟨entry, listed, id.symm, id ▸ same⟩

theorem released_listed : Listed releasedRepository.store {releaseTag} releasedObjects := by
  have nameless : ∀ object ∈ releasedObjects, object.name = none := by decide
  have reached : ∀ object ∈ releasedObjects,
      object.id = releaseTag ∨ ∃ source ∈ releasedObjects, object.id ∈ source.followed := by decide
  refine ⟨fun object member => ?_, ?_, by decide, reached⟩
  · obtain ⟨entry, listed, same, described⟩ := released_entry member
    rw [← nameless object member]
    exact ⟨entry.2, same ▸ released_stored listed, described⟩
  · rintro root rfl
    exact List.mem_cons_self

theorem released_intact : Intact releasedRepository.store {releaseTag} := by
  have fits : ∀ lead ∈ releasedRepository.objects.flatMap fun entry => entry.2.leads,
      ∃ target ∈ releasedObjects, target.id = lead.1 ∧ target.kind = lead.2 := by
    rw [released_leads]
    decide
  refine released_listed.intact fun object member stored found lead leads => fits lead ?_
  obtain ⟨entry, listed, same, _⟩ := released_entry member
  rw [← same, released_stored listed] at found
  obtain rfl := Option.some.inj found
  exact List.mem_flatMap.mpr ⟨entry, listed, leads⟩

/-- The history has two commits, and what is only linked to counts in the checkout of the later one.
As no tree is empty, no total differs. -/
theorem walk_exact_released :
    History.ofRepository .all false releasedRepository = .ok releasedHistory ∧
    Intact releasedRepository.store (releasedRepository.selected .all) ∧
    Mirrors releasedRepository.store (releasedRepository.selected .all) releasedObjects ∧
    FewLinks releasedObjects ∧
    ∃ s t, (Survey.run releasedHistory.stream none).result = .ok s ∧
      (Survey.run (ofList releasedObjects releasedHistory.references none) none).result = .ok t ∧
      s.unranked = t.unranked ∧ t.tags.maxDepth.value = 1 ∧ t.commits.maxDepth.value = 2 ∧
      t.checkout.blobs.value = 1 ∧ t.checkout.links.value = 1 ∧ t.checkout.submodules.value = 1 := by
  have intact := released_selected ▸ released_intact
  have mirrors := released_selected ▸ released_listed.mirrors
  have few : FewLinks releasedObjects := .of_listed (by decide)
  obtain ⟨_, _, _, _, _, sound⟩ := walk_exact .all false releasedRepository released_opened
  obtain ⟨s, fine, all⟩ := sound intact
  obtain ⟨given, totals⟩ := all releasedObjects mirrors
  obtain ⟨t, well⟩ := given few
  have equal := (totals t well).2 fun object member bare => by
    have reachable := (History.portrait_stream released_opened intact).2.reachable member
    have apart : emptyTree ∉ releasedObjects.map HistoryObject.id := by decide
    exact absurd (bare ▸ (mirrors.ids object.id).mpr reachable) apart
  refine ⟨released_opened, intact, mirrors, few, s, t, fine, well, equal, ?_⟩
  have told := totals_of_run well
  rw [firstOccurrences_of_nodup (by decide)] at told
  rw [told.tags, told.commits, told.checkout]
  decide +kernel

/-! A repository whose only tree has the empty tree for its only entry. -/

def hollowTree : ObjectId := .ofNat 0xf4ec99e8174c01eab488469b4c2680500bbb18da

def hollowEntry : TreeEntry := ⟨.tree, [0x65, 0x6d, 0x70, 0x74, 0x79], emptyTree⟩

/-- The mode and the name of the entry, a zero byte, and the id of the empty tree. -/
def hollowContent : Bytes :=
  [0x34, 0x30, 0x30, 0x30, 0x30, 0x20, 0x65, 0x6d, 0x70, 0x74, 0x79, 0x00,
    0x4b, 0x82, 0x5d, 0xc6, 0x42, 0xcb, 0x6e, 0xb9, 0xa0, 0x60,
    0xe5, 0x4b, 0xf8, 0xd6, 0x92, 0x88, 0xfb, 0xee, 0x49, 0x04]

def hollowRepository : Repository :=
  { objects := [(hollowTree, ⟨.tree, hollowContent⟩)]
    loose := [("refs/heads/main", "f4ec99e8174c01eab488469b4c2680500bbb18da")]
    packed := []
    shallow := false }

def hollowHistory : History :=
  { selection := [("refs/heads/main", true)]
    walk := .start hollowRepository.store [("refs/heads/main", hollowTree)] false }

/-- What it holds. The empty tree has no content. -/
def hollowObjects : List HistoryObject :=
  [.tree hollowTree 32 [Walk.linkOf hollowEntry], .tree emptyTree 0 []]

private theorem hollow_entries : treeEntries? hollowContent = some [hollowEntry] := by
  decide +kernel

private theorem hollow_leads :
    (⟨.tree, hollowContent⟩ : StoredObject).leads = [(emptyTree, .tree)] := by
  simp only [StoredObject.leads, hollow_entries]
  rfl

private theorem hollow_references :
    hollowRepository.references = .ok [("refs/heads/main", hollowTree)] := by
  decide +kernel

theorem chooses_main : References.Filter.all.chooses "refs/heads/main" = true := by
  decide

theorem hollow_opened_of_chosen {filter : References.Filter}
    (chosen : filter.chooses "refs/heads/main" = true) :
    History.ofRepository filter false hollowRepository = .ok hollowHistory :=
  History.ofRepository_single false rfl hollow_references chosen

theorem hollow_opened :
    History.ofRepository .all false hollowRepository = .ok hollowHistory :=
  hollow_opened_of_chosen chooses_main

theorem hollow_selected : hollowRepository.selected .all = {hollowTree} :=
  Repository.selected_single hollow_references chooses_main

private theorem hollow_stored :
    hollowRepository.store[hollowTree]? = some ⟨.tree, hollowContent⟩ := by
  have kept := Repository.replacements_single hollow_references (by decide)
  exact Repository.store_of_mem kept (List.mem_singleton_self _) (List.pairwise_singleton _ _)
    (by decide)

theorem hollow_listed : Listed hollowRepository.store {hollowTree} hollowObjects := by
  have reached : ∀ object ∈ hollowObjects,
      object.id = hollowTree ∨ ∃ source ∈ hollowObjects, object.id ∈ source.followed := by decide
  refine ⟨fun object member => ?_, ?_, by decide, reached⟩
  · rcases List.mem_pair.mp member with rfl | rfl
    · refine ⟨_, hollow_stored, ?_⟩
      simp only [StoredObject.describe?, hollow_entries]
      rfl
    · refine ⟨_, hollowRepository.store_emptyTree, ?_⟩
      simp [StoredObject.describe?, treeEntries?, HistoryObject.tree]
  · rintro root rfl
    exact List.mem_cons_self

theorem hollow_intact : Intact hollowRepository.store {hollowTree} := by
  refine hollow_listed.intact fun object member stored found lead leads => ?_
  rcases List.mem_pair.mp member with rfl | rfl
  · obtain rfl := Option.some.inj (hollow_stored.symm.trans found)
    rw [hollow_leads] at leads
    obtain rfl := List.mem_singleton.mp leads
    exact ⟨.tree emptyTree 0 [], by simp [hollowObjects], rfl, rfl⟩
  · obtain rfl := Option.some.inj (hollowRepository.store_emptyTree.symm.trans found)
    simp [StoredObject.leads, treeEntries?] at leads

/-- The walk from one object to another one that leads nowhere. -/
theorem Walk.objects_pair {store : Store} {outer inner : ObjectId} (reference : String)
    (apart : outer ≠ inner) {first second : StoredObject} (found : store[outer]? = some first)
    (also : store[inner]? = some second) {one two : Reading} {kind : Option Kind}
    (read : read? 0 ⟨outer, none, none⟩ first = some one) (link : one.next = [⟨inner, kind, none⟩])
    (further : read? one.length ⟨inner, kind, none⟩ second = some two) (leaf : two.next = []) :
    (start store [(reference, outer)] false).objects =
      ([{ one.object with name := none }, { two.object with name := none }], none) := by
  let begun : Walk := ⟨store, [⟨outer, none, none⟩],
    (∅ : Std.HashMap ObjectId Unit).insert outer (), 0⟩
  let between : Walk := ⟨store.erase outer, [⟨inner, kind, none⟩], begun.found.insert inner (),
    one.length⟩
  let last : Walk := ⟨between.unread.erase inner, [], between.found, two.length⟩
  have start : start store [(reference, outer)] false = begun := by
    simp [Walk.start, begun]
  have step : begun.next = .ok (some ({ one.object with name := none }, between)) := by
    rw [next_of_read? rfl found read, link]
    simp [discoverAll, discover, begun, between, apart]
  have next : between.next = .ok (some ({ two.object with name := none }, last)) := by
    have unread : between.unread[inner]? = some second := by
      rw [← also]
      simp [between, Std.HashMap.getElem?_erase, apart]
    rw [next_of_read? rfl unread further, leaf]
    rfl
  have ended : last.next = .ok none := (next_eq_none_iff last).mpr rfl
  rw [Walk.objects, start]
  simp only [drain_eq, step, next, ended]
  rfl

/-- The empty tree is read after a tree of 32 bytes. -/
theorem hollow_walk : hollowHistory.walk.objects =
    ([.tree hollowTree 32 [Walk.linkOf hollowEntry], .tree emptyTree 32 []], none) := by
  have apart : hollowTree ≠ emptyTree := by decide
  have read : Walk.read? 0 ⟨hollowTree, none, none⟩ ⟨.tree, hollowContent⟩ =
      some ⟨.tree hollowTree 32 [Walk.linkOf hollowEntry], [⟨emptyTree, some .tree, none⟩], 32⟩ := by
    simp only [Walk.read?, Option.getD_none, hollow_entries, if_neg apart, ne_eq,
      not_true_eq_false, if_false]
    rfl
  have further : Walk.read? 32 ⟨emptyTree, some .tree, none⟩ ⟨.tree, []⟩ =
      some ⟨.tree emptyTree 32 [], [], 32⟩ := by
    simp [Walk.read?, treeEntries?]
  exact Walk.objects_pair _ apart hollow_stored hollowRepository.store_emptyTree read rfl further rfl

/-- The empty tree takes the length of the content that was read before it, so with nothing wrong in
a repository its trees may still be told larger than they are. -/
theorem walk_enlarges_hollow :
    History.ofRepository .all false hollowRepository = .ok hollowHistory ∧
    Intact hollowRepository.store (hollowRepository.selected .all) ∧
    Mirrors hollowRepository.store (hollowRepository.selected .all) hollowObjects ∧
    ∃ s t, (Survey.run hollowHistory.stream none).result = .ok s ∧
      (Survey.run (ofList hollowObjects hollowHistory.references none) none).result = .ok t ∧
      s.trees.bytes.value = 64 ∧ t.trees.bytes.value = 32 ∧ s.unranked ≠ t.unranked := by
  have intact := hollow_selected ▸ hollow_intact
  have mirrors := hollow_selected ▸ hollow_listed.mirrors
  have few : FewLinks hollowObjects := .of_listed (by decide)
  obtain ⟨unfailing, left⟩ := History.portrait_stream hollow_opened intact
  obtain ⟨s, fine⟩ := left.exists_summary intact unfailing rfl
  obtain ⟨t, well⟩ := mirrors.exists_summary intact few hollowHistory.references
  have told : s.trees.bytes.value = 64 := by
    rw [bytes_of_run fine, firstOccurrences_of_nodup (History.distinct_stream hollow_opened)]
    change (Count.ofNat (Totals.treeBytes hollowHistory.walk.objects.1)).value = 64
    rw [hollow_walk]
    rfl
  have held : t.trees.bytes.value = 32 := by
    have distinct : (hollowObjects.map HistoryObject.id).Nodup := by decide
    rw [bytes_of_run well]
    change (Count.ofNat (Totals.treeBytes (firstOccurrences hollowObjects))).value = 32
    rw [firstOccurrences_of_nodup distinct]
    rfl
  refine ⟨hollow_opened, intact, mirrors, s, t, fine, well, told, held, fun same => ?_⟩
  have equal := congrArg (fun u : Summary => u.trees.bytes.value) same
  rw [show s.unranked.trees.bytes.value = 64 from told,
    show t.unranked.trees.bytes.value = 32 from held] at equal
  contradiction

end Git

end HistorySurvey
