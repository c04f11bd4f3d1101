import HistorySurvey.Proofs.Disclosure
import HistorySurvey.Proofs.Interruption

/-! Surveys of objects whose names are taken away. Names are stored in rankings and nothing looks at
them there or before, so a survey without them goes through the same steps and its summary is the one
with names after its rankings lost them. -/
namespace HistorySurvey

def HistoryObject.unnamed (object : HistoryObject) : HistoryObject := { object with name := none }

namespace Ranking

variable (r : Ranking) (candidate : Contender)

theorem contains_withoutNames (id : ObjectId) : r.withoutNames.contains id = r.contains id := by
  unfold contains withoutNames
  rw [List.any_map]
  rfl

theorem admits_withoutNames : r.withoutNames.admits candidate.withoutName = r.admits candidate := by
  unfold admits
  rw [show candidate.withoutName.id = candidate.id from rfl, contains_withoutNames, withoutNames,
    List.length_map, List.getLast?_map]
  cases r.contenders.getLast? <;> rfl

theorem place_withoutName (board : List Contender) :
    place candidate.withoutName (board.map Contender.withoutName) =
      (place candidate board).map Contender.withoutName := by
  induction board with
  | nil => rfl
  | cons first rest ih =>
    simp only [List.map_cons, place, ih]
    split <;> rename_i least
    · rw [if_pos (show candidate.value ≤ first.value from least), List.map_cons]
    · rw [if_neg (show ¬ candidate.value ≤ first.value from least), List.map_cons, List.map_cons]

theorem offer_withoutNames :
    r.withoutNames.offer candidate.withoutName = (r.offer candidate).withoutNames := by
  unfold offer
  rw [admits_withoutNames]
  split
  · simp only [withoutNames, ← List.map_take, place_withoutName]
  · rfl

end Ranking

theorem Rankings.offer_withoutNames (r : Rankings) (category : Category) (candidate : Contender) :
    r.withoutNames.offer category candidate.withoutName =
      (r.offer category candidate).withoutNames := by
  have board : r.withoutNames.board category = (r.board category).withoutNames := by
    simp [Rankings.board, Rankings.withoutNames]
  unfold offer
  rw [show candidate.withoutName.value = candidate.value from rfl, board, Ranking.offer_withoutNames]
  split
  · rfl
  · simp only [withoutNames, Vector.map_set]

namespace Summary

theorem contenders_unnamed (object : HistoryObject) (m : Measure) :
    contenders object.unnamed m =
      (contenders object m).map fun offer => (offer.1, offer.2.withoutName) := by
  unfold contenders
  rw [List.map_append, List.map_map]
  congr 1
  cases m <;> rfl

/-- Recording an object without its name records it where nothing has a name. -/
theorem record_unnamed (s : Summary) (object : HistoryObject) (m : Measure) :
    (s.redact .hash).record object.unnamed m = (s.record object m).redact .hash := by
  have offers (all : List (Category × Contender)) (r : Rankings) :
      (all.map fun offer => (offer.1, offer.2.withoutName)).foldl
          (fun r offer => r.offer offer.1 offer.2) r.withoutNames =
        (all.foldl (fun r offer => r.offer offer.1 offer.2) r).withoutNames := by
    induction all generalizing r with
    | nil => rfl
    | cons offer rest ih =>
      rw [List.map_cons, List.foldl_cons, List.foldl_cons, Rankings.offer_withoutNames, ih]
  have tallied : (s.redact .hash).tally object.unnamed m =
      { s.tally object m with rankings := s.rankings.withoutNames } := by
    cases m <;> rfl
  rw [record_eq, record_eq, tallied, contenders_unnamed]
  simp only [redact, offers]

theorem redact_ofReferences (references : List String) :
    (ofReferences references).redact .hash = ofReferences references := by
  have kept (s : Summary) : (references.foldl recordReference s).redact .hash =
      references.foldl recordReference (s.redact .hash) := by
    induction references generalizing s with
    | nil => rfl
    | cons reference rest ih => exact ih (s.recordReference reference)
  have nobody : Rankings.empty.withoutNames = Rankings.empty := by
    simp [Rankings.withoutNames, Rankings.empty, Ranking.withoutNames, Ranking.empty]
  rw [ofReferences, kept, redact, show empty.rankings = Rankings.empty from rfl, nobody]
  rfl

/-- What does not show names does not show that they are gone. -/
theorem reports_unnamed (s : Summary) {style : NameStyle} (short : style ≠ .full) :
    (s.redact .hash).figuresText style = s.figuresText style ∧
    ∀ threshold scale,
      (s.redact .hash).rowsText threshold style scale = s.rowsText threshold style scale ∧
      (s.redact .hash).tableText threshold style scale = s.tableText threshold style scale := by
  have redacted : (s.redact .hash).redact style = s.redact style := by
    cases style with
    | nothing => rfl
    | hash => exact s.redact_redact .hash
    | full => contradiction
  refine ⟨?_, fun threshold scale => ⟨?_, ?_⟩⟩
  · rw [← figuresText_redact, redacted, figuresText_redact]
  · rw [← rowsText_redact, redacted, rowsText_redact]
  · rw [← tableText_redact, redacted, tableText_redact]

end Summary

namespace Assembly

def unnamedEntry (entry : Parked) : Parked := { entry with object := entry.object.unnamed }

/-- The same assembly of objects without names. -/
structure Unnames (named bare : Assembly) : Prop where
  shelf : bare.shelf = named.shelf
  parked : ∀ id : ObjectId, bare.parked[id]? = named.parked[id]?.map unnamedEntry
  waiters : bare.waiters = named.waiters
  ready : bare.ready = named.ready.map HistoryObject.unnamed
  summary : bare.summary = named.summary.redact .hash
  statistics : bare.statistics = named.statistics
  progress : bare.progress = named.progress
  cancelled : bare.cancelled = named.cancelled

variable {named bare : Assembly} {hints : Hints}

theorem Unnames.parked_alike (unnames : Unnames named bare) :
    bare.parked.Equiv (named.parked.map fun _ => unnamedEntry) :=
  .of_forall_getElem?_eq fun id => by rw [unnames.parked, Std.HashMap.getElem?_map]

theorem Unnames.size_parked (unnames : Unnames named bare) :
    bare.parked.size = named.parked.size := by
  rw [unnames.parked_alike.size_eq, Std.HashMap.size_map]

theorem Unnames.contains_parked (unnames : Unnames named bare) (id : ObjectId) :
    bare.parked.contains id = named.parked.contains id := by
  rw [Std.HashMap.contains_eq_isSome_getElem?, unnames.parked, Option.isSome_map,
    Std.HashMap.contains_eq_isSome_getElem?]

/-- A step with names and the same step without. -/
def Alike (named bare : Assembly × Option SurveyError) : Prop :=
  Unnames named.1 bare.1 ∧ bare.2 = named.2

theorem meet_alike (unnames : Unnames named bare) (child parent : ObjectId) :
    Alike (named.meet child parent) (bare.meet child parent) := by
  unfold meet
  rw [unnames.parked parent]
  cases named.parked[parent]? with
  | none => exact ⟨unnames, rfl⟩
  | some entry =>
    simp only [Option.map_some, show (unnamedEntry entry).missing = entry.missing from rfl]
    split
    · refine ⟨{ unnames with parked := fun id => ?_, ready := ?_ }, rfl⟩
      · simp only [Std.HashMap.getElem?_erase, unnames.parked]
        split <;> rfl
      · rw [unnames.ready]
        rfl
    · refine ⟨{ unnames with parked := fun id => ?_ }, rfl⟩
      simp only [Std.HashMap.getElem?_insert, unnames.parked]
      split <;> rfl

theorem Alike.exists_eq {a : Assembly} {outcome : Option SurveyError}
    {other : Assembly × Option SurveyError} (alike : Alike (a, outcome) other) :
    ∃ b, other = (b, outcome) ∧ Unnames a b :=
  ⟨other.1, Prod.ext rfl alike.2, alike.1⟩

theorem meetAll_alike (unnames : Unnames named bare) (child : ObjectId) (parents : List ObjectId) :
    Alike (meetAll child parents named) (meetAll child parents bare) := by
  induction parents generalizing named bare with
  | nil => exact ⟨unnames, rfl⟩
  | cons parent rest ih =>
    have alike := meet_alike unnames child parent
    rw [meetAll, meetAll]
    cases met : named.meet child parent with
    | mk a outcome =>
      rw [met] at alike
      obtain ⟨b, same, further⟩ := alike.exists_eq
      rw [same]
      cases outcome with
      | none => exact ih further
      | some error => exact ⟨further, rfl⟩

theorem announce_alike (unnames : Unnames named bare) (child : ObjectId) :
    Alike (named.announce child) (bare.announce child) := by
  unfold announce
  rw [unnames.waiters]
  cases named.waiters[child]? with
  | none => exact ⟨unnames, rfl⟩
  | some parents =>
    have without : Unnames { named with waiters := named.waiters.erase child }
        { bare with waiters := named.waiters.erase child } := { unnames with waiters := rfl }
    exact meetAll_alike without child parents.toList

theorem Unnames.finalize (unnames : Unnames named bare) (hints : Hints) (object : HistoryObject) (m : Measure) :
    Unnames (named.finalize hints object m) (bare.finalize hints object.unnamed m) where
  shelf := by
    simp only [Assembly.finalize, unnames.shelf]
    rfl
  parked := unnames.parked
  waiters := unnames.waiters
  ready := unnames.ready
  summary := by
    simp only [Assembly.finalize, unnames.summary]
    exact Summary.record_unnamed named.summary object m
  statistics := by simp only [Assembly.finalize, unnames.statistics]
  progress := by simp only [Assembly.finalize, unnames.progress]
  cancelled := unnames.cancelled

/-- Measuring does not look at names. -/
theorem Unnames.measure_eq (unnames : Unnames named bare) (object : HistoryObject) :
    measure bare.shelf object.unnamed = measure named.shelf object := by
  rw [unnames.shelf]
  rfl

theorem Unnames.pop (unnames : Unnames named bare) {object : HistoryObject}
    {rest : List HistoryObject} (ready : named.ready = object :: rest) :
    bare.ready = object.unnamed :: rest.map HistoryObject.unnamed ∧
    Unnames { named with ready := rest }
      { bare with ready := rest.map HistoryObject.unnamed } := by
  refine ⟨?_, { unnames with ready := rfl }⟩
  rw [unnames.ready, ready]
  rfl

/-- Measuring an object leads to the same with its name and without. -/
theorem Unnames.announced (unnames : Unnames named bare) {object : HistoryObject} {m : Measure}
    {after : Assembly} {outcome : Option SurveyError}
    (announced : (named.finalize hints object m).announce object.id = (after, outcome)) :
    ∃ b, (bare.finalize hints object.unnamed m).announce object.unnamed.id = (b, outcome) ∧
      Unnames after b := by
  have alike := announce_alike (unnames.finalize hints object m) object.id
  rw [announced] at alike
  exact alike.exists_eq

theorem Settles.alike {journal final : Journal} {after : Assembly} {outcome : Option SurveyError}
    (settles : Settles hints journal named final after outcome) (unnames : Unnames named bare) :
    Alike (after, outcome) (settle hints bare) := by
  induction settles generalizing bare with
  | idle journal named nothing =>
    have idle := unnames.ready
    rw [nothing] at idle
    rw [settle_nil idle]
    exact ⟨unnames, rfl⟩
  | halted journal named object rest ready cancelled =>
    obtain ⟨waits, popped⟩ := unnames.pop ready
    rw [settle_cons waits, if_pos (unnames.cancelled.trans cancelled)]
    exact ⟨popped, rfl⟩
  | failed journal named object rest error ready running measured =>
    obtain ⟨waits, popped⟩ := unnames.pop ready
    rw [settle_cons waits, if_neg (Bool.eq_false_iff.mp (unnames.cancelled.trans running)),
      unnames.measure_eq, measured]
    exact ⟨popped, rfl⟩
  | lost journal named object rest m b error ready running measured announced =>
    obtain ⟨waits, popped⟩ := unnames.pop ready
    obtain ⟨c, same, further⟩ := popped.announced announced
    rw [settle_cons waits, if_neg (Bool.eq_false_iff.mp (unnames.cancelled.trans running)),
      unnames.measure_eq, measured]
    simp only [same]
    exact ⟨further, rfl⟩
  | next journal named object rest m b final c outcome ready running measured announced _ ih =>
    obtain ⟨waits, popped⟩ := unnames.pop ready
    obtain ⟨d, same, further⟩ := popped.announced announced
    rw [settle_cons waits, if_neg (Bool.eq_false_iff.mp (unnames.cancelled.trans running)),
      unnames.measure_eq, measured]
    simp only [same]
    exact ih further

theorem settle_alike (hints : Hints) (unnames : Unnames named bare) :
    Alike (settle hints named) (settle hints bare) := by
  obtain ⟨final, settles⟩ := settles_settle hints [] named
  exact settles.alike unnames

theorem accept_alike (hints : Hints) (unnames : Unnames named bare) (object : HistoryObject) :
    Alike (named.accept hints object) (bare.accept hints object.unnamed) := by
  have knows : bare.knows object.id = named.knows object.id := by
    rw [knows, knows, unnames.shelf, unnames.contains_parked]
  unfold accept
  rw [show object.unnamed.id = object.id from rfl, knows]
  split
  · exact ⟨{ unnames with statistics := by simp only [unnames.statistics] }, rfl⟩
  · have missing : object.unnamed.dependencies.filter (!bare.shelf.isFinalized ·) =
        object.dependencies.filter (!named.shelf.isFinalized ·) := by
      rw [unnames.shelf]
      rfl
    dsimp only
    rw [missing, unnames.waiters]
    generalize object.dependencies.filter (!named.shelf.isFinalized ·) = missing
    split
    · refine settle_alike hints { unnames with waiters := rfl, ready := ?_ }
      rw [unnames.ready]
      rfl
    · have further : Unnames
          { named with
            parked := named.parked.insert object.id ⟨object, missing.length⟩
            waiters := missing.foldl (enlist object.id) named.waiters }
          { bare with
            parked := bare.parked.insert object.id ⟨object.unnamed, missing.length⟩
            waiters := missing.foldl (enlist object.id) named.waiters } := by
        refine { unnames with parked := fun id => ?_, waiters := rfl }
        simp only [Std.HashMap.getElem?_insert, unnames.parked]
        split <;> rfl
      have size := further.size_parked
      refine ⟨{ further with statistics := ?_ }, rfl⟩
      dsimp only at size ⊢
      rw [unnames.statistics, size]

theorem acceptAll_alike (hints : Hints) (unnames : Unnames named bare) (objects : List HistoryObject) :
    Alike (Survey.acceptAll hints objects named)
      (Survey.acceptAll hints (objects.map HistoryObject.unnamed) bare) := by
  induction objects generalizing named bare with
  | nil => exact ⟨unnames, rfl⟩
  | cons object rest ih =>
    have alike := accept_alike hints unnames object
    rw [Survey.acceptAll, List.map_cons, Survey.acceptAll]
    cases accepted : named.accept hints object with
    | mk a outcome =>
      rw [accepted] at alike
      obtain ⟨b, same, further⟩ := alike.exists_eq
      rw [same]
      cases outcome with
      | none => exact ih further
      | some error => exact ⟨further, rfl⟩

theorem finish_unnamed (unnames : Unnames named bare) :
    bare.finish = named.finish.map (·.redact .hash) := by
  have missing : bare.absent = named.absent := by
    unfold absent
    simp only [unnames.waiters, unnames.contains_parked]
  unfold finish
  rw [unnames.parked_alike.isEmpty_eq, Std.HashMap.isEmpty_map, missing, unnames.size_parked,
    unnames.summary]
  split
  · rfl
  · split <;> rfl

theorem unnames_ofReferences (references : List String) :
    Unnames (ofReferences references) (ofReferences references) := by
  rw [ofReferences_eq]
  refine ⟨rfl, fun id => ?_, rfl, rfl, (Summary.redact_ofReferences references).symm, rfl, rfl, rfl⟩
  simp [Assembly.empty]

/-- How a survey ended is told with names and without. -/
theorem Alike.told {x y : Assembly × Option SurveyError} (alike : Alike x y) :
    (Survey.told y).progress = (Survey.told x).progress ∧
    (Survey.told y).result = (Survey.told x).result.map (·.redact .hash) := by
  obtain ⟨a, outcome⟩ := x
  obtain ⟨b, same, unnames⟩ := alike.exists_eq
  subst same
  cases outcome with
  | none => exact ⟨unnames.progress, finish_unnamed unnames⟩
  | some error => exact ⟨unnames.progress, rfl⟩

end Assembly

/-- The same stream of objects without names. -/
def ObjectStream.unnamed (stream : ObjectStream) : ObjectStream :=
  { stream with objects := stream.objects.map HistoryObject.unnamed }

theorem Survey.run_unnamed (stream : ObjectStream) (stopAfter : Option Nat) :
    (run stream.unnamed stopAfter).progress = (run stream stopAfter).progress ∧
    (run stream.unnamed stopAfter).result =
      (run stream stopAfter).result.map (·.redact .hash) := by
  have accepted : accepted stream.unnamed stopAfter =
      (accepted stream stopAfter).map HistoryObject.unnamed := by
    cases stopAfter with
    | none => rfl
    | some calls => exact List.map_take.symm
  have interruption : interruption stream.unnamed stopAfter = interruption stream stopAfter := by
    simp only [Survey.interruption, ObjectStream.unnamed, List.length_map]
  have alike := Assembly.acceptAll_alike stream.hints
    (Assembly.unnames_ofReferences stream.references) (Survey.accepted stream stopAfter)
  rw [Assembly.run_eq, Assembly.run_eq, accepted, interruption]
  cases ended : Survey.acceptAll stream.hints (Survey.accepted stream stopAfter)
      (Assembly.ofReferences stream.references) with
  | mk a outcome =>
    rw [ended] at alike
    obtain ⟨b, same, further⟩ := alike.exists_eq
    rw [show stream.unnamed.hints = stream.hints from rfl,
      show stream.unnamed.references = stream.references from rfl, same]
    cases outcome with
    | some error => exact Assembly.Alike.told ⟨further, rfl⟩
    | none => exact Assembly.Alike.told ⟨further, rfl⟩

end HistorySurvey
