import Mathlib.Data.ENat.Lattice
import HistorySurvey.Proofs.Completion

/-! Surveys that are interrupted. A survey asks its source for one object after the other, and it can
be stopped by the source or by a request. It then ends in an error: what it has summed up so far is
never taken for a result. -/
namespace HistorySurvey

theorem ObjectStream.length_next {stream rest : ObjectStream} {object : HistoryObject}
    (handed : stream.next = .ok (some (object, rest))) :
    rest.objects.length < stream.objects.length := by
  unfold ObjectStream.next at handed
  split at handed
  · rename_i first others listed
    obtain ⟨rfl, rfl⟩ : first = object ∧ _ = rest := by simpa using handed
    rw [listed]
    exact Nat.lt_succ_self _
  · split at handed <;> simp at handed

namespace Assembly

/-! Accepting an object neither makes a request to stop nor takes one back. -/

theorem Settles.cancelled_eq {hints : Hints} {journal final : Journal} {a b : Assembly}
    {outcome : Option SurveyError} (settles : Settles hints journal a final b outcome) :
    b.cancelled = a.cancelled := by
  have announcing {a b : Assembly} {object : HistoryObject} {rest : List HistoryObject}
      {m : Measure} {outcome : Option SurveyError}
      (announced : ({ a with ready := rest }.finalize hints object m).announce object.id =
        (b, outcome)) : b.cancelled = a.cancelled := by
    have same := (announce_frame ({ a with ready := rest }.finalize hints object m) object.id).2.1
    rw [announced] at same
    exact same
  induction settles with
  | idle => rfl
  | halted => rfl
  | failed => rfl
  | lost journal a object rest m b error ready running measured announced =>
    exact announcing announced
  | next journal a object rest m b final c outcome ready running measured announced _ ih =>
    exact ih.trans (announcing announced)

theorem cancelled_accept (hints : Hints) (a : Assembly) (object : HistoryObject) :
    (a.accept hints object).1.cancelled = a.cancelled := by
  obtain ⟨final, accepts⟩ := accepts_accept hints [] a object
  generalize a.accept hints object = ended at accepts ⊢
  obtain ⟨b, outcome⟩ := ended
  cases accepts with
  | known => rfl
  | parked => rfl
  | settled _ _ _ _ _ settles => exact settles.cancelled_eq

end Assembly

namespace Survey

/-- The survey as it goes. A request to stop comes with the question that has this number, counted
from zero. It is seen when an object was handed out, and before an object is measured. -/
def pull (stream : ObjectStream) (stopAfter : Option Nat) (a : Assembly) :
    Assembly × Option SurveyError :=
  let asking := if stopAfter = some 0 then a.cancel else a
  match _ : stream.next with
  | .error error => (asking, some (.source error))
  | .ok none => (asking, none)
  | .ok (some (object, rest)) =>
    if asking.cancelled then (asking, some .cancelled)
    else
      match asking.accept stream.hints object with
      | (b, some error) => (b, some error)
      | (b, none) => pull rest (stopAfter.map (· - 1)) b
termination_by stream.objects.length
decreasing_by exact ObjectStream.length_next ‹_›

def told (ended : Assembly × Option SurveyError) : Outcome :=
  { progress := ended.1.progress
    result :=
      match ended.2 with
      | some error => .error error
      | none => ended.1.finish }

private theorem told_asking (stopAfter : Option Nat) (a : Assembly) (outcome : Option SurveyError) :
    told (if stopAfter = some 0 then a.cancel else a, outcome) = told (a, outcome) := by
  split <;> rfl

theorem pull_of_none {stream : ObjectStream} (nothing : stream.objects = [])
    (stopAfter : Option Nat) (a : Assembly) :
    pull stream stopAfter a =
      (if stopAfter = some 0 then a.cancel else a, stream.failure.map .source) := by
  obtain ⟨references, objects, failure, hints⟩ := stream
  subst nothing
  rw [pull]
  cases failure with
  | none => rfl
  | some error => rfl

theorem pull_of_cons {references : List String} {object : HistoryObject}
    {others : List HistoryObject} {failure : Option SourceError} {hints : Hints}
    (stopAfter : Option Nat) (a : Assembly) :
    pull ⟨references, object :: others, failure, hints⟩ stopAfter a =
      let asking := if stopAfter = some 0 then a.cancel else a
      if asking.cancelled then (asking, some .cancelled)
      else
        match asking.accept hints object with
        | (b, some error) => (b, some error)
        | (b, none) => pull ⟨references, others, failure, hints⟩ (stopAfter.map (· - 1)) b := by
  rw [pull]
  rfl

/-- Objects handed out one by one, with a request to stop noticed on the way, are those that come
before the interruption, and the interruption is the error unless one of them fails. -/
theorem told_pull (stream : ObjectStream) (stopAfter : Option Nat) (a : Assembly)
    (running : a.cancelled = false) :
    told (pull stream stopAfter a) =
      match acceptAll stream.hints (accepted stream stopAfter) a with
      | (b, some error) => told (b, some error)
      | (b, none) => told (b, interruption stream stopAfter) := by
  obtain ⟨references, objects, failure, hints⟩ := stream
  -- The request counts down with the objects, so the induction is on both.
  induction objects generalizing stopAfter a with
  | nil =>
    rw [pull_of_none rfl, told_asking]
    cases stopAfter with
    | none => rfl
    | some calls => simp [accepted, interruption, acceptAll]
  | cons object others ih =>
    rw [pull_of_cons]
    by_cases now : stopAfter = some 0
    · subst now
      simp [accepted, interruption, acceptAll, Assembly.cancel, told]
    · have later : accepted ⟨references, object :: others, failure, hints⟩ stopAfter =
          object :: accepted ⟨references, others, failure, hints⟩ (stopAfter.map (· - 1)) := by
        cases stopAfter with
        | none => rfl
        | some calls =>
          obtain ⟨calls, rfl⟩ := Nat.exists_eq_succ_of_ne_zero fun zero => now (zero ▸ rfl)
          rfl
      have same : interruption ⟨references, object :: others, failure, hints⟩ stopAfter =
          interruption ⟨references, others, failure, hints⟩ (stopAfter.map (· - 1)) := by
        cases stopAfter with
        | none => rfl
        | some calls =>
          obtain ⟨calls, rfl⟩ := Nat.exists_eq_succ_of_ne_zero fun zero => now (zero ▸ rfl)
          simp [interruption]
      have kept := Assembly.cancelled_accept hints a object
      rw [later, same, acceptAll]
      simp only [now, if_false, running, Bool.false_eq_true]
      cases stepped : a.accept hints object with
      | mk b outcome =>
        cases outcome with
        | some error => rfl
        | none =>
          rw [stepped] at kept
          exact ih (stopAfter.map (· - 1)) b (kept.trans running)

end Survey

namespace Assembly
open ObjectStream Survey

theorem run_eq (stream : ObjectStream) (stopAfter : Option Nat) :
    Survey.run stream stopAfter =
      match Survey.acceptAll stream.hints (Survey.accepted stream stopAfter)
        (ofReferences stream.references) with
      | (b, some error) => told (b, some error)
      | (b, none) => told (b, Survey.interruption stream stopAfter) := by
  rw [Survey.run, ← ofReferences]
  cases Survey.acceptAll stream.hints (Survey.accepted stream stopAfter)
      (ofReferences stream.references) with
  | mk b outcome =>
    cases outcome with
    | some error => rfl
    | none =>
      cases Survey.interruption stream stopAfter with
      | none => rfl
      | some error => rfl

theorem run_eq_told (stream : ObjectStream) (stopAfter : Option Nat) :
    Survey.run stream stopAfter =
      told (pull stream stopAfter (ofReferences stream.references)) := by
  have running : (ofReferences stream.references).cancelled = false := by
    rw [ofReferences_eq]
    rfl
  rw [run_eq, told_pull stream stopAfter _ running]

/-- The number of objects after which something happens, if it ever does. -/
def moment : Option Nat → ℕ∞
  | none => ⊤
  | some n => n

/-- A source over known objects, with any numbers of links. -/
def sourceOf (objects : List HistoryObject) (references : List String) (hints : Hints)
    (limit : Option Nat) : ObjectStream :=
  { ofList objects references limit with hints := hints }

variable (objects : List HistoryObject) (references : List String) (hints : Hints)
  (limit stopAfter : Option Nat)

private theorem uninterrupted (enough : objects.length ≤ min (moment limit) (moment stopAfter)) :
    Survey.accepted (sourceOf objects references hints limit) stopAfter = objects ∧
    Survey.interruption (sourceOf objects references hints limit) stopAfter = none := by
  obtain ⟨long, late⟩ := le_min_iff.mp enough
  have source : (sourceOf objects references hints limit).objects = objects ∧
      (sourceOf objects references hints limit).failure = none := by
    cases limit with
    | none => exact ⟨rfl, rfl⟩
    | some limit =>
      have long : objects.length ≤ limit := by simpa [moment] using long
      simp [sourceOf, ofList, long]
  cases stopAfter with
  | none => simp [Survey.accepted, Survey.interruption, source]
  | some calls =>
    have late : objects.length ≤ calls := by simpa [moment] using late
    simp [Survey.accepted, Survey.interruption, source, late]

private theorem interrupted {m : Nat} (last : min (moment limit) (moment stopAfter) = m)
    (short : m < objects.length) :
    let source := sourceOf objects references hints limit
    Survey.accepted source stopAfter = objects.take m ∧
    if moment limit ≤ moment stopAfter then
      ∃ object, objects[m]? = some object ∧
        Survey.interruption source stopAfter = some (.source (.unreadable object.id))
    else Survey.interruption source stopAfter = some .cancelled := by
  intro source
  cases limit with
  | none =>
    cases stopAfter with
    | none => simp [moment] at last
    | some calls =>
      obtain rfl : calls = m := by simpa [moment] using last
      simp [source, sourceOf, ofList, Survey.accepted, Survey.interruption, moment, short]
  | some limit =>
    cases stopAfter with
    | none =>
      obtain rfl : limit = m := by simpa [moment] using last
      simp [source, sourceOf, ofList, Survey.accepted, Survey.interruption, moment, short]
    | some calls =>
      have last : min limit calls = m := by
        simp only [moment] at last
        rw [← Nat.mono_cast.map_min] at last
        exact_mod_cast last
      have taken : (objects.take limit).take calls = objects.take m := by
        rw [List.take_take, Nat.min_comm, last]
      refine ⟨taken, ?_⟩
      have order : moment (some limit) ≤ moment (some calls) ↔ limit ≤ calls := Nat.cast_le
      by_cases first : limit ≤ calls
      · obtain rfl : limit = m := by omega
        have enough : ¬ calls < min limit objects.length := by omega
        simp [source, sourceOf, ofList, Survey.interruption, order, first, enough, short]
      · obtain rfl : calls = m := by omega
        have early : calls < min limit objects.length := by omega
        simp [source, sourceOf, ofList, Survey.interruption, order, first, early]

/-- A survey that is neither cut off nor stopped before its last object ends as if it were left
alone. Any other ends in an error: the one of an object that could be accepted before, or else that
of the source, or else that of the request to stop, whichever comes first. It has then measured what
those objects make complete. -/
theorem run_interrupted (objects : List HistoryObject) (references : List String) (hints : Hints)
    (limit stopAfter : Option Nat) :
    let outcome := Survey.run (sourceOf objects references hints limit) stopAfter
    let undisturbed := Survey.run (sourceOf objects references hints none) none
    let begun := ofReferences references
    let last := min (moment limit) (moment stopAfter)
    outcome = told (pull (sourceOf objects references hints limit) stopAfter begun) ∧
    if objects.length ≤ last then outcome = undisturbed
    else
      match Survey.acceptAll hints (objects.take last.toNat) begun with
      | (_, some error) => undisturbed.result = .error error ∧ outcome.result = .error error
      | (a, none) =>
        outcome.progress = {id | a.shelf.isFinalized id = true}.ncard ∧
        if moment limit ≤ moment stopAfter then
          ∃ object, objects[last.toNat]? = some object ∧
            outcome.result = .error (.source (.unreadable object.id))
        else outcome.result = .error .cancelled := by
  intro outcome undisturbed begun last
  refine ⟨run_eq_told _ stopAfter, ?_⟩
  obtain ⟨whole, never⟩ := uninterrupted objects references hints none none (by simp [moment])
  have left : undisturbed = match Survey.acceptAll hints objects begun with
      | (b, some error) => told (b, some error)
      | (b, none) => told (b, none) := by
    simp only [undisturbed, run_eq, whole, never]
    rfl
  by_cases enough : objects.length ≤ last
  · rw [if_pos enough, left]
    obtain ⟨all, nothing⟩ := uninterrupted objects references hints limit stopAfter enough
    simp only [outcome, run_eq, all, nothing]
    rfl
  · rw [if_neg enough]
    obtain ⟨m, known⟩ := ENat.ne_top_iff_exists.mp (ne_top_of_lt (not_le.mp enough))
    have short : m < objects.length := by
      rw [← known] at enough
      exact_mod_cast not_le.mp enough
    have number : last.toNat = m := by rw [← known]; rfl
    obtain ⟨first, broken⟩ := interrupted objects references hints limit stopAfter known.symm short
    have ended : outcome = match Survey.acceptAll hints (objects.take m) begun with
        | (b, some error) => told (b, some error)
        | (b, none) =>
          told (b, Survey.interruption (sourceOf objects references hints limit) stopAfter) := by
      simp only [outcome, run_eq, first]
      rfl
    rw [number]
    cases accepted : Survey.acceptAll hints (objects.take m) begun with
    | mk a failed =>
      rw [accepted] at ended
      cases failed with
      | some error =>
        -- The same object fails when all are accepted.
        have also : Survey.acceptAll hints objects begun = (a, some error) := by
          rw [← List.take_append_drop m objects, acceptAll_append, accepted]
        rw [also] at left
        rw [left, ended]
        exact ⟨rfl, rfl⟩
      | none =>
        obtain ⟨journal, _, accounted, _⟩ := accounted_of_acceptAll references accepted
        refine ⟨?_, ?_⟩
        · rw [ended, accounted.ncard_finalized]
          exact accounted.progress
        · split
          · rename_i before
            rw [if_pos before] at broken
            obtain ⟨object, found, error⟩ := broken
            refine ⟨object, found, ?_⟩
            rw [ended, error]
            rfl
          · rename_i after
            rw [if_neg after] at broken
            rw [ended, broken]
            rfl

end Assembly

end HistorySurvey
