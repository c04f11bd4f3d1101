import Std.Data.HashMap
import HistorySurvey.Assembly.Measuring
import HistorySurvey.Summary

/-! Objects put together into a summary, in whatever order they arrive. An object whose
dependencies are all measured is measured at once. Any other is parked, and each of its
dependencies knows who waits for it. A measured object may complete parked ones, which are taken
up from a stack, the last one first. A failed step leaves the assembly as it stood at the
failure. -/
namespace HistorySurvey

structure Parked where
  object : HistoryObject
  missing : Nat

structure Statistics where
  finalized : Nat
  duplicates : Nat
  peakParked : Nat
  deriving DecidableEq

/-- How many links of the whole history point at an object, as far as its source knows. -/
abbrev Hints := ObjectId → Option Nat

structure Assembly where
  shelf : Shelf
  parked : Std.HashMap ObjectId Parked
  /-- By object, who waits for it: one entry for each link, in order of arrival. -/
  waiters : Std.HashMap ObjectId (Array ObjectId)
  /-- Objects whose dependencies are all measured, the next one first. -/
  ready : List HistoryObject
  summary : Summary
  statistics : Statistics
  progress : Nat
  cancelled : Bool

namespace Assembly

def empty : Assembly :=
  { shelf := Shelf.empty
    parked := ∅
    waiters := ∅
    ready := []
    summary := Summary.empty
    statistics := ⟨0, 0, 0⟩
    progress := 0
    cancelled := false }

instance : Inhabited Assembly := ⟨empty⟩

def recordReference (a : Assembly) (reference : String) : Assembly :=
  { a with summary := a.summary.recordReference reference }

def cancel (a : Assembly) : Assembly := { a with cancelled := true }

def held (a : Assembly) : Nat := a.shelf.live

/-- Whether an object was accepted and is done or parked. -/
def knows (a : Assembly) (id : ObjectId) : Bool := a.shelf.isFinalized id || a.parked.contains id

/-- An object and its measure become part of the summary, and one use of each dependency is over. -/
def finalize (hints : Hints) (a : Assembly) (object : HistoryObject) (m : Measure) : Assembly :=
  let shelf := a.shelf.put object.id m (hints object.id)
  { a with
    shelf := object.dependencies.foldl Shelf.consume shelf
    summary := a.summary.record object m
    statistics := { a.statistics with finalized := a.statistics.finalized + 1 }
    progress := a.progress + 1 }

/-- One link of a parked object is met; the last one makes it ready. -/
def meet (child : ObjectId) (a : Assembly) (parent : ObjectId) : Assembly × Option SurveyError :=
  match a.parked[parent]? with
  | none => (a, some (.breach (.notParked parent child)))
  | some entry =>
    if entry.missing ≤ 1 then
      ({ a with parked := a.parked.erase parent, ready := entry.object :: a.ready }, none)
    else
      let entry := { entry with missing := entry.missing - 1 }
      ({ a with parked := a.parked.insert parent entry }, none)

def meetAll (child : ObjectId) : List ObjectId → Assembly → Assembly × Option SurveyError
  | [], a => (a, none)
  | parent :: rest, a =>
    match a.meet child parent with
    | (a, some error) => (a, some error)
    | (a, none) => meetAll child rest a

def announce (a : Assembly) (child : ObjectId) : Assembly × Option SurveyError :=
  match a.waiters[child]? with
  | none => (a, none)
  | some parents => meetAll child parents.toList { a with waiters := a.waiters.erase child }

/-- The number of objects that are parked or ready. It falls by one for each object measured. -/
def outstanding (a : Assembly) : Nat := a.parked.size + a.ready.length

theorem outstanding_meet (child : ObjectId) (a : Assembly) (parent : ObjectId) :
    (a.meet child parent).1.outstanding = a.outstanding := by
  unfold meet
  split
  · rfl
  · rename_i entry found
    have present : parent ∈ a.parked := by
      rw [Std.HashMap.mem_iff_isSome_getElem?, found]; rfl
    have positive : 0 < a.parked.size :=
      Nat.pos_of_ne_zero fun none => by
        have bare : a.parked.isEmpty = true := by
          rw [Std.HashMap.isEmpty_eq_size_eq_zero, none]; rfl
        exact Std.HashMap.isEmpty_iff_forall_not_mem.mp bare _ present
    split
    · simp only [outstanding, Std.HashMap.size_erase, present, if_true, List.length_cons]
      omega
    · simp only [outstanding, Std.HashMap.size_insert, present, if_true]

theorem outstanding_meetAll (child : ObjectId) (parents : List ObjectId) (a : Assembly) :
    (meetAll child parents a).1.outstanding = a.outstanding := by
  induction parents generalizing a with
  | nil => rfl
  | cons parent rest ih =>
    have same := outstanding_meet child a parent
    simp only [meetAll]
    split
    · rename_i met
      rw [met] at same
      exact same
    · rename_i met
      rw [met] at same
      rw [ih, same]

theorem outstanding_announce (a : Assembly) (child : ObjectId) :
    (a.announce child).1.outstanding = a.outstanding := by
  unfold announce
  split
  · rfl
  · rw [outstanding_meetAll]; rfl

/-- Measures everything that is ready, and what becomes ready by that. -/
def settle (hints : Hints) (a : Assembly) : Assembly × Option SurveyError :=
  match stack : a.ready with
  | [] => (a, none)
  | object :: rest =>
    let popped := { a with ready := rest }
    if popped.cancelled then (popped, some .cancelled)
    else
      match measure popped.shelf object with
      | .error error => (popped, some error)
      | .ok m =>
        let announced := (popped.finalize hints object m).announce object.id
        have fewer : announced.1.outstanding < a.outstanding := by
          simp only [announced, outstanding_announce]
          simp only [outstanding, finalize, popped, stack, List.length_cons]
          omega
        match announced.2 with
        | some error => (announced.1, some error)
        | none => settle hints announced.1
termination_by a.outstanding

def enlist (parent : ObjectId) (waiters : Std.HashMap ObjectId (Array ObjectId))
    (child : ObjectId) : Std.HashMap ObjectId (Array ObjectId) :=
  waiters.alter child fun parents => some ((parents.getD #[]).push parent)

/-- Takes one object. An object accepted before is only counted. -/
def accept (hints : Hints) (a : Assembly) (object : HistoryObject) :
    Assembly × Option SurveyError :=
  if a.knows object.id then
    ({ a with statistics :=
      { a.statistics with duplicates := a.statistics.duplicates + 1 } }, none)
  else
    let missing := object.dependencies.filter (!a.shelf.isFinalized ·)
    let a := { a with waiters := missing.foldl (enlist object.id) a.waiters }
    if missing.isEmpty then settle hints { a with ready := object :: a.ready }
    else
      let parked := a.parked.insert object.id ⟨object, missing.length⟩
      let peak := max a.statistics.peakParked parked.size
      ({ a with parked := parked, statistics := { a.statistics with peakParked := peak } }, none)

/-- Objects that someone waits for although they never arrived, each with the first to wait for
it, in ascending order. -/
def absent (a : Assembly) : List (ObjectId × ObjectId) :=
  let absent := a.waiters.toList.filterMap fun (child, parents) =>
    if a.parked.contains child then none else parents[0]?.map fun parent => (child, parent)
  absent.mergeSort fun left right => left.1 ≤ right.1

/-- The finished summary, unless an object is still parked. -/
def finish (a : Assembly) : Except SurveyError Summary :=
  if a.parked.isEmpty then .ok a.summary
  else match a.absent with
    | (id, parent) :: _ => .error (.missingObject id parent)
    | [] => .error (.breach (.stillParked a.parked.size))

end Assembly

end HistorySurvey
