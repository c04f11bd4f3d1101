import Std.Data.HashMap
import HistorySurvey.Object.Measure

/-! Measures kept for the objects that still need them. A measure is put on the shelf once. When
the last object that needs it has taken it, the measure goes and its place stays, so that the
object is still known to be measured. -/
namespace HistorySurvey

structure Place where
  measure : Option Measure
  /-- How often the measure will still be taken; without a number it stays for good. -/
  remaining : Option Nat

structure Shelf where
  places : Std.HashMap ObjectId Place
  live : Nat

namespace Shelf

def empty : Shelf := ⟨∅, 0⟩

instance : Inhabited Shelf := ⟨empty⟩

/-- The measure of an object as long as it is kept. -/
def get? (s : Shelf) (id : ObjectId) : Option Measure := s.places[id]?.bind Place.measure

def isFinalized (s : Shelf) (id : ObjectId) : Bool := s.places.contains id

def size (s : Shelf) : Nat := s.places.size

def isEmpty (s : Shelf) : Bool := s.places.isEmpty

/-- Whether a measure can be put for an object: each has one place for good. -/
def accepts (s : Shelf) (id : ObjectId) : Bool := !s.isFinalized id

/-- Puts a measure that will be taken so many times; one that nobody will take is not kept. An
object put before stays as it is. -/
def put (s : Shelf) (id : ObjectId) (measure : Measure) (uses : Option Nat) : Shelf :=
  if s.accepts id then
    if uses = some 0 then { s with places := s.places.insert id ⟨none, uses⟩ }
    else ⟨s.places.insert id ⟨some measure, uses⟩, s.live + 1⟩
  else s

/-- Takes the measure away and keeps its place. -/
def release (s : Shelf) (id : ObjectId) : Shelf :=
  match s.places[id]? with
  | some ⟨some _, remaining⟩ => ⟨s.places.insert id ⟨none, remaining⟩, s.live - 1⟩
  | _ => s

/-- One use of a measure; the last one releases it. -/
def consume (s : Shelf) (id : ObjectId) : Shelf :=
  match s.places[id]? with
  | some ⟨measure, some remaining⟩ =>
    let s := { s with places := s.places.insert id ⟨measure, some (remaining - 1)⟩ }
    if remaining ≤ 1 then s.release id else s
  | _ => s

end Shelf

end HistorySurvey
