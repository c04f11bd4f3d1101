import HistorySurvey.Assembly.Basic

/-! Objects of a history in the order of their discovery, as a source hands them out. -/
namespace HistorySurvey

structure ObjectStream where
  references : List String
  objects : List HistoryObject
  /-- Why nothing comes after them, unless the history ends there. -/
  failure : Option SourceError
  hints : Hints

namespace ObjectStream

/-- The next object and the stream after it. A stream that has failed goes on failing. -/
def next (s : ObjectStream) : Except SourceError (Option (HistoryObject × ObjectStream)) :=
  match s.objects with
  | object :: rest => .ok (some (object, { s with objects := rest }))
  | [] =>
    match s.failure with
    | some error => .error error
    | none => .ok none

def withoutHints (s : ObjectStream) : ObjectStream := { s with hints := fun _ => none }

/-- Objects that have not been seen before in a list. -/
def firstOccurrences (objects : List HistoryObject) : List HistoryObject :=
  (objects.foldl (fun (state : Std.HashMap ObjectId Unit × List HistoryObject) object =>
    if state.1.contains object.id then state
    else (state.1.insert object.id (), object :: state.2)) (∅, [])).2.reverse

/-- One link more in a count of 32 bits, which begins again at zero after its largest value. -/
def countLink (counts : Std.HashMap ObjectId Nat) (target : ObjectId) : Std.HashMap ObjectId Nat :=
  counts.alter target fun count => some ((count.getD 0 + 1) % (Count.limit 32 + 1))

/-- How many links point at each object. An object that occurs twice has its links once. -/
def linkCounts (objects : List HistoryObject) : Std.HashMap ObjectId Nat :=
  (firstOccurrences objects).foldl (fun counts object =>
    object.dependencies.foldl countLink counts) ∅

def countedLinks (counts : Std.HashMap ObjectId Nat) : Hints := fun id =>
  some (counts[id]?.getD 0)

/-- A stream over known objects. With a limit, reading fails at the first object behind it. -/
def ofList (objects : List HistoryObject) (references : List String) (limit : Option Nat) :
    ObjectStream :=
  { references := references
    objects := match limit with
      | some limit => objects.take limit
      | none => objects
    failure := limit.bind fun limit => objects[limit]?.map fun object => .unreadable object.id
    hints := countedLinks (linkCounts objects) }

end ObjectStream

end HistorySurvey
