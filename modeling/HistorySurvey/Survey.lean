import HistorySurvey.Stream

/-! The survey of a history: every object of a stream is assembled, and the summary is given only
if nothing failed on the way. -/
namespace HistorySurvey

/-- How a survey ended, and how many objects it had measured by then. -/
structure Outcome where
  progress : Nat
  result : Except SurveyError Summary

namespace Survey

def acceptAll (hints : Hints) : List HistoryObject → Assembly → Assembly × Option SurveyError
  | [], a => (a, none)
  | object :: rest, a =>
    match a.accept hints object with
    | (a, some error) => (a, some error)
    | (a, none) => acceptAll hints rest a

/-- What interrupts a stream after the objects that could be accepted. A request to stop, made
after so many objects, is noticed with the next object; a failing source is noticed first. -/
def interruption (stream : ObjectStream) (stopAfter : Option Nat) : Option SurveyError :=
  match stopAfter with
  | some calls =>
    if calls < stream.objects.length then some .cancelled else stream.failure.map .source
  | none => stream.failure.map .source

def accepted (stream : ObjectStream) (stopAfter : Option Nat) : List HistoryObject :=
  match stopAfter with
  | some calls => stream.objects.take calls
  | none => stream.objects

def run (stream : ObjectStream) (stopAfter : Option Nat) : Outcome :=
  let start := stream.references.foldl Assembly.recordReference Assembly.empty
  let assembled := acceptAll stream.hints (accepted stream stopAfter) start
  { progress := assembled.1.progress
    result :=
      match assembled.2, interruption stream stopAfter with
      | some error, _ => .error error
      | none, some error => .error error
      | none, none => assembled.1.finish }

end Survey

end HistorySurvey
