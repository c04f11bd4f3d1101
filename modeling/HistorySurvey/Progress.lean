/-! A display that follows the number of measured objects. It never influences what it shows. -/
namespace HistorySurvey

structure Display where
  position : Option Nat
  finishes : Nat
  deriving DecidableEq

namespace Display

def idle : Display := ⟨none, 0⟩

def moveTo (d : Display) (position : Nat) : Display := { d with position := some position }

def finish (d : Display) : Display := { d with finishes := d.finishes + 1 }

/-- Follows the samples of a counter and closes with its last value, which is shown even if no
sample was taken. -/
def follow (d : Display) (samples : List Nat) (last : Nat) : Display :=
  ((samples.foldl Display.moveTo d).moveTo last).finish

end Display

end HistorySurvey
