/-! Sets of characters as ranges of code points, ascending and with a gap between any two. -/
namespace HistorySurvey

structure CharSet where
  ranges : List (Nat × Nat)
  deriving DecidableEq

namespace CharSet

def lastCode : Nat := 0x10ffff

def containsCode (s : CharSet) (code : Nat) : Bool :=
  s.ranges.any fun range => range.1 ≤ code && code ≤ range.2

def contains (s : CharSet) (c : Char) : Bool := s.containsCode c.toNat

def empty : CharSet := ⟨[]⟩

def all : CharSet := ⟨[(0, lastCode)]⟩

def ascii : CharSet := ⟨[(0, 0x7f)]⟩

def isEmpty (s : CharSet) : Bool := s.ranges.isEmpty

def isAscii (s : CharSet) : Bool := s.ranges.all fun range => range.2 ≤ 0x7f

/-- Joins ranges that touch; the ranges come in order of their first code point. -/
def joined (current : Nat × Nat) : List (Nat × Nat) → List (Nat × Nat)
  | [] => [current]
  | next :: rest =>
    if next.1 ≤ current.2 + 1 then joined (current.1, max current.2 next.2) rest
    else current :: joined next rest

def ofRanges (ranges : List (Nat × Nat)) : CharSet :=
  match ranges.mergeSort fun a b => a.1 ≤ b.1 with
  | [] => empty
  | first :: rest => ⟨joined first rest⟩

def ofCodePoints (codes : List Nat) : CharSet := ofRanges (codes.map fun code => (code, code))

def ofChar (c : Char) : CharSet := ⟨[(c.toNat, c.toNat)]⟩

def unions (sets : List CharSet) : CharSet := ofRanges (sets.flatMap ranges)

def gaps (low : Nat) : List (Nat × Nat) → List (Nat × Nat)
  | [] => if low ≤ lastCode then [(low, lastCode)] else []
  | range :: rest =>
    if low < range.1 then (low, range.1 - 1) :: gaps (range.2 + 1) rest
    else gaps (range.2 + 1) rest

def complement (s : CharSet) : CharSet := ⟨gaps 0 s.ranges⟩

def inter (s t : CharSet) : CharSet := (unions [s.complement, t.complement]).complement

def diff (s t : CharSet) : CharSet := s.inter t.complement

def symmDiff (s t : CharSet) : CharSet := unions [s.diff t, t.diff s]

/-- Numbers in hexadecimal: words between blanks, and within a word numbers between marks. -/
structure Words where
  done : Array (List Nat)
  word : Array Nat
  number : Option Nat

def Words.endNumber (w : Words) : Words :=
  match w.number with
  | some n => { w with word := w.word.push n, number := none }
  | none => w

def Words.endWord (w : Words) : Words :=
  let w := w.endNumber
  if w.word.isEmpty then w else { w with done := w.done.push w.word.toList, word := #[] }

def Words.next (w : Words) (c : Char) : Words :=
  let digit (value : Nat) : Words := { w with number := some (16 * w.number.getD 0 + value) }
  if '0' ≤ c ∧ c ≤ '9' then digit (c.toNat - '0'.toNat)
  else if 'a' ≤ c ∧ c ≤ 'f' then digit (c.toNat - 'a'.toNat + 10)
  else if c = '-' ∨ c = ',' then w.endNumber
  else w.endWord

/-- The words of a table of code points, such as `[[0x41, 0x5a], [0xaa]]` for a range and a single
one. -/
def hexWords (text : String) : List (List Nat) :=
  (text.foldl Words.next ⟨#[], #[], none⟩).endWord.done.toList

def ofText (text : String) : CharSet :=
  ⟨(hexWords text).filterMap fun
    | [code] => some (code, code)
    | [first, last] => some (first, last)
    | _ => none⟩

end CharSet

end HistorySurvey
