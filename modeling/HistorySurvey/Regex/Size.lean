import HistorySurvey.Regex.Basic

/-! How much memory an expression takes as an automaton over the bytes of UTF-8. Expressions that
take more than a limit are refused. -/
namespace HistorySurvey.Regex

def stateSize : Nat := 32

/-- The limit where none is set. -/
def sizeLimit : Nat := 10 * 1024 * 1024

/-- Ranges of bytes that characters of one length pass through, leading byte first. Continuation
bytes count from zero; `count` is their number. -/
def byteRanges : Nat → Nat → Nat → List (List (Nat × Nat))
  | 0, low, high => [[(low, high)]]
  | count + 1, low, high =>
    let block := Nat.pow 64 (count + 1)
    let first := low / block
    let last := high / block
    if first = last then
      (byteRanges count (low % block) (high % block)).map ((first, first) :: ·)
    else
      let partFirst := low % block ≠ 0
      let partLast := high % block ≠ block - 1
      let wholeFirst := if partFirst then first + 1 else first
      let wholeLast := if partLast then last - 1 else last
      (if partFirst then
        (byteRanges count (low % block) (block - 1)).map ((first, first) :: ·) else [])
      ++ (if wholeFirst ≤ wholeLast then
        [(wholeFirst, wholeLast) :: List.replicate (count + 1) (0, 63)] else [])
      ++ (if partLast then (byteRanges count 0 (high % block)).map ((last, last) :: ·) else [])

def lengthClasses : List (Nat × Nat × Nat) :=
  [(0, 0, 0x7f), (1, 0x80, 0x7ff), (2, 0x800, 0xd7ff), (2, 0xe000, 0xffff),
    (3, 0x10000, 0x10ffff)]

/-- The paths of bytes through a set, in ascending order. Paths of different lengths differ in the
leading byte, so the number of continuation bytes is put in front. -/
def bytePaths (s : CharSet) : List (List (Nat × Nat)) :=
  s.ranges.flatMap fun range => lengthClasses.flatMap fun (count, low, high) =>
    let low := max low range.1
    let high := min high range.2
    if low ≤ high then (byteRanges count low high).map ((count, count) :: ·) else []

def sharedLength : List (Nat × Nat) → List (Nat × Nat) → Nat
  | a :: as, b :: bs => if a = b then sharedLength as bs + 1 else 0
  | _, _ => 0

def treeSize : List (Nat × Nat) → List (List (Nat × Nat)) → Nat
  | _, [] => 0
  | previous, path :: rest =>
    path.length - max 1 (sharedLength previous path) + treeSize path rest

/-- A set is a step for a single ASCII range, a list of ranges within ASCII, and otherwise a tree
of bytes. -/
def setSize (s : CharSet) : Nat :=
  match s.ranges with
  | [] => stateSize
  | [(low, high)] =>
    if high ≤ 0x7f then stateSize
    else if low = high then stateSize * (Char.ofNat low).utf8Size
    else treeCost
  | _ => if s.isAscii then 2 * stateSize + 8 * s.ranges.length else treeCost
where
  treeCost : Nat :=
    let paths := bytePaths s
    2 * stateSize + 4 * paths.length + stateSize * treeSize [] paths

def onlyEmpty : Regex → Bool
  | .empty | .look _ => true
  | .set _ => false
  | .concat first second | .either first second => onlyEmpty first && onlyEmpty second
  | .repeated regex _ max => max = some 0 || onlyEmpty regex
  | .capture regex => onlyEmpty regex

def mayBeEmpty : Regex → Bool
  | .empty | .look _ => true
  | .set _ => false
  | .concat first second => mayBeEmpty first && mayBeEmpty second
  | .either first second => mayBeEmpty first || mayBeEmpty second
  | .repeated regex min _ => min = 0 || mayBeEmpty regex
  | .capture regex => mayBeEmpty regex

def branchSize : Nat := stateSize + 8

def copiesSize (count size : Nat) : Nat := if count = 0 then stateSize else count * size

def repetitionSize (size : Nat) (mayBeEmpty : Bool) (min : Nat) (max : Option Nat) : Nat :=
  match min, max with
  | 0, some 0 => stateSize
  | 1, some 1 => size
  | 0, some 1 => branchSize + size + stateSize
  | 0, none => if mayBeEmpty then 2 * branchSize + size + stateSize else branchSize + size
  | min, none => copiesSize (min - 1) size + size + branchSize
  | min, some max =>
    if min = max then copiesSize min size
    else copiesSize min size + stateSize + (max - min) * (branchSize + size)

def size : Regex → Nat
  | .empty | .look _ => stateSize
  | .set characters => setSize characters
  | .concat first second => size first + size second
  | .either first second => size first + size second + branchSize
  | .repeated regex min max =>
    let (min, max) :=
      if onlyEmpty regex then (Nat.min min 1, some ((max.getD 1).min 1)) else (min, max)
    repetitionSize (size regex) (mayBeEmpty regex) min max
  | .capture regex => size regex + 2 * stateSize

def frameSize : Nat := 5 * stateSize

def isTooLarge (limit : Nat) (regex : Regex) : Bool := limit < regex.size + frameSize

end HistorySurvey.Regex
