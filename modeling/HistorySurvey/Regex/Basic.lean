import HistorySurvey.Unicode.CharSet

/-! Regular expressions and what they match. The places of a text are numbered from zero before its
first character to its length behind the last one. From a set of places an expression leads to the
set of places where its matches end. -/
namespace HistorySurvey

inductive Regex.WordEdge
  | boundary
  | inside
  | start
  | stop
  | startHalf
  | stopHalf
  deriving DecidableEq

inductive Regex.Look
  | textStart
  | textEnd
  /-- After a line feed, or at the beginning. -/
  | lineStart
  | lineEnd
  /-- The same with carriage returns, alone or before a line feed. -/
  | anyLineStart
  | anyLineEnd
  /-- At the edge of a word of the given characters. -/
  | word (edge : Regex.WordEdge) (characters : CharSet)
  deriving DecidableEq

inductive Regex
  | empty
  | set (characters : CharSet)
  | look (condition : Regex.Look)
  | concat (first second : Regex)
  | either (first second : Regex)
  | repeated (regex : Regex) (min : Nat) (max : Option Nat)
  | capture (regex : Regex)
  deriving DecidableEq

namespace Regex

abbrev Text := Array Char

def before? (text : Text) (place : Nat) : Option Char :=
  if 0 < place then text[place - 1]? else none

def after? (text : Text) (place : Nat) : Option Char := text[place]?

def WordEdge.holds (edge : WordEdge) (before after : Bool) : Bool :=
  match edge with
  | .boundary => before != after
  | .inside => before == after
  | .start => !before && after
  | .stop => before && !after
  | .startHalf => !before
  | .stopHalf => !after

def Look.holds (text : Text) (place : Nat) (look : Look) : Bool :=
  let before := before? text place
  let after := after? text place
  match look with
  | .textStart => before.isNone
  | .textEnd => after.isNone
  | .lineStart => before.isNone || before == some '\n'
  | .lineEnd => after.isNone || after == some '\n'
  | .anyLineStart =>
    before.isNone || before == some '\n' || (before == some '\r' && after != some '\n')
  | .anyLineEnd =>
    after.isNone || after == some '\r' || (after == some '\n' && before != some '\r')
  | .word edge characters =>
    WordEdge.holds edge (before.any characters.contains) (after.any characters.contains)

/-- A set of places: a place belongs to it if its bit is set. -/
abbrev Places := Nat

namespace Places

def all (text : Text) : Places := 1 <<< (text.size + 1) - 1

def filter (property : Nat → Bool) (places : Places) : Places :=
  (List.range (places.log2 + 1)).foldl (fun kept place =>
    if places.testBit place && property place then kept ||| 1 <<< place else kept) 0

/-- Applies a map a number of times. Once it changes nothing it is not applied again. -/
def iterate (map : Places → Places) : Nat → Places → Places
  | 0, places => places
  | times + 1, places =>
    let next := map places
    if next = places then places else iterate map times next

def reached (map : Places → Places) : Nat → Places → Places
  | 0, places => places
  | times + 1, places =>
    let next := map places
    if next ||| places = places then places else places ||| reached map times next

end Places

/-- Where matches end that begin at one of the given places. A text has one place more than
characters, so without an upper bound no repetition needs more rounds than that. -/
def ends (text : Text) : Regex → Places → Places
  | .empty, places => places
  | .set characters, places =>
    places.filter (fun place => (after? text place).any characters.contains) <<< 1
  | .look condition, places =>
    places.filter fun place => condition.holds text place
  | .concat first second, places => ends text second (ends text first places)
  | .either first second, places => ends text first places ||| ends text second places
  | .repeated regex min max, places =>
    let more := match max with
      | some max => max - min
      | none => text.size + 1
    Places.reached (ends text regex) more (Places.iterate (ends text regex) min places)
  | .capture regex, places => ends text regex places

def isMatch (regex : Regex) (text : String) : Bool :=
  let characters := text.toList.toArray
  regex.ends characters (Places.all characters) != 0

def concatAll : List Regex → Regex
  | [] => .empty
  | [regex] => regex
  | regex :: rest => .concat regex (concatAll rest)

/-- One of several expressions; of none, an expression that matches nothing. -/
def eitherAll : List Regex → Regex
  | [] => .set CharSet.empty
  | [regex] => regex
  | regex :: rest => .either regex (eitherAll rest)

end Regex

end HistorySurvey
