import HistorySurvey.Regex.Database

/-! The characters of a class. Without the Unicode flag a class is one of ASCII characters, and what
would reach beyond them is refused. -/
namespace HistorySurvey.Regex

def asciiRanges : String → List (Nat × Nat)
  | "alnum" => [(0x30, 0x39), (0x41, 0x5a), (0x61, 0x7a)]
  | "alpha" => [(0x41, 0x5a), (0x61, 0x7a)]
  | "ascii" => [(0, 0x7f)]
  | "blank" => [(0x09, 0x09), (0x20, 0x20)]
  | "cntrl" => [(0, 0x1f), (0x7f, 0x7f)]
  | "digit" => [(0x30, 0x39)]
  | "graph" => [(0x21, 0x7e)]
  | "lower" => [(0x61, 0x7a)]
  | "print" => [(0x20, 0x7e)]
  | "punct" => [(0x21, 0x2f), (0x3a, 0x40), (0x5b, 0x60), (0x7b, 0x7e)]
  | "space" => [(0x09, 0x0d), (0x20, 0x20)]
  | "upper" => [(0x41, 0x5a)]
  | "word" => [(0x30, 0x39), (0x41, 0x5a), (0x5f, 0x5f), (0x61, 0x7a)]
  | "xdigit" => [(0x30, 0x39), (0x41, 0x46), (0x61, 0x66)]
  | _ => []

/-- What is known about characters without the Unicode flag: no properties, and of ASCII only. -/
def CharacterDatabase.ascii : CharacterDatabase where
  property? _ := none
  digits := CharSet.ofRanges (asciiRanges "digit")
  blanks := CharSet.ofRanges (asciiRanges "space")
  words := CharSet.ofRanges (asciiRanges "word")
  closeCase := Unicode.CaseFolding.closeAscii
  letters := CharSet.ofRanges (asciiRanges "alpha")
  numbers := CharSet.ofRanges (asciiRanges "digit")

structure Flags where
  ignoreCase : Bool
  multiLine : Bool
  dotAll : Bool
  unicode : Bool
  anyLineEnd : Bool

namespace Flags
variable (database : CharacterDatabase)

def initial : Flags := ⟨false, false, false, true, false⟩

def change (flags : Flags) (changes : FlagChanges) : Flags :=
  { ignoreCase := (changes.state? .ignoreCase).getD flags.ignoreCase
    multiLine := (changes.state? .multiLine).getD flags.multiLine
    dotAll := (changes.state? .dotAll).getD flags.dotAll
    unicode := (changes.state? .unicode).getD flags.unicode
    anyLineEnd := (changes.state? .anyLineEnd).getD flags.anyLineEnd }

/-- The database that is asked. -/
def asked (flags : Flags) : CharacterDatabase := if flags.unicode then database else .ascii

def fold (flags : Flags) (s : CharSet) : CharSet :=
  if flags.ignoreCase then (flags.asked database).closeCase s else s

/-- Refuses what reaches beyond ASCII without the Unicode flag. -/
def confine? (flags : Flags) (s : CharSet) : Option CharSet :=
  if flags.unicode || s.isAscii then some s else none

/-- A class after folding its case and turning it around. -/
def finish? (flags : Flags) (negated : Bool) (s : CharSet) : Option CharSet :=
  let s := flags.fold database s
  flags.confine? (if negated then s.complement else s)

def property? (flags : Flags) (query : PropertyQuery) (negated : Bool) : Option CharSet :=
  ((flags.asked database).property? query).bind (flags.finish? database negated)

def shorthand? (flags : Flags) (kind : Shorthand) (negated : Bool) : Option CharSet :=
  let s := (flags.asked database).shorthand kind
  flags.confine? (if negated then s.complement else s)

end Flags

def SetOperation.apply : SetOperation → CharSet → CharSet → CharSet
  | .intersection => CharSet.inter
  | .difference => CharSet.diff
  | .symmetricDifference => CharSet.symmDiff

section
variable (database : CharacterDatabase)

mutual

/-- The characters of a class. Case is ignored at every bracket and on both sides of an
operation. -/
def ClassSet.characters? (flags : Flags) : ClassSet → Option CharSet
  | .literal sign => flags.confine? (CharSet.ofChar sign.character)
  | .range first last =>
    flags.confine? (CharSet.ofRanges [(first.character.toNat, last.character.toNat)])
  | .ascii name negated => flags.finish? database negated (CharSet.ofRanges (asciiRanges name))
  | .property query negated => flags.property? database query negated
  | .shorthand kind negated => flags.shorthand? database kind negated
  | .bracketed negated content => (content.characters? flags).bind (flags.finish? database negated)
  | .union items => (ClassSet.allCharacters? flags items).map CharSet.unions
  | .operation kind left right => do
    let left ← left.characters? flags
    let right ← right.characters? flags
    some (kind.apply (flags.fold database left) (flags.fold database right))

def ClassSet.allCharacters? (flags : Flags) : List ClassSet → Option (List CharSet)
  | [] => some []
  | item :: rest => do
    let first ← item.characters? flags
    let others ← ClassSet.allCharacters? flags rest
    some (first :: others)

end

end

end HistorySurvey.Regex
