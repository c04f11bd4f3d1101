import HistorySurvey.Text.Natural

/-! Names by which people find an object: the reference from which it was reached and the way from
there, as a revision expression. -/
namespace HistorySurvey.Object

def splitAtLast? (mark : Char) (text : List Char) : Option (List Char × List Char) :=
  let after := (text.reverse.takeWhile (· ≠ mark)).reverse
  if after.length = text.length then none
  else some (text.take (text.length - after.length - 1), after)

/-- Steps to a first parent are counted up to what 64 bits hold. A name that counts as many as that
has no next count in 64 bits; here the count goes on beyond them, and nothing is said of such names. -/
def stepLimit : Nat := 0xffffffffffffffff

/-- The name of the parent with this number, from zero. Steps to first parents in a row are
counted in one. -/
def parentName (commit : String) (index : Nat) : String :=
  if 0 < index then commit ++ "^" ++ toString (index + 1)
  else
    let collapsed? := do
      let (base, steps) ← splitAtLast? '~' commit.toList
      let count ← Text.readNatural? stepLimit steps
      some (String.ofList base ++ "~" ++ toString (count + 1))
    collapsed?.getD (commit ++ "~1")

/-- What marks the root tree of a commit. -/
def rootMark : String := "^\x7btree\x7d"

def rootTreeName (commit : String) : String := commit ++ rootMark

def tagTargetName (tag : String) : String := tag ++ "^\x7b\x7d"

def dropEnding? (ending text : List Char) : Option (List Char) :=
  if ending.isSuffixOf text then some (text.take (text.length - ending.length)) else none

/-- The name of an entry: a colon leads into the root tree of a commit, and slashes lead on from
there. -/
def entryName (tree segment : String) : String :=
  match dropEnding? rootMark.toList tree.toList with
  | some commit => String.ofList commit ++ ":" ++ segment
  | none => tree ++ (if tree.toList.contains ':' then "/" else ":") ++ segment

end HistorySurvey.Object
