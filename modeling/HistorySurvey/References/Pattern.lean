import HistorySurvey.References.Group
import HistorySurvey.Regex.Meaning
import HistorySurvey.Text.Quoted

/-! Patterns for names of references: a place in the hierarchy of names, or a regular expression
for the whole name. -/
namespace HistorySurvey.References

structure InvalidRegex where
  pattern : String
  deriving DecidableEq

def InvalidRegex.message (e : InvalidRegex) : String :=
  "invalid regexp: " ++ Text.quoted e.pattern

inductive Pattern
  /-- A name itself and everything below it. With a slash at its end, only what is below it. -/
  | below (place : String)
  /-- What an expression matches, with the text that writes it. -/
  | whole (source : String) (regex : Regex)
  deriving DecidableEq

namespace Pattern

/-- The expression bound to both ends of a name. -/
def anchored (pattern : String) : String := "^(?:" ++ pattern ++ ")$"

def ofRegex (pattern : String) (database : Regex.CharacterDatabase := .unicode)
    (limit : Nat := Regex.sizeLimit) : Except InvalidRegex Pattern :=
  match Regex.read? database limit (anchored pattern).toList with
  | some regex => .ok (.whole (anchored pattern) regex)
  | none => .error ⟨pattern⟩

def dropBeginning? (beginning text : List Char) : Option (List Char) :=
  if beginning.isPrefixOf text then some (text.drop beginning.length) else none

/-- Whether a name is at a place or below it, where a slash separates levels. -/
def isBelow (place name : List Char) : Bool :=
  match dropBeginning? place name with
  | none => false
  | some rest => place.getLast? = some '/' || rest.isEmpty || rest.head? = some '/'

def admits (pattern : Pattern) (name : String) : Bool :=
  match pattern with
  | below place => isBelow place.toList name.toList
  | whole _ regex => regex.isMatch name

end Pattern

end HistorySurvey.References
