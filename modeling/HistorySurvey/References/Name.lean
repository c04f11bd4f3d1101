import HistorySurvey.References.Group

/-! Names that a reference may have. -/
namespace HistorySurvey.References

def segments : List Char → List (List Char)
  | [] => [[]]
  | '/' :: rest => [] :: segments rest
  | c :: rest =>
    match segments rest with
    | [] => [[c]]
    | first :: others => (c :: first) :: others

def containsPair (a b : Char) : List Char → Bool
  | [] => false
  | c :: rest => (c = a && rest.head? = some b) || containsPair a b rest

/-- Characters that no name holds: controls, blanks, and those with a meaning in revision
expressions or patterns. -/
def isForbidden (c : Char) : Bool :=
  c.toNat < 0x20 || c.toNat = 0x7f || c ∈ [' ', '~', '^', ':', '?', '*', '[', '\\']

def lockEnding : List Char := ".lock".toList

/-- A part is not empty, does not begin with a point, and is no lock file. -/
def isSegmentValid (segment : List Char) : Bool :=
  !segment.isEmpty && segment.head? ≠ some '.' && !lockEnding.isSuffixOf segment

/-- A name without slashes is one of the few that live outside the hierarchy. -/
def isSpecial (name : List Char) : Bool := name.all fun c => c.isUpper || c = '_'

def isValidName (name : String) : Bool :=
  let chars := name.toList
  (segments chars).all isSegmentValid && !chars.any isForbidden
    && !containsPair '.' '.' chars && !containsPair '@' '\x7b' chars
    && chars.getLast? ≠ some '.' && (chars.contains '/' || isSpecial chars)

end HistorySurvey.References
