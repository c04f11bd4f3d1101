import HistorySurvey.Regex.Expression
import HistorySurvey.Unicode.Age
import HistorySurvey.Unicode.Break
import HistorySurvey.Unicode.CaseFolding

/-! What expressions ask about characters. The answers are those of a database, which grows with
every version of the standard. -/
namespace HistorySurvey.Regex

structure CharacterDatabase where
  /-- The characters that a query is about, if the database knows what it asks for. -/
  property? : PropertyQuery → Option CharSet
  digits : CharSet
  blanks : CharSet
  words : CharSet
  /-- A set with every character that differs in case only from one of its own. -/
  closeCase : CharSet → CharSet
  /-- Characters that names of groups begin with, and those of numbers, which may follow. -/
  letters : CharSet
  numbers : CharSet

namespace CharacterDatabase
variable (database : CharacterDatabase)

def shorthand : Shorthand → CharSet
  | .digit => database.digits
  | .space => database.blanks
  | .word => database.words

def beginsName (c : Char) : Bool := c = '_' || database.letters.contains c

def continuesName (c : Char) : Bool :=
  database.beginsName c || c ∈ ['.', '[', ']'] || database.numbers.contains c

end CharacterDatabase

/-- A name of a property in lower case without separators and without a leading "is". Only the
abbreviation of a comment property keeps it. -/
def looseName (name : List Char) : String :=
  let lower := name.map Char.toLower
  let startsWithIs := ['i', 's'].isPrefixOf lower
  let letters := (if startsWithIs then lower.drop 2 else lower).filter fun c =>
    c ≠ ' ' && c ≠ '_' && c ≠ '-' && c.toNat < 0x80
  if startsWithIs && letters = ['c'] then "isc" else String.ofList letters

/-- Abbreviations that name a category or script although a property has the same. -/
def ambiguousNames : List String := ["cf", "sc", "lc"]

/-- The characters that have a value of a property. -/
def valued? (property value : String) : Option CharSet :=
  if property ∈ ["gc", "generalcategory"] then Unicode.Category.find? value
  else if property ∈ ["sc", "script"] then Unicode.Script.find? value
  else if property ∈ ["scx", "scriptextensions"] then Unicode.Script.findExtended? value
  else if property = "age" then Unicode.Age.find? value
  else if property ∈ ["gcb", "graphemeclusterbreak"] then
    Unicode.Break.find? Unicode.Break.graphemes value
  else if property ∈ ["wb", "wordbreak"] then Unicode.Break.find? Unicode.Break.words value
  else if property ∈ ["sb", "sentencebreak"] then Unicode.Break.find? Unicode.Break.sentences value
  else none

/-- The characters that a query is about. A name alone may be a property, a category or a script,
and is looked for in this order. -/
def PropertyQuery.characters? : PropertyQuery → Option CharSet
  | .name written =>
    let loose := looseName written
    let property := if loose ∈ ambiguousNames then none else Unicode.Property.find? loose
    property.or ((Unicode.Category.find? loose).or (Unicode.Script.find? loose))
  | .value property writtenValue => valued? (looseName property) (looseName writtenValue)

/-- Characters of words: letters, marks, decimal digits, connectors and joiners. -/
def wordCharacters : CharSet :=
  CharSet.unions [Unicode.Property.alphabetic, Unicode.Category.marks,
    Unicode.Category.decimalNumbers, Unicode.Category.union ["pc"], Unicode.Property.joinControl]

/-- The database of one version of the standard. -/
def CharacterDatabase.unicode : CharacterDatabase where
  property? := PropertyQuery.characters?
  digits := Unicode.Category.decimalNumbers
  blanks := Unicode.Property.whiteSpace
  words := wordCharacters
  closeCase := Unicode.CaseFolding.close
  letters := Unicode.Property.alphabetic
  numbers := Unicode.Category.numbers

end HistorySurvey.Regex
