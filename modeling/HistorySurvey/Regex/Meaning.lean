import HistorySurvey.Regex.Class
import HistorySurvey.Regex.Reader
import HistorySurvey.Regex.Size

/-! The meaning of a written expression under its flags. A change of flags holds to the end of the
innermost group. -/
namespace HistorySurvey.Regex

/-- What a dot matches. Without the Unicode flag it could match part of a character. -/
def dotSet? (flags : Flags) : Option CharSet :=
  if !flags.unicode then none
  else if flags.dotAll then some CharSet.all
  else if flags.anyLineEnd then some (CharSet.ofCodePoints [0x0a, 0x0d]).complement
  else some (CharSet.ofCodePoints [0x0a]).complement

section
variable (database : CharacterDatabase)

def Anchor.look (flags : Flags) : Anchor → Look
  | .lineStart =>
    if !flags.multiLine then .textStart else if flags.anyLineEnd then .anyLineStart else .lineStart
  | .lineEnd =>
    if !flags.multiLine then .textEnd else if flags.anyLineEnd then .anyLineEnd else .lineEnd
  | .textStart => .textStart
  | .textEnd => .textEnd
  | .wordBoundary => .word .boundary (flags.asked database).words
  | .insideWord => .word .inside (flags.asked database).words
  | .wordStart => .word .start (flags.asked database).words
  | .wordEnd => .word .stop (flags.asked database).words
  | .wordStartHalf => .word .startHalf (flags.asked database).words
  | .wordEndHalf => .word .stopHalf (flags.asked database).words

/-- The characters that a literal matches. A byte beyond ASCII is no character. -/
def Literal.characters? (flags : Flags) (literal : Literal) : Option CharSet :=
  let s := CharSet.ofChar literal.character
  if !flags.unicode && literal.byte && !s.isAscii then none else some (flags.fold database s)

mutual

def Expression.meaning? (flags : Flags) : Expression → Option (Regex × Flags)
  | .empty => some (.empty, flags)
  | .flags changes => some (.empty, flags.change changes)
  | .literal sign => (sign.characters? database flags).map fun s => (.set s, flags)
  | .dot => (dotSet? flags).map fun s => (.set s, flags)
  | .anchor place => some (.look (place.look database flags), flags)
  | .property query negated => (flags.property? database query negated).map fun s => (.set s, flags)
  | .shorthand kind negated => (flags.shorthand? database kind negated).map fun s => (.set s, flags)
  | .bracketed negated content =>
    ((content.characters? database flags).bind (flags.finish? database negated)).map
      fun s => (.set s, flags)
  | .repetition expression min max => do
    let (regex, after) ← expression.meaning? flags
    some (.repeated regex min max, after)
  | .group changes capturing expression => do
    let (regex, _) ← expression.meaning? (flags.change changes)
    some (if capturing then .capture regex else regex, flags)
  | .alternation branches => do
    let (regexes, after) ← Expression.meanings? flags branches
    some (eitherAll regexes, after)
  | .concat items => do
    let (regexes, after) ← Expression.meanings? flags items
    some (concatAll regexes, after)

/-- The meanings of expressions in a row, each under the flags that the one before leaves. -/
def Expression.meanings? (flags : Flags) : List Expression → Option (List Regex × Flags)
  | [] => some ([], flags)
  | expression :: rest => do
    let (regex, flags) ← expression.meaning? flags
    let (regexes, after) ← Expression.meanings? flags rest
    some (regex :: regexes, after)

end

end

end Regex

/-- The expression that a text writes, with the characters of a database and a limit to its size. -/
def Regex.read? (database : Regex.CharacterDatabase) (limit : Nat) (text : List Char) :
    Option Regex := do
  let expression ← Regex.Expression.read? database text
  let (regex, _) ← expression.meaning? database .initial
  if regex.isTooLarge limit then none else some regex

end HistorySurvey
