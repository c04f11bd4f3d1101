import HistorySurvey.Object.Id
import HistorySurvey.Regex.Database
import HistorySurvey.Text.Blank
import HistorySurvey.Text.Natural

/-! Reading regular expressions. Each reader takes what it needs from the front of a text and gives
back the rest; nothing is read from a text that is no regular expression. Under the extended flag
blanks and comments between two signs are passed over. -/
namespace HistorySurvey.Regex

/-- Passes over blanks and over comments, which run to the end of their line. -/
def skipIgnored (inComment : Bool) : List Char → List Char
  | [] => []
  | c :: rest =>
    if inComment then skipIgnored (c ≠ '\n') rest
    else if Text.isBlank c then skipIgnored false rest
    else if c = '#' then skipIgnored true rest
    else c :: rest

def skip (extended : Bool) (input : List Char) : List Char :=
  if extended then skipIgnored false input else input

theorem length_skipIgnored_le (inComment : Bool) (input : List Char) :
    (skipIgnored inComment input).length ≤ input.length := by
  induction input generalizing inComment with
  | nil => exact Nat.le_refl 0
  | cons c rest ih =>
    have more := Nat.le_succ rest.length
    simp only [skipIgnored, List.length_cons]
    split
    · exact Nat.le_trans (ih _) more
    · split
      · exact Nat.le_trans (ih _) more
      · split
        · exact Nat.le_trans (ih _) more
        · exact Nat.le_refl _

theorem length_skip_lt (extended : Bool) (c : Char) (rest : List Char) :
    (skip extended rest).length < (c :: rest).length := by
  unfold skip
  split
  · exact Nat.lt_succ_of_le (length_skipIgnored_le false rest)
  · exact Nat.lt_succ_self _

def character? (code : Nat) : Option Char :=
  if code.isValidChar then some (Char.ofNat code) else none

def anyHexValue? (c : Char) : Option Nat := ObjectId.hexValue? c.toLower

def fixedHex (extended : Bool) : Nat → Nat → List Char → Option (Nat × List Char)
  | 0, code, input => some (code, input)
  | _ + 1, _, [] => none
  | count + 1, code, c :: rest => do
    let digit ← anyHexValue? c
    fixedHex extended count (16 * code + digit) (skip extended rest)

/-- Hexadecimal digits up to a closing brace; at least one. -/
def bracedHex (extended : Bool) (code : Option Nat) (input : List Char) :
    Option (Nat × List Char) :=
  match input with
  | [] => none
  | '\x7d' :: rest => code.map fun code => (code, skip extended rest)
  | c :: rest =>
    match anyHexValue? c with
    | some digit => bracedHex extended (some (16 * code.getD 0 + digit)) (skip extended rest)
    | none => none
termination_by input.length
decreasing_by exact length_skip_lt extended c rest

def hexLiteral (extended : Bool) (count : Nat) (byte : Bool) (input : List Char) :
    Option (Expression × List Char) := do
  let (code, byte, rest) ← match skip extended input with
    | '\x7b' :: rest =>
      (bracedHex extended none (skip extended rest)).map fun (code, rest) => (code, false, rest)
    | digits => (fixedHex extended count 0 digits).map fun (code, rest) => (code, byte, rest)
  let c ← character? code
  some (.literal ⟨c, byte⟩, rest)

def bracedName (extended : Bool) (name : List Char) (input : List Char) :
    Option (List Char × List Char) :=
  match input with
  | [] => none
  | '\x7d' :: rest => some (name.reverse, rest)
  | c :: rest => bracedName extended (c :: name) (skip extended rest)
termination_by input.length
decreasing_by exact length_skip_lt extended c rest

def splitAtFirst? (mark : List Char) : List Char → Option (List Char × List Char)
  | [] => none
  | c :: rest =>
    if mark.isPrefixOf (c :: rest) then some ([], (c :: rest).drop mark.length)
    else (splitAtFirst? mark rest).map fun (before, after) => (c :: before, after)

/-- A query by value names the property first. The sign between them does not matter. -/
def PropertyQuery.ofName (name : List Char) : PropertyQuery :=
  let split? := [['!', '='], [':'], ['=']].findSome? fun mark => splitAtFirst? mark name
  match split? with
  | some (before, after) => .value before after
  | none => .name name

def propertyClass (extended negated : Bool) (input : List Char) :
    Option (Expression × List Char) :=
  match skip extended input with
  | [] => none
  | '\x7b' :: rest =>
    (bracedName extended [] (skip extended rest)).map fun (name, rest) =>
      (.property (.ofName name) negated, rest)
  | c :: rest =>
    if c = '\\' then none else some (.property (.name [c]) negated, skip extended rest)

def isEdgeLetter (c : Char) : Bool := c.isAlpha || c = '-'

def edgeName (extended : Bool) (name : List Char) (input : List Char) :
    List Char × List Char :=
  match input with
  | [] => (name.reverse, [])
  | c :: rest =>
    if isEdgeLetter c then edgeName extended (c :: name) (skip extended rest)
    else (name.reverse, c :: rest)
termination_by input.length
decreasing_by exact length_skip_lt extended c rest

def namedEdges : List (String × Anchor) :=
  [("start", .wordStart), ("end", .wordEnd), ("start-half", .wordStartHalf),
    ("end-half", .wordEndHalf)]

/-- A word boundary. Letters in braces after it name an edge, and anything else there is no part
of it. -/
def wordBoundary (extended : Bool) (input : List Char) : Option (Expression × List Char) :=
  match input with
  | '\x7b' :: rest =>
    match skip extended rest with
    | [] => none
    | c :: more =>
      if isEdgeLetter c then
        let (name, rest) := edgeName extended [] (c :: more)
        match rest with
        | '\x7d' :: rest =>
          (namedEdges.find? (·.1 = String.ofList name)).map fun edge => (.anchor edge.2, rest)
        | _ => none
      else some (.anchor .wordBoundary, input)
  | _ => some (.anchor .wordBoundary, input)

def escapable (c : Char) : Bool :=
  c.toNat < 0x80 && !c.isAlphanum && c ≠ '<' && c ≠ '>'

def controls : List (Char × Char) :=
  [('a', '\x07'), ('f', '\x0c'), ('t', '\t'), ('n', '\n'), ('r', '\r'), ('v', '\x0b')]

def anchors : List (Char × Anchor) :=
  [('A', .textStart), ('z', .textEnd), ('B', .insideWord), ('<', .wordStart), ('>', .wordEnd)]

/-- Letters behind a backslash that stand for a class; capitals for what is outside it. -/
def shorthands : List (Char × Shorthand × Bool) :=
  [('d', .digit, false), ('s', .space, false), ('w', .word, false),
    ('D', .digit, true), ('S', .space, true), ('W', .word, true)]

def escape (extended : Bool) : List Char → Option (Expression × List Char)
  | [] => none
  | 'x' :: rest => hexLiteral extended 2 true rest
  | 'u' :: rest => hexLiteral extended 4 false rest
  | 'U' :: rest => hexLiteral extended 8 false rest
  | 'p' :: rest => propertyClass extended false rest
  | 'P' :: rest => propertyClass extended true rest
  | 'b' :: rest => wordBoundary extended rest
  | c :: rest =>
    if escapable c then some (.literal ⟨c, false⟩, rest)
    else match shorthands.lookup c, controls.lookup c, anchors.lookup c with
      | some (kind, negated), _, _ => some (.shorthand kind negated, rest)
      | none, some control, _ => some (.literal ⟨control, false⟩, rest)
      | none, none, some anchor => some (.anchor anchor, rest)
      | none, none, none => none

/-! Classes between brackets. -/

/-- A class that is not closed yet: the set operation that waits for its right side, and the items
of that side, the last one first. -/
structure OpenClass where
  negated : Bool
  left : Option (SetOperation × ClassSet)
  items : List ClassSet

namespace OpenClass

def content (o : OpenClass) : ClassSet :=
  let right := ClassSet.ofItems o.items.reverse
  match o.left with
  | some (operation, left) => .operation operation left right
  | none => right

def push (o : OpenClass) (item : ClassSet) : OpenClass := { o with items := item :: o.items }

/-- Set operations apply from left to right. -/
def operate (o : OpenClass) (operation : SetOperation) : OpenClass :=
  { o with left := some (operation, o.content), items := [] }

end OpenClass

def plain (c : Char) : ClassSet := .literal ⟨c, false⟩

/-- Hyphens at the beginning of a class stand for themselves. -/
def leadingHyphens (extended : Bool) (o : OpenClass) (input : List Char) :
    OpenClass × List Char :=
  match input with
  | '-' :: rest => leadingHyphens extended (o.push (plain '-')) (skip extended rest)
  | _ => (o, input)
termination_by input.length
decreasing_by exact length_skip_lt extended '-' rest

/-- The beginning of a class after its bracket. A closing bracket at once stands for itself. -/
def openClass (extended : Bool) (input : List Char) : OpenClass × List Char :=
  let (negated, input) := match skip extended input with
    | '^' :: rest => (true, skip extended rest)
    | other => (false, other)
  let (o, input) := leadingHyphens extended ⟨negated, none, []⟩ input
  match o.items, input with
  | [], ']' :: rest => (o.push (plain ']'), skip extended rest)
  | _, _ => (o, input)

def asciiNames : List String :=
  ["alnum", "alpha", "ascii", "blank", "cntrl", "digit", "graph", "lower", "print", "punct",
    "space", "upper", "word", "xdigit"]

def asciiClass? : List Char → Option (ClassSet × List Char)
  | ':' :: input =>
    let (negated, input) := match input with
      | '^' :: rest => (true, rest)
      | _ => (false, input)
    let name := String.ofList (input.takeWhile (· ≠ ':'))
    match input.dropWhile (· ≠ ':') with
    | ':' :: ']' :: rest => if name ∈ asciiNames then some (.ascii name negated, rest) else none
    | _ => none
  | _ => none

def classSign (extended : Bool) : List Char → Option (Expression × List Char)
  | [] => none
  | '\\' :: rest => escape extended rest
  | c :: rest => some (.literal ⟨c, false⟩, rest)

def ClassSet.ofExpression? : Expression → Option ClassSet
  | .literal sign => some (.literal sign)
  | .property query negated => some (.property query negated)
  | .shorthand kind negated => some (.shorthand kind negated)
  | _ => none

/-- The sign behind a hyphen, blanks and the beginning of a comment passed over. -/
def behindHyphen (extended : Bool) (input : List Char) : Option Char :=
  if extended then
    match input.dropWhile Text.isBlank with
    | '#' :: rest => (rest.dropWhile Text.isBlank).head?
    | other => other.head?
  else input.head?

/-- An item or a range of literals. A hyphen before a closing bracket or another hyphen makes no
range. -/
def classRange (extended : Bool) (input : List Char) : Option (ClassSet × List Char) := do
  let (first, rest) ← classSign extended input
  match skip extended rest with
  | '-' :: more =>
    let next := behindHyphen extended more
    if next = some ']' ∨ next = some '-' then
      let item ← ClassSet.ofExpression? first
      some (item, '-' :: more)
    else
      let (last, rest) ← classSign extended (skip extended more)
      match first, last with
      | .literal first, .literal last =>
        if first.character ≤ last.character then some (.range first last, rest) else none
      | _, _ => none
  | rest =>
    let item ← ClassSet.ofExpression? first
    some (item, rest)

def setOperation? : List Char → Option (SetOperation × List Char)
  | '&' :: '&' :: rest => some (.intersection, rest)
  | '-' :: '-' :: rest => some (.difference, rest)
  | '~' :: '~' :: rest => some (.symmetricDifference, rest)
  | _ => none

structure ClassReader where
  current : OpenClass
  outer : List OpenClass

def ClassReader.step (extended : Bool) (r : ClassReader) (input : List Char) :
    Option (ClassReader × List Char) :=
  match input with
  | '[' :: rest =>
    match asciiClass? rest with
    | some (item, rest) => some ({ r with current := r.current.push item }, rest)
    | none =>
      let (o, rest) := openClass extended rest
      some (⟨o, r.current :: r.outer⟩, rest)
  | _ =>
    match setOperation? input with
    | some (operation, rest) => some ({ r with current := r.current.operate operation }, rest)
    | none =>
      (classRange extended input).map fun (item, rest) =>
        ({ r with current := r.current.push item }, rest)

/-- Reads a class to its closing bracket. A step that takes nothing ends the reading. -/
def ClassReader.run (extended : Bool) (r : ClassReader) (input : List Char) :
    Option (Expression × List Char) :=
  match skip extended input with
  | ']' :: rest =>
    match r.outer with
    | [] => some (.bracketed r.current.negated r.current.content, rest)
    | around :: outer =>
      let item := ClassSet.bracketed r.current.negated r.current.content
      if rest.length < input.length then
        ClassReader.run extended ⟨around.push item, outer⟩ rest
      else none
  | signs =>
    match r.step extended signs with
    | some (r, rest) => if rest.length < input.length then r.run extended rest else none
    | none => none
termination_by input.length

def bracketedClass (extended : Bool) (input : List Char) : Option (Expression × List Char) :=
  let (o, rest) := openClass extended input
  ClassReader.run extended ⟨o, []⟩ rest

/-! Repetitions. -/

def countLimit : Nat := 0xffffffff

def countDigits (extended : Bool) (count : Option Nat) (input : List Char) :
    Option Nat × List Char :=
  match input with
  | [] => (count, [])
  | c :: rest =>
    if c.isDigit then
      countDigits extended (some (10 * count.getD 0 + Text.digitValue c)) (skip extended rest)
    else (count, c :: rest)
termination_by input.length
decreasing_by exact length_skip_lt extended c rest

def count? (extended : Bool) (input : List Char) : Option (Nat × List Char) := do
  let (count, rest) := countDigits extended none (input.dropWhile Text.isBlank)
  let count ← count
  if count ≤ countLimit then some (count, rest.dropWhile Text.isBlank) else none

def bounds? (extended : Bool) (input : List Char) : Option ((Nat × Option Nat) × List Char) := do
  let (min, rest) ← count? extended (skip extended input)
  let (max, rest) ← match rest with
    | ',' :: rest =>
      match skip extended rest with
      | '\x7d' :: rest => some (none, '\x7d' :: rest)
      | rest => (count? extended rest).map fun (max, rest) => (some max, rest)
    | _ => some (some min, rest)
  match rest with
  | '\x7d' :: rest =>
    let rest := match skip extended rest with
      | '?' :: rest => rest
      | rest => rest
    if max.all (min ≤ ·) then some ((min, max), rest) else none
  | _ => none

/-! Groups. -/

def flag? : Char → Option Flag
  | 'i' => some .ignoreCase
  | 'm' => some .multiLine
  | 's' => some .dotAll
  | 'U' => some .swapGreed
  | 'u' => some .unicode
  | 'R' => some .anyLineEnd
  | 'x' => some .extended
  | _ => none

/-- Flags up to a colon or a closing parenthesis, each at most once. What follows the only hyphen
is switched off, and something has to follow it. -/
def flagChanges (changes : FlagChanges) (negated dangling : Bool) :
    List Char → Option (FlagChanges × Char × List Char)
  | [] => none
  | c :: rest =>
    if c = ':' ∨ c = ')' then if dangling then none else some (changes.reverse, c, rest)
    else if c = '-' then if negated then none else flagChanges changes true true rest
    else do
      let flag ← flag? c
      if (changes.state? flag).isSome then none
      else flagChanges ((flag, !negated) :: changes) negated false rest

inductive Opening
  | group (changes : FlagChanges) (capturing : Bool)
  | flags (changes : FlagChanges)

section
variable (database : CharacterDatabase)

def groupName? (input : List Char) : Option (List Char × List Char) :=
  match input.takeWhile (· ≠ '>'), input.dropWhile (· ≠ '>') with
  | first :: more, '>' :: rest =>
    if database.beginsName first && more.all database.continuesName then
      some (first :: more, rest)
    else none
  | _, _ => none

/-- What follows an opening parenthesis. Conditions on what lies ahead or behind are refused, and so
is a name given before. -/
def opening? (extended : Bool) (names : List (List Char)) (input : List Char) :
    Option (Opening × List (List Char) × List Char) :=
  let named (input : List Char) : Option (Opening × List (List Char) × List Char) := do
    let (name, rest) ← groupName? database input
    if names.contains name then none else some (.group [] true, name :: names, rest)
  match skip extended input with
  | '?' :: '=' :: _ | '?' :: '!' :: _ | '?' :: '<' :: '=' :: _ | '?' :: '<' :: '!' :: _ => none
  | '?' :: 'P' :: '<' :: rest => named rest
  | '?' :: '<' :: rest => named rest
  | '?' :: rest => do
    let (changes, closing, rest) ← flagChanges [] false false rest
    if closing = ':' then some (.group changes false, names, rest)
    else if changes.isEmpty then none
    else some (.flags changes, names, rest)
  | rest => some (.group [] true, names, rest)

end

/-! Whole expressions. -/

/-- What stands before an open group, and what the group changes. Lists have their last member
first. -/
structure OpenGroup where
  items : List Expression
  branches : List Expression
  changes : FlagChanges
  capturing : Bool
  extended : Bool

/-- An expression being read: the items and finished branches of the innermost open group, and the
groups around it. -/
structure Reader where
  items : List Expression
  branches : List Expression
  outer : List OpenGroup
  names : List (List Char)
  extended : Bool

namespace Reader

def start : Reader := ⟨[], [], [], [], false⟩

def push (r : Reader) (item : Expression) : Reader := { r with items := item :: r.items }

def content (r : Reader) : Expression :=
  .ofBranches (Expression.ofItems r.items.reverse :: r.branches).reverse

def repeatLast? (r : Reader) (min : Nat) (max : Option Nat) : Option Reader :=
  match r.items with
  | last :: before =>
    if last.repeatable then some { r with items := .repetition last min max :: before } else none
  | [] => none

def open? (database : CharacterDatabase) (r : Reader) (input : List Char) :
    Option (Reader × List Char) := do
  let (opening, names, rest) ← opening? database r.extended r.names input
  let r := { r with names := names }
  match opening with
  | .flags changes =>
    let extended := (changes.state? .extended).getD r.extended
    some ({ r.push (.flags changes) with extended := extended }, rest)
  | .group changes capturing =>
    let around : OpenGroup := ⟨r.items, r.branches, changes, capturing, r.extended⟩
    let extended := (changes.state? .extended).getD r.extended
    some (⟨[], [], around :: r.outer, r.names, extended⟩, rest)

def close? (r : Reader) : Option Reader :=
  match r.outer with
  | [] => none
  | around :: outer =>
    let item := Expression.group around.changes around.capturing r.content
    some ⟨item :: around.items, around.branches, outer, r.names, around.extended⟩

/-- A question mark behind a repetition only asks for shorter matches. -/
def withoutLazy : List Char → List Char
  | '?' :: rest => rest
  | rest => rest

section
variable (database : CharacterDatabase)

def step (r : Reader) (input : List Char) : Option (Reader × List Char) :=
  match input with
  | [] => none
  | '(' :: rest => r.open? database rest
  | ')' :: rest => r.close?.map (·, rest)
  | '|' :: rest =>
    some ({ r with items := [], branches := .ofItems r.items.reverse :: r.branches }, rest)
  | '[' :: rest => (bracketedClass r.extended rest).map fun (item, rest) => (r.push item, rest)
  | '?' :: rest => (r.repeatLast? 0 (some 1)).map (·, withoutLazy rest)
  | '*' :: rest => (r.repeatLast? 0 none).map (·, withoutLazy rest)
  | '+' :: rest => (r.repeatLast? 1 none).map (·, withoutLazy rest)
  | '\x7b' :: rest => do
    let ((min, max), rest) ← bounds? r.extended rest
    let r ← r.repeatLast? min max
    some (r, rest)
  | '\\' :: rest => (escape r.extended rest).map fun (item, rest) => (r.push item, rest)
  | '.' :: rest => some (r.push .dot, rest)
  | '^' :: rest => some (r.push (.anchor .lineStart), rest)
  | '$' :: rest => some (r.push (.anchor .lineEnd), rest)
  | c :: rest => some (r.push (.literal ⟨c, false⟩), rest)

/-- Reads to the end. A step that takes nothing ends the reading. -/
def run (r : Reader) (input : List Char) : Option Expression :=
  match skip r.extended input with
  | [] => if r.outer.isEmpty then some r.content else none
  | signs =>
    match r.step database signs with
    | some (r, rest) => if rest.length < input.length then r.run rest else none
    | none => none
termination_by input.length

end

end Reader

def Expression.read? (database : CharacterDatabase) (text : List Char) : Option Expression := do
  let expression ← Reader.start.run database text
  if expression.depth ≤ depthLimit then some expression else none

end HistorySurvey.Regex
