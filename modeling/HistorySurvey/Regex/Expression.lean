/-! Regular expressions as they are written. -/
namespace HistorySurvey.Regex

inductive Flag
  /-- Letters match in either case. -/
  | ignoreCase
  /-- Anchors of the text hold at lines. -/
  | multiLine
  /-- The dot matches line feeds. -/
  | dotAll
  /-- Repetitions take as little as possible. -/
  | swapGreed
  /-- Classes and words are those of all characters. -/
  | unicode
  /-- Lines may end with carriage returns. -/
  | anyLineEnd
  /-- Blanks and comments are ignored. -/
  | extended
  deriving DecidableEq

abbrev FlagChanges := List (Flag × Bool)

def FlagChanges.state? (changes : FlagChanges) (flag : Flag) : Option Bool :=
  (changes.find? (·.1 = flag)).map Prod.snd

structure Literal where
  character : Char
  byte : Bool
  deriving DecidableEq

inductive Anchor
  | lineStart
  | lineEnd
  | textStart
  | textEnd
  | wordBoundary
  | insideWord
  | wordStart
  | wordEnd
  | wordStartHalf
  | wordEndHalf
  deriving DecidableEq

inductive Shorthand
  | digit
  | space
  | word
  deriving DecidableEq

inductive PropertyQuery
  | name (name : List Char)
  | value (property value : List Char)
  deriving DecidableEq

inductive SetOperation
  | intersection
  | difference
  | symmetricDifference
  deriving DecidableEq

inductive ClassSet
  | literal (literal : Literal)
  | range (first last : Literal)
  | ascii (name : String) (negated : Bool)
  | property (query : PropertyQuery) (negated : Bool)
  | shorthand (kind : Shorthand) (negated : Bool)
  | bracketed (negated : Bool) (content : ClassSet)
  | union (items : List ClassSet)
  | operation (operation : SetOperation) (left right : ClassSet)

/-- Several items are a union and a single one stands for itself. -/
def ClassSet.ofItems : List ClassSet → ClassSet
  | [item] => item
  | items => .union items

inductive Expression
  | empty
  | flags (changes : FlagChanges)
  | literal (literal : Literal)
  | dot
  | anchor (anchor : Anchor)
  | property (query : PropertyQuery) (negated : Bool)
  | shorthand (kind : Shorthand) (negated : Bool)
  | bracketed (negated : Bool) (content : ClassSet)
  | repetition (expression : Expression) (min : Nat) (max : Option Nat)
  | group (changes : FlagChanges) (capturing : Bool) (expression : Expression)
  | alternation (branches : List Expression)
  | concat (items : List Expression)

namespace Expression

def ofItems : List Expression → Expression
  | [] => .empty
  | [item] => item
  | items => .concat items

/-- A single branch stands for itself. -/
def ofBranches : List Expression → Expression
  | [branch] => branch
  | branches => .alternation branches

def repeatable : Expression → Bool
  | .empty | .flags _ => false
  | _ => true

end Expression

/-! Nesting: each bracket, group, repetition, row, choice and set operation goes one level down. -/

mutual

def ClassSet.depth : ClassSet → Nat
  | .literal _ | .range _ _ | .ascii _ _ | .property _ _ | .shorthand _ _ => 0
  | .bracketed _ content => content.depth + 1
  | .union [] => 0
  | .union (item :: rest) => max item.depth (ClassSet.maxDepth rest) + 1
  | .operation _ left right => max left.depth right.depth + 1

def ClassSet.maxDepth : List ClassSet → Nat
  | [] => 0
  | item :: rest => max item.depth (ClassSet.maxDepth rest)

end

mutual

def Expression.depth : Expression → Nat
  | .empty | .flags _ | .literal _ | .dot | .anchor _ | .property _ _ | .shorthand _ _ => 0
  | .bracketed _ content => content.depth + 1
  | .repetition expression _ _ => expression.depth + 1
  | .group _ _ expression => expression.depth + 1
  | .alternation branches => Expression.maxDepth branches + 1
  | .concat items => Expression.maxDepth items + 1

def Expression.maxDepth : List Expression → Nat
  | [] => 0
  | expression :: rest => max expression.depth (Expression.maxDepth rest)

end

def depthLimit : Nat := 250

end HistorySurvey.Regex
