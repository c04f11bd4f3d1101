/-! Titled sections of items, nested to any depth, and their display as an indented list in which a
title stands exactly where something beneath it is shown. -/
namespace HistorySurvey

inductive Outline (α : Type)
  | leaf (item : α)
  | branch (title : String) (children : List (Outline α))

/-- A line of the display: a title or an item, with the depth at which it stands. -/
inductive Line (β : Type)
  | heading (depth : Nat) (title : String)
  | entry (depth : Nat) (item : β)

namespace Line

def entry? {β : Type} : Line β → Option β
  | heading _ _ => none
  | entry _ item => some item

end Line

namespace Outline

variable {α β : Type}

mutual

def items : Outline α → List α
  | leaf item => [item]
  | branch _ children => itemsOfAll children

def itemsOfAll : List (Outline α) → List α
  | [] => []
  | outline :: rest => items outline ++ itemsOfAll rest

end

/-- A title over lines, unless there are none. -/
def underHeading (depth : Nat) (title : String) (lines : List (Line β)) : List (Line β) :=
  if lines.isEmpty then [] else .heading depth title :: lines

mutual

/-- The lines of an outline at some depth. An item for which `pick` gives nothing is left out. -/
def lines (pick : α → Option β) (depth : Nat) : Outline α → List (Line β)
  | leaf item =>
    match pick item with
    | some shown => [.entry depth shown]
    | none => []
  | branch title children => underHeading depth title (linesOfAll pick (depth + 1) children)

def linesOfAll (pick : α → Option β) (depth : Nat) : List (Outline α) → List (Line β)
  | [] => []
  | outline :: rest => lines pick depth outline ++ linesOfAll pick depth rest

end

end Outline

end HistorySurvey
