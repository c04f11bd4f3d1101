import HistorySurvey.Report.Rating
import HistorySurvey.Text.Natural

/-! The report as a table with three columns. Objects behind figures are named in footnotes,
numbered in the order of their first use. -/
namespace HistorySurvey

structure Row where
  name : String
  value : String
  concern : String
  deriving DecidableEq

namespace Row

/-- The name column is at least this wide. -/
def nameWidth : Nat := 36

def valueWidth : Nat := 9

def concernWidth : Nat := 30

def text (row : Row) (width : Nat) : String :=
  "| " ++ Text.padRight width row.name ++ " | " ++ Text.padRight valueWidth row.value ++ " | "
    ++ Text.padRight concernWidth row.concern ++ " |\n"

def header : Row := ⟨"Name", "Value", "Level of concern"⟩

def rule (width : Nat) : Row :=
  ⟨Text.repeated '-' width, Text.repeated '-' valueWidth, Text.repeated '-' concernWidth⟩

def widthOf (rows : List Row) : Nat := (rows.map fun row => row.name.length).foldl max nameWidth

end Row

namespace Table

/-- A text at its depth. Below the titles of sections it is a point of a list. -/
def indented (text : String) : Nat → String
  | 0 => text
  | depth + 1 => Text.repeated ' ' (2 * depth) ++ "* " ++ text

/-- Stars up to the most there can be, or marks of an overflow. -/
def concernCell (rating : Rating) : String :=
  if rating.figure.overflow then Text.repeated '!' maxStars
  else Text.repeated '*' (min rating.stars maxStars)

def valueCell (item : Item) (value : Nat) : String :=
  let amount := Amount.of value item.unit item.multiples
  Text.padLeft 5 amount.number ++ " " ++ Text.padRight 3 amount.unit

def note? (style : NameStyle) (offender : Contender) : Option String :=
  match style, offender.name with
  | .nothing, _ => none
  | .full, some name => some (offender.id.toHex ++ " (" ++ name ++ ")")
  | _, _ => some offender.id.toHex

/-- The footnotes after citing one, and its number. One cited before keeps its number. -/
def cite (notes : List String) (note : String) : List String × Nat :=
  match notes.idxOf? note with
  | some place => (notes, place + 1)
  | none => (notes ++ [note], notes.length + 1)

def row (style : NameStyle) (notes : List String) : Line RatedItem → List String × Row
  | .heading depth title => (notes, ⟨indented title depth, "", ""⟩)
  | .entry depth rated =>
    let label := indented rated.item.label depth
    let value := valueCell rated.item rated.rating.figure.value
    let concern := concernCell rated.rating
    match rated.offender.bind (note? style) with
    | none => (notes, ⟨label, value, concern⟩)
    | some note =>
      let (notes, number) := cite notes note
      (notes, ⟨label ++ " [" ++ toString number ++ "]", value, concern⟩)

def rows (style : NameStyle) : List String → List (Line RatedItem) → List String × List Row
  | notes, [] => (notes, [])
  | notes, line :: rest =>
    let (notes, first) := row style notes line
    let (notes, others) := rows style notes rest
    (notes, first :: others)

def footer (notes : List String) : String :=
  if notes.isEmpty then ""
  else "\n" ++ String.join (notes.mapIdx fun place note =>
    "[" ++ toString (place + 1) ++ "]  " ++ note ++ "\n")

def nothingFound : String := "No problems above the current threshold were found\n"

end Table

namespace Summary

/-- The lines of the table: rows with enough stars under the titles of their sections. -/
def lines (s : Summary) (threshold : Threshold) (scale : Scale) : List (Line RatedItem) :=
  Outline.linesOfAll (RatedItem.pick s threshold scale) 0 layout

def tableText (s : Summary) (threshold : Threshold) (style : NameStyle) (scale : Scale) :
    String :=
  let (notes, rows) := Table.rows style [] (s.lines threshold scale)
  if rows.isEmpty then Table.nothingFound
  else
    let width := Row.widthOf rows
    String.join ((Row.header :: Row.rule width :: rows).map fun row => row.text width)
      ++ Table.footer notes

end Summary

end HistorySurvey
