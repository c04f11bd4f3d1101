import HistorySurvey.Proofs.Amounts
import HistorySurvey.Proofs.Footnotes

/-! The columns of a table. Cells are filled up and never cut, so lines are of one length exactly
because every cell fits its column: amounts and stars by their bounds, names because the column is as
wide as the longest of them. -/
namespace HistorySurvey

namespace Text

theorem length_repeated (c : Char) (n : Nat) : (repeated c n).length = n := by
  rw [repeated, String.length_ofList, List.length_replicate]

theorem length_padRight (width : Nat) (text : String) :
    (padRight width text).length = max width text.length := by
  rw [padRight, String.length_append, length_repeated]
  omega

theorem length_padLeft (width : Nat) (text : String) :
    (padLeft width text).length = max width text.length := by
  rw [padLeft, String.length_append, length_repeated]
  omega

/-- A text that does not end a line. -/
def OneLine (text : String) : Prop := '\n' ∉ text.toList

instance (text : String) : Decidable (OneLine text) := inferInstanceAs (Decidable (_ ∉ _))

theorem OneLine.append {first rest : String} (one : OneLine first) (other : OneLine rest) :
    OneLine (first ++ rest) := by
  rw [OneLine, String.toList_append, List.mem_append, not_or]
  exact ⟨one, other⟩

theorem oneLine_repeated {c : Char} (apart : c ≠ '\n') (n : Nat) : OneLine (repeated c n) := by
  rw [OneLine, repeated, String.toList_ofList, List.mem_replicate, not_and]
  exact fun _ same => apart same.symm

theorem OneLine.padRight {text : String} (one : OneLine text) (width : Nat) :
    OneLine (padRight width text) := one.append (oneLine_repeated (by decide) _)

theorem OneLine.padLeft {text : String} (one : OneLine text) (width : Nat) :
    OneLine (padLeft width text) := .append (oneLine_repeated (by decide) _) one

theorem oneLine_toString (n : Nat) : OneLine (toString n) := fun member =>
  absurd (mem_toString member) (by decide)

end Text

open Text

/-! Rows. -/

namespace Row

/-- A printed row without the end of its line. -/
def line (row : Row) (width : Nat) : String :=
  "| " ++ padRight width row.name ++ " | " ++ padRight valueWidth row.value ++ " | "
    ++ padRight concernWidth row.concern ++ " |"

theorem text_eq (row : Row) (width : Nat) : row.text width = row.line width ++ "\n" := by
  simp only [text, line, String.append_assoc]
  rfl

/-- Cells that fit their columns and stay on their line. -/
structure Fits (width : Nat) (row : Row) : Prop where
  name : row.name.length ≤ width
  value : row.value.length ≤ valueWidth
  concern : row.concern.length ≤ concernWidth
  unbroken : OneLine row.name ∧ OneLine row.value ∧ OneLine row.concern

variable {row : Row} {rows : List Row} {width : Nat}

theorem Fits.length_line (fits : row.Fits width) : (row.line width).length = width + 49 := by
  obtain ⟨name, value, concern, _⟩ := fits
  simp only [line, String.length_append, length_padRight, Nat.max_eq_left name,
    Nat.max_eq_left value, Nat.max_eq_left concern]
  have bars : "| ".length = 2 ∧ " | ".length = 3 ∧ " |".length = 2 := by decide
  have columns : valueWidth = 9 ∧ concernWidth = 30 := ⟨rfl, rfl⟩
  omega

theorem Fits.oneLine (fits : row.Fits width) : OneLine (row.line width) := by
  obtain ⟨name, value, concern⟩ := fits.unbroken
  have bar : OneLine "| " ∧ OneLine " | " ∧ OneLine " |" := by decide
  exact ((((((bar.1.append (name.padRight _)).append bar.2.1).append (value.padRight _)).append
    bar.2.1).append (concern.padRight _)).append bar.2.2)

theorem fits_header (wide : nameWidth ≤ width) : header.Fits width where
  name := Nat.le_trans (by decide) wide
  value := by decide
  concern := by decide
  unbroken := by decide

theorem fits_rule (width : Nat) : (rule width).Fits width where
  name := Nat.le_of_eq (length_repeated _ _)
  value := Nat.le_of_eq (length_repeated _ _)
  concern := Nat.le_of_eq (length_repeated _ _)
  unbroken := ⟨oneLine_repeated (by decide) _, oneLine_repeated (by decide) _,
    oneLine_repeated (by decide) _⟩

/-- The name column is as wide as the longest name, if that is longer than the column has to be. -/
theorem widthOf_spec (rows : List Row) :
    nameWidth ≤ widthOf rows ∧ (∀ row ∈ rows, row.name.length ≤ widthOf rows) ∧
      (widthOf rows = nameWidth ∨ ∃ row ∈ rows, row.name.length = widthOf rows) := by
  rw [widthOf, List.foldl_max]
  cases longest : (rows.map fun row => row.name.length).max? with
  | none =>
    obtain rfl : rows = [] := by simpa using longest
    simp
  | some most =>
    obtain ⟨member, least⟩ := List.max?_eq_some_iff.mp longest
    obtain ⟨row, inside, rfl⟩ := List.mem_map.mp member
    rw [Option.getD_some]
    refine ⟨Nat.le_max_left .., fun other there => ?_, ?_⟩
    · exact Nat.le_trans (least _ (List.mem_map_of_mem there)) (Nat.le_max_right ..)
    · rcases Nat.le_total nameWidth row.name.length with wide | narrow
      · exact .inr ⟨row, inside, (Nat.max_eq_right wide).symm⟩
      · exact .inl (Nat.max_eq_left narrow)

end Row

/-! Lines of a printed table. -/

namespace Table

/-- The lines of a text up to the first empty one, which stands before the footnotes. -/
def linesAbove (text : String) : List String :=
  ((text.toList.splitOn '\n').takeWhile (· ≠ [])).map String.ofList

theorem linesAbove_join {lines : List String} (unbroken : ∀ line ∈ lines, OneLine line ∧ line ≠ "")
    {rest : String} (ended : rest = "" ∨ ∃ more, rest = "\n" ++ more) :
    linesAbove (String.join (lines.map (· ++ "\n")) ++ rest) = lines := by
  rw [linesAbove, String.toList_append, String.toList_join]
  induction lines with
  | nil =>
    rcases ended with rfl | ⟨more, rfl⟩
    · rfl
    · have blank := List.splitOn_append_cons_self (a := '\n') [] more.toList
      simp only [List.nil_append, List.splitOn_nil] at blank
      simp [blank]
  | cons line others ih =>
    obtain ⟨one, some⟩ := unbroken line List.mem_cons_self
    have cut : (List.flatMap String.toList ((line :: others).map (· ++ "\n")) ++ rest.toList) =
        line.toList ++ '\n' :: (List.flatMap String.toList (others.map (· ++ "\n")) ++ rest.toList) := by
      simp
    rw [cut, List.splitOn_append_cons_self, List.splitOn_eq_singleton one]
    have nonempty : line.toList ≠ [] := by simpa using some
    simp only [List.singleton_append, List.takeWhile_cons, nonempty, ne_eq, not_false_eq_true,
      decide_true, if_true, List.map_cons, String.ofList_toList]
    rw [ih fun other member => unbroken other (List.mem_cons_of_mem _ member)]

theorem linesAbove_nothingFound :
    linesAbove nothingFound = ["No problems above the current threshold were found"] := by
  decide +kernel

theorem footer_ended (notes : List String) :
    footer notes = "" ∨ ∃ more, footer notes = "\n" ++ more := by
  unfold footer
  split
  · exact .inl rfl
  · exact .inr ⟨_, rfl⟩

/-! Cells. -/

theorem oneLine_indented {text : String} (one : OneLine text) (depth : Nat) :
    OneLine (indented text depth) := by
  cases depth with
  | zero => exact one
  | succ depth =>
    have bullet : OneLine "* " := by decide
    exact (OneLine.append (oneLine_repeated (by decide) _) bullet).append one

theorem concernCell_fits (rating : Rating) :
    (concernCell rating).length ≤ Row.concernWidth ∧ OneLine (concernCell rating) := by
  unfold concernCell
  split
  · exact ⟨Nat.le_of_eq (length_repeated _ _), oneLine_repeated (by decide) _⟩
  · rw [length_repeated]
    exact ⟨Nat.min_le_right _ maxStars, oneLine_repeated (by decide) _⟩

/-- The units of the layout: what is counted has none, and bytes come in binary multiples. -/
def Usual (unit : String) (multiples : Multiples) : Prop :=
  unit = "" ∧ multiples = .decimal ∨ unit = "B" ∧ multiples = .binary

theorem Usual.unit_fits {unit : String} {multiples : Multiples} (usual : Usual unit multiples)
    (value : Nat) : (Amount.of value unit multiples).unit.length ≤ 3 ∧
      OneLine (Amount.of value unit multiples).unit := by
  obtain ⟨name, member, same⟩ := Amount.unit_eq value unit multiples
  have all : ∀ name ∈ "" :: multiples.names, (name ++ unit).length ≤ 3 ∧ OneLine (name ++ unit) := by
    rcases usual with ⟨rfl, rfl⟩ | ⟨rfl, rfl⟩ <;> decide +kernel
  rw [same]
  exact all name member

theorem valueCell_fits {item : Item} (usual : Usual item.unit item.multiples) {value : Nat}
    (bound : value < 2 ^ 64) :
    (valueCell item value).length = Row.valueWidth ∧ OneLine (valueCell item value) := by
  have number := Amount.length_number bound item.unit item.multiples
  obtain ⟨unit, one⟩ := usual.unit_fits value
  constructor
  · simp only [valueCell, String.length_append, length_padLeft, length_padRight,
      Nat.max_eq_left number, Nat.max_eq_left unit]
    rfl
  · have digits : OneLine (Amount.of value item.unit item.multiples).number := fun member =>
      absurd (Amount.mem_number member) (by decide)
    have blank : OneLine " " := by decide
    exact ((digits.padLeft 5).append blank).append (one.padRight 3)

/-! The layout keeps to one line and to the usual units. -/

def partUnit : Outline Item → String × Multiples
  | .leaf item => (item.unit, item.multiples)
  | .branch _ _ => ("", .decimal)

theorem layout_oneLine : ∀ part ∈ Outline.partsOfAll 0 layout, OneLine (partLabel part.2) := by
  decide +kernel

theorem layout_usual : ∀ part ∈ Outline.partsOfAll 0 layout,
    Usual (partUnit part.2).1 (partUnit part.2).2 := by
  unfold Usual
  decide +kernel

end Table

namespace Summary

open Table

theorem figure_lt (s : Summary) (metric : Metric) : (s.figure metric).value < 2 ^ 64 := by
  have narrow (count : Count32) : (Figure.ofCount count).value < 2 ^ 64 :=
    Nat.lt_of_le_of_lt count.value_le (by decide)
  have wide (count : Count64) : (Figure.ofCount count).value < 2 ^ 64 :=
    Nat.lt_of_le_of_lt count.value_le (by decide)
  cases metric <;> first | exact narrow _ | exact wide _

variable {s : Summary} {threshold : Threshold} {scale : Scale} {line : Line RatedItem} {row : Row}

theorem fits_of_shows (member : line ∈ s.lines threshold scale) (shows : Shows line row) {width : Nat}
    (wide : row.name.length ≤ width) : row.Fits width := by
  obtain ⟨depth, title, children, part, rfl⟩ | ⟨depth, item, part, rfl⟩ := part_of_line member
  · have one := oneLine_indented (layout_oneLine _ part) depth
    cases shows
    exact ⟨wide, Nat.zero_le _, Nat.zero_le _, one, List.not_mem_nil, List.not_mem_nil⟩
  · have one := oneLine_indented (layout_oneLine _ part) depth
    have value := valueCell_fits (layout_usual _ part) (s.figure_lt item.metric)
    have concern := concernCell_fits (item.rate s scale)
    cases shows with
    | item _ _ mark marked =>
      have single : OneLine mark := by
        rcases marked with rfl | ⟨number, rfl⟩
        · exact List.not_mem_nil
        · have bracket : OneLine " [" ∧ OneLine "]" := by decide
          exact (bracket.1.append (oneLine_toString number)).append bracket.2
      exact ⟨wide, Nat.le_of_eq value.1, concern.1, one.append single, value.2, concern.2⟩

theorem rows_fit (s : Summary) (threshold : Threshold) (style : NameStyle) (scale : Scale) :
    let rows := s.tableRows threshold style scale
    let width := Row.widthOf rows
    ∀ row ∈ Row.header :: Row.rule width :: rows, row.Fits width := by
  intro rows width
  obtain ⟨least, widest, _⟩ := Row.widthOf_spec rows
  rw [List.forall_mem_cons, List.forall_mem_cons]
  refine ⟨Row.fits_header least, Row.fits_rule width, fun row member => ?_⟩
  have shown := s.tableRows_show threshold style scale
  obtain ⟨place, inside, rfl⟩ := List.mem_iff_getElem.mp member
  have within : place < (s.lines threshold scale).length := shown.length_eq ▸ inside
  exact fits_of_shows (List.getElem_mem within) (shown.get within inside) (widest _ member)

theorem linesAbove_tableText (s : Summary) (threshold : Threshold) (style : NameStyle) (scale : Scale)
    (some : s.tableRows threshold style scale ≠ []) :
    let rows := s.tableRows threshold style scale
    let width := Row.widthOf rows
    linesAbove (s.tableText threshold style scale) =
      (Row.header :: Row.rule width :: rows).map fun row => row.line width := by
  intro rows width
  have printed : s.tableText threshold style scale =
      String.join (((Row.header :: Row.rule width :: rows).map fun row => row.line width).map
        (· ++ "\n")) ++ footer (s.tableNotes threshold style scale) := by
    rw [tableText_eq, if_neg (by simp [some]), body]
    simp only [Row.text_eq, List.map_map]
    rfl
  rw [printed]
  refine linesAbove_join (fun line member => ?_) (footer_ended _)
  obtain ⟨row, inside, rfl⟩ := List.mem_map.mp member
  have fits := s.rows_fit threshold style scale row inside
  refine ⟨fits.oneLine, fun empty => ?_⟩
  have length := fits.length_line
  rw [empty] at length
  exact absurd length (by simp)

/-- How the columns of a table come to stand under each other. -/
structure Aligned (s : Summary) (threshold : Threshold) (style : NameStyle) (scale : Scale) : Prop where
  nothing : s.tableRows threshold style scale = [] →
    linesAbove (s.tableText threshold style scale) =
      ["No problems above the current threshold were found"]
  lines : let rows := s.tableRows threshold style scale
    let width := Row.widthOf rows
    rows ≠ [] → linesAbove (s.tableText threshold style scale) =
      (Row.header :: Row.rule width :: rows).map fun row => row.line width
  aligned : ∀ line ∈ linesAbove (s.tableText threshold style scale),
    ∀ other ∈ linesAbove (s.tableText threshold style scale), line.length = other.length
  amounts : ∀ value < 2 ^ 64, ∀ unit multiples,
    (Amount.of value unit multiples).number.length ≤ 5 ∧
      (Usual unit multiples → (Amount.of value unit multiples).unit.length ≤ 3)
  concerns : ∀ rating, (concernCell rating).length ≤ 30
  names : let rows := s.tableRows threshold style scale
    let width := Row.widthOf rows
    (∀ row ∈ rows, row.name.length ≤ width) ∧
      (width = 36 ∨ ∃ row ∈ rows, row.name.length = width)

/-- Whatever a summary counts and whoever is behind its figures, all lines of its table above the
footnotes are of one length. -/
theorem table_aligned (s : Summary) (threshold : Threshold) (style : NameStyle) (scale : Scale) :
    s.Aligned threshold style scale := by
  have nothing (none : s.tableRows threshold style scale = []) :
      linesAbove (s.tableText threshold style scale) =
        ["No problems above the current threshold were found"] := by
    rw [tableText_eq, none]
    exact linesAbove_nothingFound
  have lines := s.linesAbove_tableText threshold style scale
  exact {
    nothing := nothing
    lines := lines
    aligned := fun line member other inside => by
      by_cases none : s.tableRows threshold style scale = []
      · rw [nothing none, List.mem_singleton] at member inside
        rw [member, inside]
      · rw [lines none] at member inside
        obtain ⟨row, there, rfl⟩ := List.mem_map.mp member
        obtain ⟨another, beside, rfl⟩ := List.mem_map.mp inside
        rw [(s.rows_fit threshold style scale row there).length_line,
          (s.rows_fit threshold style scale another beside).length_line]
    amounts := fun value bound unit multiples =>
      ⟨Amount.length_number bound unit multiples, fun usual => (usual.unit_fits value).1⟩
    concerns := fun rating => (concernCell_fits rating).1
    names := (Row.widthOf_spec _).2 }

end Summary

end HistorySurvey
