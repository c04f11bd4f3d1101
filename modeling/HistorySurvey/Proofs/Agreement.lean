import HistorySurvey.Proofs.Outlines
import HistorySurvey.Report.Rows
import HistorySurvey.Report.Table
import Mathlib.Data.List.Forall2

/-! The table and the rated rows as JSON are two forms of one report: the same items in the same order,
each with the same value and as many stars. -/
namespace HistorySurvey

theorem Item.rate_stars_le (item : Item) (s : Summary) (scale : Scale) :
    (item.rate s scale).stars ≤ maxStars := by
  rw [rate]
  dsimp only
  split
  · exact Nat.le_refl maxStars
  · exact Scale.starsFrom_le ..

theorem RatedItem.pick_eq_some {s : Summary} {threshold : Threshold} {scale : Scale} {item : Item}
    {row : RatedItem} : pick s threshold scale item = some row ↔
      threshold.stars ≤ (item.rate s scale).stars ∧
      ⟨item, item.rate s scale, item.offender s⟩ = row := by
  simp only [pick, Threshold.admits, decide_eq_true_eq, Option.ite_none_right_eq_some,
    Option.some.injEq]

def Json.field? : Json → String → Option Json
  | .object fields, name => fields.lookup name
  | _, _ => none

theorem Json.pretty_object_eq_empty {fields : List (String × Json)} :
    (Json.object fields).pretty = "\x7b\x7d" ↔ fields = [] := by
  constructor
  · intro empty
    have written := congrArg String.toList empty
    cases fields with
    | nil => rfl
    | cons field rest =>
      cases rest <;> simp [pretty, chars, enclosed, fieldChars, separated, newLine] at written
  · rintro rfl
    rfl

/-! The rows of the table. -/

/-- Titles have no value. -/
def Row.isMetric (row : Row) : Bool := row.value ≠ ""

namespace Table

/-- How a row shows a line. The number of a footnote may follow the label of an item. -/
inductive Shows : Line RatedItem → Row → Prop
  | title (depth : Nat) (title : String) :
      Shows (.heading depth title) ⟨indented title depth, "", ""⟩
  | item (depth : Nat) (rated : RatedItem) (mark : String)
      (marked : mark = "" ∨ ∃ number : Nat, mark = " [" ++ toString number ++ "]") :
      Shows (.entry depth rated)
        ⟨indented rated.item.label depth ++ mark, valueCell rated.item rated.rating.figure.value,
          concernCell rated.rating⟩

theorem row_shows (style : NameStyle) (notes : List String) (line : Line RatedItem) :
    Shows line (row style notes line).2 := by
  cases line with
  | heading depth title => exact .title depth title
  | entry depth rated =>
    rw [row]
    cases rated.offender.bind (note? style) with
    | none => simpa using Shows.item depth rated "" (.inl rfl)
    | some note =>
      have shown := Shows.item depth rated _ (.inr ⟨(cite notes note).2, rfl⟩)
      simpa only [← String.append_assoc] using shown

theorem rows_show (style : NameStyle) (notes : List String) (lines : List (Line RatedItem)) :
    List.Forall₂ Shows lines (rows style notes lines).2 := by
  induction lines generalizing notes with
  | nil => exact .nil
  | cons line rest ih => exact .cons (row_shows style notes line) (ih _)

theorem isEmpty_of_show {lines : List (Line RatedItem)} {rows : List Row}
    (shows : List.Forall₂ Shows lines rows) : rows.isEmpty = lines.isEmpty := by
  cases shows <;> rfl

theorem valueCell_ne_empty (item : Item) (value : Nat) : valueCell item value ≠ "" := by
  intro empty
  have chars := congrArg String.toList empty
  simp [valueCell] at chars

theorem concernCell_eq {rating : Rating} (few : rating.stars ≤ maxStars) :
    concernCell rating = if rating.figure.overflow then Text.repeated '!' maxStars
      else Text.repeated '*' rating.stars := by
  rw [concernCell, Nat.min_eq_left few]

/-- The lines of a table with its rows, without footnotes. -/
def body (rows : List Row) : String :=
  let width := Row.widthOf rows
  String.join ((Row.header :: Row.rule width :: rows).map fun row => row.text width)

theorem body_ne_nothingFound (rows : List Row) (notes : String) :
    body rows ++ notes ≠ nothingFound := by
  intro same
  have first := congrArg (fun text => text.toList.head?) same
  simp [body, Row.text, nothingFound] at first

end Table

namespace RatedItem

variable (row : RatedItem) (style : NameStyle) (scale : Scale)

theorem offenderFields_lookup (name : String) (other : name ≠ "objectName")
    (another : name ≠ "objectDescription") : (row.offenderFields style).lookup name = none := by
  have one : (name == "objectName") = false := beq_false_of_ne other
  have two : (name == "objectDescription") = false := beq_false_of_ne another
  unfold offenderFields
  split
  · rfl
  · rfl
  · simp [List.lookup_cons, one]
  · next offender _ => cases offender.name <;> simp [List.lookup_cons, one, two]

theorem toJson_value : (row.toJson style scale).field? "value" =
    some (.natural row.rating.figure.value) := by
  simp [toJson, Json.field?, List.lookup_cons]

theorem toJson_stars : (row.toJson style scale).field? "stars" = some (.natural row.rating.stars) := by
  simp [toJson, Json.field?, List.lookup_cons]

theorem toJson_overflow : (row.toJson style scale).field? "overflow" =
    if row.rating.figure.overflow then some (.boolean true) else none := by
  have last := row.offenderFields_lookup style "overflow" (by decide) (by decide)
  simp only [toJson, Json.field?]
  split <;> simp [List.lookup_cons, last]

end RatedItem

/-- A row of the table and a field of the JSON that tell the same of one item of the layout. As many
stars as the JSON counts are in the row, or every mark there can be where the figure overflowed. -/
def Agrees (row : Row) (entry : String × Json) : Prop :=
  ∃ depth item mark value stars, (depth, Outline.leaf item) ∈ Outline.partsOfAll 0 layout ∧
    entry.1 = item.metric.key ∧
    row.name = Table.indented item.label depth ++ mark ∧
    row.value = Table.valueCell item value ∧
    entry.2.field? "value" = some (.natural value) ∧
    entry.2.field? "stars" = some (.natural stars) ∧
    (entry.2.field? "overflow" = none ∧ row.concern = Text.repeated '*' stars ∨
      entry.2.field? "overflow" = some (.boolean true) ∧ row.concern = Text.repeated '!' maxStars)

namespace Summary

variable (s : Summary) (threshold : Threshold) (style : NameStyle) (scale : Scale)

def tableRows : List Row := (Table.rows style [] (s.lines threshold scale)).2

def tableNotes : List String := (Table.rows style [] (s.lines threshold scale)).1

/-- The fields of the report as JSON. -/
def entries : List (String × Json) :=
  (s.rows threshold scale).map fun row => (row.item.metric.key, row.toJson style scale)

theorem tableText_eq : s.tableText threshold style scale =
    if (s.tableRows threshold style scale).isEmpty then Table.nothingFound
    else Table.body (s.tableRows threshold style scale)
      ++ Table.footer (s.tableNotes threshold style scale) := rfl

theorem lines_entries : (s.lines threshold scale).filterMap Line.entry? = s.rows threshold scale :=
  Outline.linesOfAll_entries _ 0 layout

theorem lines_isEmpty : (s.lines threshold scale).isEmpty = (s.rows threshold scale).isEmpty := by
  rw [Bool.eq_iff_iff, List.isEmpty_iff, List.isEmpty_iff]
  exact Outline.linesOfAll_eq_nil

theorem tableRows_show : List.Forall₂ Table.Shows (s.lines threshold scale)
    (s.tableRows threshold style scale) := Table.rows_show style [] _

/-- Whoever is shown has enough stars, in the order of the layout. -/
theorem rows_items : (s.rows threshold scale).map (·.item) =
    (Outline.itemsOfAll layout).filter fun item => threshold.admits (item.rate s scale).stars := by
  rw [rows, List.map_filterMap, ← List.filterMap_eq_filter]
  refine List.filterMap_congr fun item _ => ?_
  rw [RatedItem.pick]
  cases shown : threshold.admits (item.rate s scale).stars <;> simp [Option.guard, shown]

theorem entries_keys : (s.entries threshold style scale).map (·.1) =
    ((Outline.itemsOfAll layout).filter fun item =>
      threshold.admits (item.rate s scale).stars).map (·.metric.key) := by
  rw [← rows_items, entries, List.map_map, List.map_map]
  rfl

theorem entries_nodup : ((s.entries threshold style scale).map (·.1)).Nodup := by
  have distinct : ((Outline.itemsOfAll layout).map (·.metric.key)).Nodup := by decide
  rw [entries_keys]
  exact distinct.sublist (List.filter_sublist.map _)

/-! Row by row. -/

variable {s threshold scale}

theorem agrees_of_shows {depth : Nat} {rated : RatedItem} {row : Row}
    (member : .entry depth rated ∈ s.lines threshold scale)
    (shows : Table.Shows (.entry depth rated) row) :
    Agrees row (rated.item.metric.key, rated.toJson style scale) := by
  obtain ⟨item, place, picked⟩ := Outline.part_of_entry member
  obtain ⟨_, rfl⟩ := RatedItem.pick_eq_some.mp picked
  obtain ⟨⟩ | ⟨_, _, mark, _⟩ := shows
  refine ⟨depth, item, mark, _, _, place, rfl, rfl, rfl,
    RatedItem.toJson_value .., RatedItem.toJson_stars .., ?_⟩
  rw [RatedItem.toJson_overflow, Table.concernCell_eq (item.rate_stars_le s scale)]
  cases (item.rate s scale).figure.overflow
  · exact .inl ⟨rfl, rfl⟩
  · exact .inr ⟨rfl, rfl⟩

/-- Titles have no counterpart in the JSON. -/
theorem metrics_agree {lines : List (Line RatedItem)} {rows : List Row}
    (shows : List.Forall₂ Table.Shows lines rows)
    (inside : ∀ line ∈ lines, line ∈ s.lines threshold scale) :
    List.Forall₂ Agrees (rows.filter Row.isMetric)
      ((lines.filterMap Line.entry?).map fun row =>
        (row.item.metric.key, row.toJson style scale)) := by
  induction shows with
  | nil => exact .nil
  | @cons line row lines rows first _ ih =>
    have others := ih fun line member => inside line (.tail _ member)
    cases line with
    | heading depth title =>
      obtain ⟨⟩ := first
      exact others
    | entry depth rated =>
      have agrees := agrees_of_shows style (inside _ (.head _)) first
      have metric : row.isMetric := by
        obtain ⟨⟩ | ⟨_, _, _, _⟩ := first
        exact decide_eq_true (Table.valueCell_ne_empty _ _)
      rw [List.filter_cons_of_pos metric]
      exact .cons agrees others

variable (s threshold scale)

theorem tableText_eq_nothingFound : s.tableText threshold style scale = Table.nothingFound ↔
    s.rows threshold scale = [] := by
  rw [tableText_eq, Table.isEmpty_of_show (s.tableRows_show threshold style scale), lines_isEmpty]
  cases s.rows threshold scale with
  | nil => simp
  | cons row rest => simp [Table.body_ne_nothingFound]

theorem rowsText_eq_empty :
    s.rowsText threshold style scale = "\x7b\x7d" ↔ s.rows threshold scale = [] := by
  rw [rowsText, Json.pretty_object_eq_empty, List.map_eq_nil_iff]

/-- What the table and the JSON of one report have in common. -/
structure Agreement : Prop where
  table : s.tableText threshold style scale =
    if (s.tableRows threshold style scale).isEmpty then Table.nothingFound
    else Table.body (s.tableRows threshold style scale)
      ++ Table.footer (s.tableNotes threshold style scale)
  json : s.rowsText threshold style scale = (Json.object (s.entries threshold style scale)).pretty
  display : Outline.Displays (RatedItem.pick s threshold scale) 0 layout (s.lines threshold scale)
  lines : List.Forall₂ Table.Shows (s.lines threshold scale) (s.tableRows threshold style scale)
  metrics : List.Forall₂ Agrees ((s.tableRows threshold style scale).filter Row.isMetric)
    (s.entries threshold style scale)
  keys : (s.entries threshold style scale).map (·.1) =
    ((Outline.itemsOfAll layout).filter fun item =>
      threshold.admits (item.rate s scale).stars).map (·.metric.key)
  distinct : ((s.entries threshold style scale).map (·.1)).Nodup
  nothing : s.tableText threshold style scale = Table.nothingFound ↔
    s.rowsText threshold style scale = "\x7b\x7d"

theorem agreement : s.Agreement threshold style scale where
  table := s.tableText_eq threshold style scale
  json := rfl
  display := Outline.linesOfAll_displays _ 0 layout
  lines := s.tableRows_show threshold style scale
  metrics := by
    have agree := metrics_agree style (s.tableRows_show threshold style scale)
      fun _ member => member
    rwa [lines_entries] at agree
  keys := s.entries_keys threshold style scale
  distinct := s.entries_nodup threshold style scale
  nothing := by rw [tableText_eq_nothingFound, rowsText_eq_empty]

variable {s scale}

theorem lines_sublist {low high : Threshold} (stricter : low.stars ≤ high.stars) :
    (s.lines high scale).Sublist (s.lines low scale) :=
  Outline.linesOfAll_sublist (fun _ _ picked => by
    obtain ⟨enough, shown⟩ := RatedItem.pick_eq_some.mp picked
    exact RatedItem.pick_eq_some.mpr ⟨Nat.le_trans stricter enough, shown⟩) 0 layout

theorem rows_sublist {low high : Threshold} (stricter : low.stars ≤ high.stars) :
    (s.rows high scale).Sublist (s.rows low scale) := by
  rw [← lines_entries, ← lines_entries]
  exact (lines_sublist stricter).filterMap Line.entry?

/-- The table and the JSON of a report show the same rows, fewer for a higher threshold, and titles
stand where something beneath them is shown, in outlines of any shape. -/
theorem table_and_rows_agree (s : Summary) (style : NameStyle) (scale : Scale) :
    (∀ threshold, s.Agreement threshold style scale) ∧
    (∀ low high : Threshold, low.stars ≤ high.stars →
      (s.lines high scale).Sublist (s.lines low scale) ∧
      (s.entries high style scale).Sublist (s.entries low style scale)) ∧
    ∀ {α β : Type} (pick : α → Option β) (start : Nat) (outlines : List (Outline α)),
      Outline.Displays pick start outlines (Outline.linesOfAll pick start outlines) :=
  ⟨fun threshold => s.agreement threshold style scale,
    fun _ _ stricter => ⟨lines_sublist stricter, (rows_sublist stricter).map _⟩,
    fun pick start outlines => Outline.linesOfAll_displays pick start outlines⟩

/-- A summary of one blob of eight times the size that nobody would remark on. -/
def largeBlob : Summary := empty.recordBlob (.ofNat 1) 80000000 (some "main:large")

theorem table_and_rows_agree_large :
    Threshold.standard.stars ≤ Threshold.critical.stars ∧
    (largeBlob.entries .standard .full .standard).map (·.1) = ["maxBlobSize"] ∧
    (largeBlob.entries .critical .full .standard).Sublist
      (largeBlob.entries .standard .full .standard) ∧
    largeBlob.tableText .critical .full .standard = Table.nothingFound := by
  have stricter : Threshold.standard.stars ≤ Threshold.critical.stars := by decide
  obtain ⟨agreement, fewer, _⟩ := table_and_rows_agree largeBlob .full .standard
  refine ⟨stricter, ?_, (fewer _ _ stricter).2, ?_⟩
  · rw [(agreement .standard).keys]
    decide +kernel
  · rw [(agreement .critical).nothing, rowsText_eq_empty]
    have none : largeBlob.rows .critical .standard |>.isEmpty := by decide +kernel
    exact List.isEmpty_iff.mp none

end Summary

end HistorySurvey
