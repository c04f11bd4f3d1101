import HistorySurvey.Proofs.Totals
import HistorySurvey.Report.Figures
import HistorySurvey.Report.Rows
import HistorySurvey.Report.Table

/-! What a style of naming discloses. Each report in some style can be made from the summary as it
is redacted for that style, so whatever the redaction takes away does not show. -/
namespace HistorySurvey

namespace Outline

variable {α β γ : Type}

/-- The same line with another item. -/
def relabel (f : β → γ) : Line β → Line γ
  | .heading depth title => .heading depth title
  | .entry depth item => .entry depth (f item)

theorem underHeading_relabel (f : β → γ) (depth : Nat) (title : String) (lines : List (Line β)) :
    underHeading depth title (lines.map (relabel f)) =
      (underHeading depth title lines).map (relabel f) := by
  cases lines <;> rfl

mutual

theorem lines_map (pick : α → Option β) (f : β → γ) (depth : Nat) (outline : Outline α) :
    lines (fun item => (pick item).map f) depth outline =
      (lines pick depth outline).map (relabel f) := by
  cases outline with
  | leaf item =>
    rw [lines, lines]
    cases pick item <;> rfl
  | branch title children =>
    rw [lines, lines, linesOfAll_map pick f (depth + 1) children, underHeading_relabel]

theorem linesOfAll_map (pick : α → Option β) (f : β → γ) (depth : Nat)
    (outlines : List (Outline α)) :
    linesOfAll (fun item => (pick item).map f) depth outlines =
      (linesOfAll pick depth outlines).map (relabel f) := by
  cases outlines with
  | nil => rfl
  | cons outline rest =>
    rw [linesOfAll, linesOfAll, lines_map pick f depth outline, linesOfAll_map pick f depth rest,
      List.map_append]

end

end Outline

/-- As much of a contender as a style shows. -/
def Contender.shown (c : Contender) : NameStyle → Option Contender
  | .nothing => none
  | .hash => some c.withoutName
  | .full => some c

def RatedItem.redact (row : RatedItem) (style : NameStyle) : RatedItem :=
  { row with offender := row.offender.bind (·.shown style) }

theorem Rankings.top_withoutNames (r : Rankings) (category : Category) :
    r.withoutNames.top category = (r.top category).map Contender.withoutName := by
  simp [top, board, withoutNames, Ranking.withoutNames, Ranking.top]

theorem Rankings.withoutNames_withoutNames (r : Rankings) :
    r.withoutNames.withoutNames = r.withoutNames := by
  simp [withoutNames, Ranking.withoutNames, Function.comp_def, Contender.withoutName]

namespace Summary

variable (s : Summary) (threshold : Threshold) (scale : Scale) (style : NameStyle)

@[simp] theorem redact_redact : (s.redact style).redact style = s.redact style := by
  cases style with
  | nothing => rfl
  | hash =>
    simp only [redact, Rankings.withoutNames_withoutNames]
  | full => rfl

@[simp] theorem figure_redact (metric : Metric) : (s.redact style).figure metric = s.figure metric := by
  cases style <;> cases metric <;> rfl

theorem top_redact (category : Category) : (s.redact style).rankings.top category =
    (s.rankings.top category).bind (·.shown style) := by
  cases style with
  | nothing =>
    have nobody : Rankings.empty.top category = none := by
      simp [Rankings.top, Rankings.board, Rankings.empty, Ranking.top, Ranking.empty]
    rw [redact, nobody]
    cases s.rankings.top category <;> rfl
  | hash =>
    rw [redact, Rankings.top_withoutNames]
    cases s.rankings.top category <;> rfl
  | full =>
    rw [redact]
    cases s.rankings.top category <;> rfl

theorem pick_redact (item : Item) : RatedItem.pick (s.redact style) threshold scale item =
    (RatedItem.pick s threshold scale item).map (·.redact style) := by
  have rated : item.rate (s.redact style) scale = item.rate s scale := by
    simp only [Item.rate, figure_redact]
  have offender : item.offender (s.redact style) =
      (item.offender s).bind (·.shown style) := by
    unfold Item.offender
    cases item.metric.category? with
    | none => rfl
    | some category => exact s.top_redact style category
  simp only [RatedItem.pick, rated, offender]
  split <;> rfl

/-! The rows as JSON. -/

theorem offenderFields_redact (row : RatedItem) :
    (row.redact style).offenderFields style = row.offenderFields style := by
  unfold RatedItem.offenderFields RatedItem.redact
  cases style <;> cases row.offender <;> rfl

theorem rows_redact : (s.redact style).rows threshold scale =
    (s.rows threshold scale).map (·.redact style) := by
  unfold rows
  rw [List.map_filterMap]
  exact List.filterMap_congr fun item _ => s.pick_redact threshold scale style item

theorem rowsText_redact :
    (s.redact style).rowsText threshold style scale = s.rowsText threshold style scale := by
  have same (row : RatedItem) : (row.redact style).toJson style scale = row.toJson style scale := by
    unfold RatedItem.toJson
    rw [offenderFields_redact]
    rfl
  unfold rowsText
  rw [rows_redact, List.map_map]
  simp only [Function.comp_def, same]
  rfl

/-! The table. -/

theorem note?_shown (c : Contender) : (c.shown style).bind (Table.note? style) =
    Table.note? style c := by
  cases style with
  | nothing => rfl
  | hash => cases c.name <;> simp [Contender.shown, Contender.withoutName, Table.note?]
  | full => rfl

theorem row_redact (notes : List String) (line : Line RatedItem) :
    Table.row style notes (Outline.relabel (·.redact style) line) = Table.row style notes line := by
  cases line with
  | heading depth title => rfl
  | entry depth rated =>
    have cited : (rated.redact style).offender.bind (Table.note? style) =
        rated.offender.bind (Table.note? style) := by
      unfold RatedItem.redact
      cases rated.offender with
      | none => rfl
      | some offender => exact note?_shown style offender
    simp only [Outline.relabel, Table.row, cited]
    rfl

theorem tableRows_redact (notes : List String) (lines : List (Line RatedItem)) :
    Table.rows style notes (lines.map (Outline.relabel (·.redact style))) =
      Table.rows style notes lines := by
  induction lines generalizing notes with
  | nil => rfl
  | cons line rest ih => simp only [List.map_cons, Table.rows, row_redact, ih]

theorem tableText_redact :
    (s.redact style).tableText threshold style scale = s.tableText threshold style scale := by
  have lines : (s.redact style).lines threshold scale =
      (s.lines threshold scale).map (Outline.relabel (·.redact style)) := by
    unfold Summary.lines
    rw [← Outline.linesOfAll_map, funext (s.pick_redact threshold scale style)]
  unfold tableText
  rw [lines, tableRows_redact]

theorem figuresText_redact : (s.redact style).figuresText style = s.figuresText style := by
  unfold figuresText
  rw [redact_redact]

end Summary

/-! Summaries that a style cannot tell apart. -/

/-- Who is on a board with which figure, whatever their names. -/
def Ranking.unnamed (r : Ranking) : List (ObjectId × Nat) := r.contenders.map fun c => (c.id, c.value)

theorem Ranking.withoutNames_congr {r t : Ranking} (same : r.unnamed = t.unnamed) :
    r.withoutNames = t.withoutNames := by
  have bare (r : Ranking) : r.contenders.map Contender.withoutName =
      r.unnamed.map fun entry => ⟨entry.1, entry.2, none⟩ := by
    simp [unnamed, Contender.withoutName, Function.comp_def]
  simp only [withoutNames, bare, same]

theorem Rankings.withoutNames_congr {r t : Rankings}
    (same : ∀ category, (r.board category).unnamed = (t.board category).unnamed) :
    r.withoutNames = t.withoutNames := by
  have every : ∀ place : Fin Category.count, ∃ category ∈ Category.all, category.index = place := by
    decide
  have boards : r.boards.map Ranking.withoutNames = t.boards.map Ranking.withoutNames := by
    ext place inside
    obtain ⟨category, _, here⟩ := every ⟨place, inside⟩
    have board := Ranking.withoutNames_congr (same category)
    simp only [Rankings.board, here] at board
    rw [Vector.getElem_map, Vector.getElem_map]
    exact board
  simp only [withoutNames, boards]

namespace Summary

/-- Names do not show in a report with ids alone, and the rankings do not show in one without
objects. -/
theorem reports_disclose_no_more (s t : Summary) (threshold : Threshold) (scale : Scale)
    (same : s.unranked = t.unranked) :
    ((∀ category, (s.rankings.board category).unnamed = (t.rankings.board category).unnamed) →
      s.figuresText .hash = t.figuresText .hash ∧
      s.rowsText threshold .hash scale = t.rowsText threshold .hash scale ∧
      s.tableText threshold .hash scale = t.tableText threshold .hash scale) ∧
    s.figuresText .nothing = t.figuresText .nothing ∧
    s.rowsText threshold .nothing scale = t.rowsText threshold .nothing scale ∧
    s.tableText threshold .nothing scale = t.tableText threshold .nothing scale := by
  have alike {style : NameStyle} (redacted : s.redact style = t.redact style) :
      s.figuresText style = t.figuresText style ∧
      s.rowsText threshold style scale = t.rowsText threshold style scale ∧
      s.tableText threshold style scale = t.tableText threshold style scale := by
    refine ⟨?_, ?_, ?_⟩
    · rw [← s.figuresText_redact, redacted, t.figuresText_redact]
    · rw [← s.rowsText_redact, redacted, t.rowsText_redact]
    · rw [← s.tableText_redact, redacted, t.tableText_redact]
  refine ⟨fun boards => alike ?_, alike same⟩
  have bare (s : Summary) : s.redact .hash = { s.unranked with rankings := s.rankings.withoutNames } :=
    rfl
  rw [bare, bare, same, Rankings.withoutNames_congr boards]

/-- A summary of one blob that has a name. -/
def namedBlob : Summary := empty.recordBlob (.ofNat 1) 70 (some "main:secret")

/-- A summary of a blob of that size without a name. -/
def namelessBlob : Summary := empty.recordBlob (.ofNat 1) 70 none

/-- A summary of a blob of that size that is another object. -/
def otherBlob : Summary := empty.recordBlob (.ofNat 2) 70 (some "main:secret")

theorem reports_disclose_no_more_secret :
    namedBlob ≠ namelessBlob ∧ namedBlob ≠ otherBlob ∧
    namedBlob.tableText .verbose .hash .standard = namelessBlob.tableText .verbose .hash .standard ∧
    namedBlob.tableText .verbose .nothing .standard =
      otherBlob.tableText .verbose .nothing .standard := by
  have boards (category : Category) : (namedBlob.rankings.board category).unnamed =
      (namelessBlob.rankings.board category).unnamed := by
    cases category <;> decide
  refine ⟨by decide, by decide, ?_, ?_⟩
  · have named := reports_disclose_no_more namedBlob namelessBlob .verbose .standard rfl
    exact (named.1 boards).2.2
  · exact (reports_disclose_no_more namedBlob otherBlob .verbose .standard rfl).2.2.2

end Summary

end HistorySurvey
