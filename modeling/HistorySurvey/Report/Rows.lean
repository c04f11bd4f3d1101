import HistorySurvey.Json.Printer
import HistorySurvey.Report.Rating

/-! The rated rows of a report as JSON, one object for each metric with enough stars. -/
namespace HistorySurvey

namespace RatedItem

def offenderFields (row : RatedItem) (style : NameStyle) : List (String × Json) :=
  match style, row.offender with
  | .nothing, _ | _, none => []
  | .hash, some offender => [("objectName", .text offender.id.toHex)]
  | .full, some offender =>
    ("objectName", .text offender.id.toHex)
      :: (offender.name.map fun name => ("objectDescription", Json.text name)).toList

def toJson (row : RatedItem) (style : NameStyle) (scale : Scale) : Json :=
  .object ([("description", .text row.item.description),
      ("value", .natural row.rating.figure.value),
      ("unit", .text row.item.unit),
      ("prefixes", .text row.item.multiples.name),
      ("reasonableValue", .number (scale.reasonable row.item.metric)),
      ("levelOfConcern", .number row.rating.level),
      ("stars", .natural row.rating.stars)]
    ++ (if row.rating.figure.overflow then [("overflow", .boolean true)] else [])
    ++ row.offenderFields style)

end RatedItem

namespace Summary

/-- The rows with enough stars, in the order of the layout. -/
def rows (s : Summary) (threshold : Threshold) (scale : Scale) : List RatedItem :=
  (Outline.itemsOfAll layout).filterMap (RatedItem.pick s threshold scale)

def rowsText (s : Summary) (threshold : Threshold) (style : NameStyle) (scale : Scale) : String :=
  (Json.object ((s.rows threshold scale).map fun row =>
    (row.item.metric.key, row.toJson style scale))).pretty

end Summary

end HistorySurvey
