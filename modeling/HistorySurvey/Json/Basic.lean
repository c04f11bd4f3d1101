import HistorySurvey.Binary64.Basic

/-! JSON values with fields in the order of writing. -/
namespace HistorySurvey

inductive Json
  | null
  | boolean (value : Bool)
  | natural (value : Nat)
  | number (value : Binary64)
  | text (value : String)
  | list (items : List Json)
  | object (fields : List (String × Json))

end HistorySurvey
