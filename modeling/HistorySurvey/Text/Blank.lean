import HistorySurvey.Unicode.Property

/-! Blank characters around a text. -/
namespace HistorySurvey.Text

def isBlank (c : Char) : Bool := Unicode.Property.whiteSpace.contains c

def trimmed (text : List Char) : List Char :=
  ((text.dropWhile isBlank).reverse.dropWhile isBlank).reverse

end HistorySurvey.Text
