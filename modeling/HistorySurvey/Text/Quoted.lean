import HistorySurvey.Unicode.Category
import HistorySurvey.Unicode.Property

/-! A text in double quotes, for messages: what could not be seen, or could be mistaken for part of
the message, is written as an escape. -/
namespace HistorySurvey.Text

/-- Characters that are visible and stand on their own. The blank is the only space among them. -/
def shown (c : Char) : Bool :=
  c = ' ' || (Unicode.Category.graphic.contains c && !Unicode.Property.graphemeExtend.contains c)

def braced (text : List Char) : List Char := '{' :: text ++ ['}']

def quotedChar (c : Char) : List Char :=
  if c = '"' then ['\\', '"']
  else if c = '\\' then ['\\', '\\']
  else if c = '\n' then ['\\', 'n']
  else if c = '\r' then ['\\', 'r']
  else if c = '\t' then ['\\', 't']
  else if c = '\x00' then ['\\', '0']
  else if shown c then [c]
  else '\\' :: 'u' :: braced (Nat.toDigits 16 c.toNat)

def quoted (text : String) : String :=
  String.ofList ('"' :: text.toList.flatMap quotedChar ++ ['"'])

end HistorySurvey.Text
