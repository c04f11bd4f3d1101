import HistorySurvey.Binary64.Decimal
import HistorySurvey.Json.Basic

/-! JSON text in lines: each item and each field on a line of its own, two blanks deeper than what
holds it. Text is kept as it is except for what the format cannot hold between quotes. -/
namespace HistorySurvey.Json

def hexDigit (n : Nat) : Char := Nat.digitChar n

def escaped (c : Char) : List Char :=
  if c = '"' then ['\\', '"']
  else if c = '\\' then ['\\', '\\']
  else if c = '\x08' then ['\\', 'b']
  else if c = '\x0c' then ['\\', 'f']
  else if c = '\n' then ['\\', 'n']
  else if c = '\r' then ['\\', 'r']
  else if c = '\t' then ['\\', 't']
  else if c.toNat < 0x20 then
    ['\\', 'u', '0', '0', hexDigit (c.toNat / 16), hexDigit (c.toNat % 16)]
  else [c]

def textChars (text : String) : List Char := '"' :: (text.toList.flatMap escaped ++ ['"'])

def newLine (depth : Nat) : List Char := '\n' :: List.replicate (2 * depth) ' '

def separated (depth : Nat) : List (List Char) → List Char
  | [] => []
  | [part] => newLine depth ++ part
  | part :: rest => newLine depth ++ part ++ ',' :: separated depth rest

def enclosed (depth : Nat) (opening closing : Char) (parts : List (List Char)) : List Char :=
  if parts.isEmpty then [opening, closing]
  else opening :: separated (depth + 1) parts ++ newLine depth ++ [closing]

mutual

/-- The text of a value whose first line already stands at the given depth. A number that is not
finite is written as null. -/
def chars (depth : Nat) : Json → List Char
  | .null => "null".toList
  | .boolean value => (if value then "true" else "false").toList
  | .natural value => Nat.toDigits 10 value
  | .number value => (value.jsonText?.getD "null").toList
  | .text value => textChars value
  | .list items => enclosed depth '[' ']' (itemChars (depth + 1) items)
  | .object fields => enclosed depth '{' '}' (fieldChars (depth + 1) fields)

def itemChars (depth : Nat) : List Json → List (List Char)
  | [] => []
  | item :: rest => chars depth item :: itemChars depth rest

def fieldChars (depth : Nat) : List (String × Json) → List (List Char)
  | [] => []
  | field :: rest => keyedChars depth field :: fieldChars depth rest

def keyedChars (depth : Nat) : String × Json → List Char
  | (key, value) => textChars key ++ ':' :: ' ' :: chars depth value

end

def pretty (value : Json) : String := String.ofList (chars 0 value)

end HistorySurvey.Json
