import HistorySurvey.Binary64.Basic
import HistorySurvey.Text.Natural

/-! Reading a double-precision number from decimal text: the number nearest to the exact value
written, with words for infinity and not-a-number. -/
namespace HistorySurvey.Binary64

inductive ReadError
  | empty
  | invalid
  deriving DecidableEq

def ReadError.message : ReadError → String
  | .empty => "cannot parse float from empty string"
  | .invalid => "invalid float literal"

structure Written where
  digits : Nat
  exponent : Int

def readExponent? (text : List Char) : Option Int :=
  let (negative, digits) := match text with
    | '-' :: rest => (true, rest)
    | '+' :: rest => (false, rest)
    | _ => (false, text)
  if digits.isEmpty || !digits.all Char.isDigit then none
  else
    let size : Int := Text.digitsValue digits
    some (if negative then -size else size)

def readWritten? (text : List Char) : Option Written := do
  let whole := text.takeWhile Char.isDigit
  let afterWhole := text.dropWhile Char.isDigit
  let (decimals, rest) := match afterWhole with
    | '.' :: more => (more.takeWhile Char.isDigit, more.dropWhile Char.isDigit)
    | _ => ([], afterWhole)
  if whole.isEmpty && decimals.isEmpty then none
  else
    let exponent ← match rest with
      | [] => some 0
      | c :: more => if c = 'e' ∨ c = 'E' then readExponent? more else none
    some ⟨Text.digitsValue (whole ++ decimals), exponent - decimals.length⟩

/-- The nearest number. Far beyond the range the answer is known without the power of ten. -/
def Written.nearest (negative : Bool) (w : Written) : Binary64 :=
  let leading := (Nat.toDigits 10 w.digits).length + w.exponent
  if w.digits = 0 ∨ leading < -400 then Binary64.nearest negative 0 1
  else if 400 < leading then infinity negative
  else
    let (times, parts) := powerOfTen w.exponent
    Binary64.nearest negative (w.digits * times) parts

def read (text : String) : Except ReadError Binary64 :=
  if text.isEmpty then .error .empty
  else
    let (negative, unsigned) := match text.toList with
      | '-' :: rest => (true, rest)
      | '+' :: rest => (false, rest)
      | chars => (false, chars)
    let word := String.ofList (unsigned.map Char.toLower)
    if word = "nan" then .ok nan
    else if word = "inf" ∨ word = "infinity" then .ok (infinity negative)
    else match readWritten? unsigned with
      | some written => .ok (written.nearest negative)
      | none => .error .invalid

end HistorySurvey.Binary64
