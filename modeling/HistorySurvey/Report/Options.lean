import HistorySurvey.Text.Blank
import HistorySurvey.Text.Natural
import HistorySurvey.Text.Quoted

/-! What a report shows and in which form, and the texts that choose it. -/
namespace HistorySurvey

inductive OptionError
  | threshold (text : String)
  | nameStyle (text : String)
  | jsonVersion (text : String)
  deriving DecidableEq

def OptionError.message : OptionError → String
  | .threshold text =>
    "invalid threshold " ++ Text.quoted text ++ ": expected a non-negative integer"
  | .nameStyle text =>
    "invalid name style " ++ Text.quoted text ++ ": expected one of 'none', 'hash', 'full'"
  | .jsonVersion text => "JSON version must be 1 or 2 (got " ++ text ++ ")"

/-- The fewest stars that a row needs. -/
structure Threshold where
  stars : Nat
  deriving DecidableEq

namespace Threshold

def verbose : Threshold := ⟨0⟩

def standard : Threshold := ⟨1⟩

def critical : Threshold := ⟨5⟩

instance : Inhabited Threshold := ⟨standard⟩

def admits (t : Threshold) (stars : Nat) : Bool := t.stars ≤ stars

/-- The largest threshold that can be asked for. -/
def limit : Nat := 0xffffffff

def read (text : String) : Except OptionError Threshold :=
  match Text.readNatural? limit (Text.trimmed text.toList) with
  | some stars => .ok ⟨stars⟩
  | none => .error (.threshold text)

end Threshold

inductive NameStyle
  | nothing
  | hash
  | full
  deriving DecidableEq

namespace NameStyle

def all : List NameStyle := [nothing, hash, full]

def name : NameStyle → String
  | nothing => "none"
  | hash => "hash"
  | full => "full"

def wantsNames (style : NameStyle) : Bool := style = full

def read (text : String) : Except OptionError NameStyle :=
  match all.find? (·.name = text) with
  | some style => .ok style
  | none => .error (.nameStyle text)

end NameStyle

/-- The two forms of JSON: all figures as they are, or the rated rows of the table. -/
inductive JsonVersion
  | figures
  | rows
  deriving DecidableEq

namespace JsonVersion

def ofNumber (number : Nat) : Except OptionError JsonVersion :=
  match number with
  | 1 => .ok figures
  | 2 => .ok rows
  | _ => .error (.jsonVersion (toString number))

def limit : Nat := 0xff

def read (text : String) : Except OptionError JsonVersion :=
  match Text.readNatural? limit (Text.trimmed text.toList) with
  | some number => ofNumber number
  | none => .error (.jsonVersion text)

end JsonVersion

end HistorySurvey
