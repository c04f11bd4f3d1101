import HistorySurvey.Object.Basic

/-! Why a survey fails. A survey that fails has no figures at all. -/
namespace HistorySurvey

/-- What is missing in an object that should have links of a fixed form. -/
inductive Defect
  | commitWithoutTree
  | tagWithoutTarget
  deriving DecidableEq

def Defect.message : Defect → String
  | .commitWithoutTree => "commit has no tree"
  | .tagWithoutTarget => "tag has no target"

inductive SourceError
  | cannotOpen (path : String)
  | shallow
  | references
  | unreadable (id : ObjectId)
  | malformed (id : ObjectId) (defect : Defect)
  deriving DecidableEq

def SourceError.message : SourceError → String
  | .cannotOpen path => "couldn't open Git repository at " ++ path
  | .shallow => "this appears to be a shallow clone; full clone required"
  | .references => "failed to list references"
  | .unreadable id => "failed to read object " ++ id.toHex
  | .malformed id defect => "object " ++ id.toHex ++ " is malformed: " ++ defect.message

/-- Bookkeeping that does not add up. -/
inductive Breach
  | notParked (parent child : ObjectId)
  | unmeasured (kind : Kind) (parent child : ObjectId)
  | stillParked (count : Nat)
  deriving DecidableEq

def Breach.message : Breach → String
  | .notParked parent child => parent.toHex ++ " waits on " ++ child.toHex ++ " but is not pending"
  | .unmeasured kind parent child =>
    kind.name ++ " " ++ parent.toHex ++ " combined without a descriptor for child " ++ child.toHex
  | .stillParked count => toString count ++ " objects still pending with no missing child"

inductive SurveyError
  | source (cause : SourceError)
  | missingObject (id parent : ObjectId)
  | unexpectedKind (id parent : ObjectId) (expected : List Kind) (found : Kind)
  | breach (cause : Breach)
  | cancelled
  deriving DecidableEq

def linked (id parent : ObjectId) : String :=
  "object " ++ id.toHex ++ " (referenced by " ++ parent.toHex ++ ")"

def SurveyError.message : SurveyError → String
  | .source cause => cause.message
  | .missingObject id parent => linked id parent ++ " was never produced by the object source"
  | .unexpectedKind id parent expected found =>
    linked id parent ++ " is a " ++ found.name ++ ", expected "
      ++ " or ".intercalate (expected.map Kind.name)
  | .breach cause => "internal invariant violated: " ++ cause.message
  | .cancelled => "scan aborted"

end HistorySurvey
