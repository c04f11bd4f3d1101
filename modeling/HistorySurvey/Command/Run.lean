import HistorySurvey.Command.Arguments
import HistorySurvey.Git.Walk
import HistorySurvey.Report.Figures
import HistorySurvey.Report.Rows
import HistorySurvey.Report.Table
import HistorySurvey.Survey

/-! The command: it surveys a repository and reports, or says what went wrong. -/
namespace HistorySurvey.Command

inductive Failure
  | scale (cause : Scale.InvalidBase)
  | filter (cause : References.InvalidRegex)
  | survey (cause : SurveyError)

def Failure.message : Failure → String
  | .scale cause => cause.message
  | .filter cause => cause.message
  | .survey cause => cause.message

/-- What the command says: its exit code, its output, the lines about references, and why it
failed. -/
structure Response where
  code : Nat
  output : String
  notes : List String
  complaint : Option String

namespace Response

def failed (notes : List String) (failure : Failure) : Response :=
  ⟨1, "", notes, some failure.message⟩

def done (output : String) (notes : List String) : Response := ⟨0, output, notes, none⟩

end Response

def programName : String := "repo-sizer"

def versionText : String := programName ++ " 0.1.0\n"

def helpText : String := "Usage: " ++ programName ++ " [OPTIONS] [REPO_PATH]\n"

def refuse : UsageError → Response
  | .helpWanted => .done helpText []
  | .versionWanted => .done versionText []
  | _ => ⟨2, "", [], none⟩

def selectionNote (entry : String × Bool) : String :=
  (if entry.2 then "+ " else "  ") ++ entry.1

def report (a : Arguments) (scale : Scale) (s : Summary) : String :=
  if a.has .json then
    match a.jsonForm with
    | .figures => s.figuresText a.nameStyle ++ "\n"
    | .rows => s.rowsText a.effectiveThreshold a.nameStyle scale ++ "\n"
  else s.tableText a.effectiveThreshold a.nameStyle scale

/-- Follows a command line. The scale is checked first, then the filter, and then the repository is
opened. References are listed before anything is read. -/
def follow (a : Arguments) (repository : Option Git.Repository) : Response :=
  match Scale.ofBase a.base, a.filter with
  | .error cause, _ => .failed [] (.scale cause)
  | _, .error cause => .failed [] (.filter cause)
  | .ok scale, .ok filter =>
    match Git.History.ofPath filter a.nameStyle.wantsNames a.repositoryPath repository with
    | .error cause => .failed [] (.survey (.source cause))
    | .ok history =>
      let notes :=
        if a.has .showReferences then history.selection.map selectionNote else []
      match (Survey.run history.stream none).result with
      | .error cause => .failed notes (.survey cause)
      | .ok s => .done (report a scale s) notes

def run (words : List String) (find : String → Option Git.Repository) : Response :=
  match Arguments.read words with
  | .error cause => refuse cause
  | .ok a => follow a (find a.repositoryPath)

end HistorySurvey.Command
