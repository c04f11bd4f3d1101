import HistorySurvey.Assembly.Shelf
import HistorySurvey.Error

/-! The measure of one object from the measures of its dependencies on a shelf. -/
namespace HistorySurvey.Assembly

def lookup (shelf : Shelf) (parent : HistoryObject) (child : ObjectId) :
    Except SurveyError Measure :=
  match shelf.get? child with
  | some measure => .ok measure
  | none => .error (.breach (.unmeasured parent.kind parent.id child))

def unexpected (parent : HistoryObject) (child : ObjectId) (expected : List Kind)
    (found : Measure) : SurveyError :=
  .unexpectedKind child parent.id expected found.kind

def addEntry (shelf : Shelf) (object : HistoryObject) (m : TreeMeasure) (entry : Link) :
    Except SurveyError TreeMeasure :=
  match entry.mode with
  | .symlink => .ok (m.addSymlink entry.segmentLength)
  | .submodule => .ok (m.addSubmodule entry.segmentLength)
  | .content => do
    match ← lookup shelf object entry.target with
    | .blob size => .ok (m.addBlob entry.segmentLength size)
    | .tree sub => .ok (m.addTree entry.segmentLength sub)
    | other => .error (unexpected object entry.target [.blob, .tree] other)

def measureTree (shelf : Shelf) (object : HistoryObject) : Except SurveyError TreeMeasure :=
  object.links.foldlM (addEntry shelf object) (.ofEntryCount object.links.length)

def addParent (shelf : Shelf) (object : HistoryObject) (m : CommitMeasure) (parent : Link) :
    Except SurveyError CommitMeasure := do
  match ← lookup shelf object parent.target with
  | .commit measure => .ok (m.addParent measure)
  | other => .error (unexpected object parent.target [.commit] other)

/-- The first link of a commit is its root tree, the others are its parents. -/
def measureCommit (shelf : Shelf) (object : HistoryObject) : Except SurveyError CommitMeasure :=
  match object.links with
  | [] => .error (.source (.malformed object.id .commitWithoutTree))
  | root :: parents => do
    match ← lookup shelf object root.target with
    | .tree tree => parents.foldlM (addParent shelf object) (.ofRoot root.target tree)
    | other => .error (unexpected object root.target [.tree] other)

def measureTag (shelf : Shelf) (object : HistoryObject) : Except SurveyError TagMeasure :=
  match object.links with
  | [] => .error (.source (.malformed object.id .tagWithoutTarget))
  | target :: _ => do
    let measure ← lookup shelf object target.target
    .ok (.ofTarget target.target measure)

def measure (shelf : Shelf) (object : HistoryObject) : Except SurveyError Measure :=
  match object.kind with
  | .blob => .ok (.blob (.ofNat object.size))
  | .tree => .tree <$> measureTree shelf object
  | .commit => .commit <$> measureCommit shelf object
  | .tag => .tag <$> measureTag shelf object

end HistorySurvey.Assembly
