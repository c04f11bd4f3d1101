import HistorySurvey.Object.Id
import HistorySurvey.Object.Kind

/-! Objects of a history as they are found: how large one is and what it links to. Measuring an
object needs the measures of its dependencies first. -/
namespace HistorySurvey

/-- What a link stands for. Only content is part of the object that links to it; a symbolic link
and a submodule count as entries and are not followed. -/
inductive LinkMode
  | content
  | symlink
  | submodule
  deriving DecidableEq

def LinkMode.name : LinkMode → String
  | .content => "object"
  | .symlink => "symlink"
  | .submodule => "submodule"

structure Link where
  target : ObjectId
  segment : Option (List UInt8)
  mode : LinkMode
  deriving DecidableEq

def Link.segmentLength (link : Link) : Nat := (link.segment.getD []).length

def Link.toObject (target : ObjectId) : Link := ⟨target, none, .content⟩

/-- An object with its size in bytes. The links of a commit are its root tree and then its
parents; a tag links to the object it marks. -/
structure HistoryObject where
  id : ObjectId
  kind : Kind
  size : Nat
  links : List Link
  name : Option String
  deriving DecidableEq

namespace HistoryObject

def blob (id : ObjectId) (size : Nat) : HistoryObject := ⟨id, .blob, size, [], none⟩

def tree (id : ObjectId) (size : Nat) (entries : List Link) : HistoryObject :=
  ⟨id, .tree, size, entries, none⟩

def commit (id : ObjectId) (size : Nat) (root : ObjectId) (parents : List ObjectId) :
    HistoryObject :=
  ⟨id, .commit, size, Link.toObject root :: parents.map Link.toObject, none⟩

def tag (id : ObjectId) (size : Nat) (target : ObjectId) : HistoryObject :=
  ⟨id, .tag, size, [Link.toObject target], none⟩

/-- What has to be measured before this object, once for each link. -/
def dependencies (object : HistoryObject) : List ObjectId :=
  (object.links.filter (·.mode = .content)).map Link.target

end HistoryObject

end HistorySurvey
