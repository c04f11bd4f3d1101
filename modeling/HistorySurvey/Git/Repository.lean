import Std.Data.HashMap
import HistorySurvey.Error
import HistorySurvey.Git.Object
import HistorySurvey.References.Name

/-! Repositories: stored objects, and references in files of their own or packed into one. -/
namespace HistorySurvey.Git

structure Repository where
  /-- The objects as they are stored, replaced ones too. -/
  objects : List (ObjectId × StoredObject)
  loose : List (String × String)
  packed : List (String × String)
  shallow : Bool

/-- The tree without entries. It can be read from every repository and is never replaced. -/
def emptyTree : ObjectId := .ofNat 0x4b825dc642cb6eb9a060e54bf8d69288fbee4904

inductive Target
  | object (id : ObjectId)
  | symbolic (name : String)
  deriving DecidableEq

/-- What announces the name of another reference. -/
def symbolicMark : List Char := "ref: ".toList

def Target.read? (text : String) : Option Target :=
  let chars := text.toList
  if symbolicMark.isPrefixOf chars then
    let name := String.ofList ((chars.drop symbolicMark.length).dropWhile (· = ' '))
    if References.isValidName name then some (.symbolic name) else none
  else (ObjectId.ofHex? chars).map .object

def after? (beginning text : String) : Option (List Char) :=
  if References.startsWith beginning text then some (text.toList.drop beginning.toList.length)
  else none

namespace Repository

/-- The loose references. Files without a proper name are none. -/
def looseTargets? (r : Repository) : Option (List (String × Target)) :=
  (r.loose.filter fun entry =>
    References.startsWith "refs/" entry.1 && References.isValidName entry.1).mapM fun entry =>
      (Target.read? entry.2).map fun target => (entry.1, target)

def packedTargets? (r : Repository) : Option (List (String × Target)) :=
  r.packed.mapM fun entry =>
    if References.isValidName entry.1 then
      (ObjectId.ofHex? entry.2.toList).map fun id => (entry.1, .object id)
    else none

/-- All references to objects in ascending order of their names. A loose reference hides a packed
one of its name, and symbolic references are left out. -/
def references (r : Repository) : Except SourceError (List (String × ObjectId)) :=
  match r.looseTargets?, r.packedTargets? with
  | some loose, some packed =>
    let visible := packed.filter fun entry => loose.all fun other => other.1 ≠ entry.1
    let direct := (loose ++ visible).filterMap fun
      | (name, .object id) => some (name, id)
      | (_, .symbolic _) => none
    .ok (direct.mergeSort fun a b => a.1 ≤ b.1)
  | _, _ => .error .references

/-- A reference may say in its name which object it replaces by the one that it leads to. -/
def replacement? (reference : String × ObjectId) : Option (ObjectId × ObjectId) :=
  (after? "refs/replace/" reference.1).bind fun digits =>
    (ObjectId.ofHex? (digits.map Char.toLower)).map fun replaced => (replaced, reference.2)

def replacements (r : Repository) : List (ObjectId × ObjectId) :=
  match r.references with
  | .ok references => references.filterMap replacement?
  | .error _ => []

/-- Has an object stored under another id answer for the one that it replaces. -/
def replace (objects : Std.HashMap ObjectId StoredObject) (replacement : ObjectId × ObjectId)
    (answers : Std.HashMap ObjectId StoredObject) : Std.HashMap ObjectId StoredObject :=
  match objects[replacement.2]? with
  | some object => answers.insert replacement.1 object
  | none => answers.erase replacement.1

/-- What is read under an id. An object that replaces another one is not replaced itself then. -/
def store (r : Repository) : Std.HashMap ObjectId StoredObject :=
  let objects := Std.HashMap.ofList r.objects
  (r.replacements.foldr (replace objects) objects).insert emptyTree ⟨.tree, []⟩

end Repository

end HistorySurvey.Git
