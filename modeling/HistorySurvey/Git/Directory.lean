import HistorySurvey.Deflate.Block
import HistorySurvey.Git.Repository
import HistorySurvey.Text.Utf8

/-! Repositories as the files of a directory. -/
namespace HistorySurvey.Git

structure File where
  path : String
  content : Bytes

namespace StoredObject

/-- The object in a file: the name of its kind, a blank, its length, a zero byte, and its content,
all compressed. -/
def ofFile? (content : Bytes) : Option StoredObject := do
  let unpacked ← Deflate.unpack? content
  let header := characters (unpacked.takeWhile (· ≠ 0))
  let content := (unpacked.dropWhile (· ≠ 0)).drop 1
  let kind ← Kind.ofName? (String.ofList (header.takeWhile (· ≠ ' ')))
  let length ← Text.readNatural? content.length ((header.dropWhile (· ≠ ' ')).drop 1)
  if length = content.length then some ⟨kind, content⟩ else none

end StoredObject

namespace File

def text (f : File) : String :=
  Text.lossyUtf8 (f.content.reverse.dropWhile isAsciiBlank).reverse

/-- The name of an object is spread over a directory of two digits and a file of the others. -/
def object? (f : File) : Option (ObjectId × StoredObject) := do
  let place ← after? "objects/" f.path
  if place[2]? = some '/' then
    let id ← ObjectId.ofHex? (place.eraseIdx 2)
    let stored ← StoredObject.ofFile? f.content
    some (id, stored)
  else none

def reference? (f : File) : Option (String × String) :=
  (after? "refs/" f.path).map fun _ => (f.path, f.text)

/-- A line of the common file of references. Comments and the targets of tags are no references. -/
def packedReference? : List Char → Option (String × String)
  | [] | '#' :: _ | '^' :: _ => none
  | line =>
    some (String.ofList ((line.dropWhile (· ≠ ' ')).drop 1),
      String.ofList (line.takeWhile (· ≠ ' ')))

def packedReferences (f : File) : List (String × String) :=
  if f.path = "packed-refs" then
    (f.text.splitOn "\n").filterMap fun line => packedReference? line.toList
  else []

/-- Whether a file says that the history is cut off. -/
def cutsOff (f : File) : Bool := f.path = "shallow" && !f.content.isEmpty

def isHead (f : File) : Bool := f.path = "HEAD" && (Target.read? f.text).isSome

end File

def Repository.ofFiles? (files : List File) : Option Repository :=
  if files.any File.isHead then
    some { objects := files.filterMap File.object?
           loose := files.filterMap File.reference?
           packed := files.flatMap File.packedReferences
           shallow := files.any File.cutsOff }
  else none

end HistorySurvey.Git
