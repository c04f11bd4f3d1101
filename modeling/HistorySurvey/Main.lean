import HistorySurvey.Command.Run
import HistorySurvey.Git.Directory

/-! The program: it reads the files of a repository, follows the command line, and writes what
there is to say. -/
namespace HistorySurvey.Main

def singleFiles : List String := ["HEAD", "shallow", "packed-refs"]

def directories : List String := ["refs", "objects"]

def readFile (place path : String) : IO (List Git.File) := do
  match ← (IO.FS.readBinFile (place ++ "/" ++ path)).toBaseIO with
  | .ok content => pure [⟨path, content.toList⟩]
  | .error _ => pure []

/-- The files in a directory at a path from a place, and in those inside it. What cannot be read
has none. -/
partial def readDirectory (place path : String) : IO (List Git.File) := do
  match ← (IO.FS.realPath (place ++ "/" ++ path)).toBaseIO with
  | .error _ => pure []
  | .ok directory =>
    if ← directory.isDir then
      let entries ← directory.readDir
      let files ← entries.toList.mapM fun entry =>
        readDirectory place (path ++ "/" ++ entry.fileName)
      pure files.flatten
    else readFile place path

def readRepository (place : String) : IO (Option Git.Repository) := do
  let single ← singleFiles.mapM (readFile place)
  let nested ← directories.mapM (readDirectory place)
  pure (Git.Repository.ofFiles? (single ++ nested).flatten)

def write (response : Command.Response) : IO UInt32 := do
  response.notes.forM IO.eprintln
  response.complaint.forM fun complaint => IO.eprintln ("error: " ++ complaint)
  IO.print response.output
  pure response.code.toUInt32

end HistorySurvey.Main

open HistorySurvey in
def main (words : List String) : IO UInt32 := do
  match Command.Arguments.read words with
  | .error cause =>
    let response := Command.refuse cause
    if response.code ≠ 0 then IO.eprint Command.helpText
    Main.write response
  | .ok arguments =>
    let repository ← Main.readRepository arguments.repositoryPath
    Main.write (Command.follow arguments repository)
