import HistorySurvey.Git.Bytes
import HistorySurvey.Object.Basic

/-! Stored objects, and the links in their contents. -/
namespace HistorySurvey.Git

structure StoredObject where
  kind : Kind
  content : Bytes
  deriving DecidableEq

/-! Trees: entries of an octal mode, a name up to a zero byte, and the twenty bytes of an id. -/

inductive EntryKind
  | file
  | tree
  | symlink
  | submodule
  deriving DecidableEq

structure TreeEntry where
  kind : EntryKind
  name : Bytes
  target : ObjectId
  deriving DecidableEq

/-- Only the bits for the type of a file matter. -/
def EntryKind.ofMode (mode : Nat) : EntryKind :=
  match mode / 0o10000 % 0o20 with
  | 0o04 => .tree
  | 0o12 => .symlink
  | 0o16 => .submodule
  | _ => .file

def isOctal (byte : UInt8) : Bool := 0x30 ≤ byte && byte ≤ 0x37

def modeDigits : Nat := 7

def idSize : Nat := 20

def treeEntry? (content : Bytes) : Option (TreeEntry × Bytes) :=
  let mode := content.takeWhile (· ≠ blank)
  let named := (content.dropWhile (· ≠ blank)).drop 1
  let name := named.takeWhile (· ≠ 0)
  match named.dropWhile (· ≠ 0) with
  | [] => none
  | _ :: rest =>
    let target := rest.take idSize
    if mode.all isOctal && mode.length ≤ modeDigits && target.length = idSize then
      let bits := mode.foldl (fun value byte => 8 * value + (byte.toNat - 0x30)) 0
      some (⟨.ofMode bits, name, .ofBytes target⟩, rest.drop idSize)
    else none

theorem length_of_treeEntry? {content rest : Bytes} {entry : TreeEntry}
    (read : treeEntry? content = some (entry, rest)) : rest.length < content.length := by
  unfold treeEntry? at read
  simp only at read
  split at read
  · cases read
  · rename_i found
    split at read
    · cases read
      have shorter := (List.dropWhile_suffix (l := (content.dropWhile (· ≠ blank)).drop 1)
        (· ≠ 0)).length_le
      have within := (List.dropWhile_suffix (l := content) (· ≠ blank)).length_le
      rw [found] at shorter
      simp only [List.length_cons, List.length_drop] at shorter ⊢
      omega
    · cases read

def treeEntries? (content : Bytes) : Option (List TreeEntry) :=
  if content.isEmpty then some []
  else match _first : treeEntry? content with
    | some (entry, rest) => (treeEntries? rest).map (entry :: ·)
    | none => none
termination_by content.length
decreasing_by exact length_of_treeEntry? _first

/-! Commits: lines for the tree, the parents, and who wrote it, more lines, and a message. -/

def parents (content : Bytes) : List ObjectId × Bytes :=
  match _first : idField? "parent" content with
  | some (id, rest) =>
    let (others, rest) := parents rest
    (id :: others, rest)
  | none => ([], content)
termination_by content.length
decreasing_by exact length_of_idField? _first

def isHeader (line : Bytes) : Bool :=
  !(line.takeWhile (· ≠ blank)).isEmpty && 1 < (line.dropWhile (· ≠ blank)).length

/-- What follows headers. A line that begins with a blank continues the header before it. -/
def dropHeaders (continues : Bool) (content : Bytes) : Bytes :=
  match _first : line? content with
  | some (line, rest) =>
    if (continues && line.head? = some blank) || isHeader line then dropHeaders true rest
    else content
  | none => content
termination_by content.length
decreasing_by exact length_of_line? _first

def dropEncoding (content : Bytes) : Bytes :=
  match field? "encoding" content with
  | some (value, rest) => if value.isEmpty then content else rest
  | none => content

def commitLinks? (content : Bytes) : Option (ObjectId × List ObjectId) := do
  let (root, rest) ← idField? "tree" content
  let (parents, rest) := parents rest
  let rest ← signedField? "author" rest
  let rest ← signedField? "committer" rest
  let message := dropHeaders false (dropEncoding rest)
  if message.head? = some newLine then some (root, parents) else none

/-! Tags: lines for the target, its kind, and the name, perhaps who made it, and a message. -/

/-- What follows the line of who made a tag. It may be missing. -/
def dropTagger (content : Bytes) : Bytes := (signedField? "tagger" content).getD content

/-- The target of a tag and the kind that it is said to have. -/
def tagTarget? (content : Bytes) : Option (ObjectId × Kind) := do
  let (target, rest) ← idField? "object" content
  let (kind, rest) ← field? "type" rest
  let kind ← Kind.ofName? (String.ofList (characters kind))
  let (name, rest) ← field? "tag" rest
  let message := dropTagger rest
  if name.isEmpty then none
  else if message.isEmpty || message.head? = some newLine then some (target, kind)
  else none

end HistorySurvey.Git
