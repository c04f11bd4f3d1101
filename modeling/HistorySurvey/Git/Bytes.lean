import HistorySurvey.Object.Id

/-! Lines and fields in the contents of stored objects. -/
namespace HistorySurvey.Git

abbrev Bytes := List UInt8

def newLine : UInt8 := 0x0a

def blank : UInt8 := 0x20

def ascii (text : String) : Bytes := text.toUTF8.toList

/-- The characters of ASCII bytes; other bytes have characters of the same number. -/
def characters (bytes : Bytes) : List Char := bytes.map fun byte => Char.ofNat byte.toNat

def line? (content : Bytes) : Option (Bytes × Bytes) :=
  match content.dropWhile (· ≠ newLine) with
  | [] => none
  | _ :: rest => some (content.takeWhile (· ≠ newLine), rest)

theorem length_of_line? {content line rest : Bytes} (read : line? content = some (line, rest)) :
    rest.length < content.length := by
  unfold line? at read
  split at read
  · cases read
  · rename_i first more found
    cases read
    have shorter : (content.dropWhile (· ≠ newLine)).length ≤ content.length :=
      (List.dropWhile_suffix _).length_le
    rw [found] at shorter
    exact shorter

def field? (name : String) (content : Bytes) : Option (Bytes × Bytes) := do
  let (line, rest) ← line? content
  let label := ascii name ++ [blank]
  if label.isPrefixOf line then some (line.drop label.length, rest) else none

theorem length_of_field? {name : String} {content value rest : Bytes}
    (read : field? name content = some (value, rest)) : rest.length < content.length := by
  unfold field? at read
  cases first : line? content with
  | none => rw [first] at read; cases read
  | some taken =>
    rw [first] at read
    simp only [Option.bind_eq_bind, Option.bind_some] at read
    split at read
    · cases read
      exact length_of_line? first
    · cases read

def idField? (name : String) (content : Bytes) : Option (ObjectId × Bytes) := do
  let (value, rest) ← field? name content
  let id ← ObjectId.ofHex? (characters value)
  some (id, rest)

theorem length_of_idField? {name : String} {content rest : Bytes} {id : ObjectId}
    (read : idField? name content = some (id, rest)) : rest.length < content.length := by
  unfold idField? at read
  cases line : field? name content with
  | none => rw [line] at read; cases read
  | some taken =>
    rw [line] at read
    simp only [Option.bind_eq_bind, Option.bind_some, Option.bind_eq_some_iff] at read
    obtain ⟨_, _, same⟩ := read
    cases same
    exact length_of_field? line

def isAsciiBlank (byte : UInt8) : Bool := byte ∈ [0x20, 0x09, 0x0a, 0x0c, 0x0d]

def isTimeByte (byte : UInt8) : Bool :=
  (0x30 ≤ byte && byte ≤ 0x39) || byte ∈ [0x2b, 0x2d, 0x20, 0x09]

/-- Whether a line says who did something and when: a name, an address in angle brackets, and a
time. Superfluous brackets and blanks around the address do not matter as long as those on its left
and those on its right are not the same. -/
def isSignature (line : Bytes) : Bool :=
  let opening : UInt8 := 0x3c
  let closing : UInt8 := 0x3e
  let time := (line.reverse.takeWhile (· ≠ closing)).reverse
  let before := line.take (line.length - time.length - 1)
  let name := before.takeWhile (· ≠ opening)
  let padding (bracket : UInt8) (bytes : Bytes) : Nat :=
    (bytes.takeWhile fun byte => isAsciiBlank byte || byte = bracket).length
  let left := name.length + padding opening (line.drop name.length)
  let right := before.length - padding closing before.reverse
  line.contains closing && before.contains opening && left ≤ right && time.all isTimeByte

def signedField? (name : String) (content : Bytes) : Option Bytes := do
  let (value, rest) ← field? name content
  if isSignature value then some rest else none

end HistorySurvey.Git
