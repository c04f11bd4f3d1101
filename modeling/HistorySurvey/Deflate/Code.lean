/-! Bits of compressed data, and the codes whose words are runs of bits. -/
namespace HistorySurvey.Deflate

/-- Compressed data of which a part was read. The lowest bit of a byte comes first. -/
structure Bits where
  bytes : List UInt8
  used : Nat

/-- What is read from compressed data, unless the data is none. -/
abbrev Reader := StateT Bits Option

def bit : Reader Bool := fun bits =>
  match bits.bytes with
  | [] => none
  | byte :: rest =>
    some (byte.toNat.testBit bits.used,
      if bits.used = 7 then ⟨rest, 0⟩ else { bits with used := bits.used + 1 })

/-- A number of so many bits, the lowest one first. -/
def number : Nat → Reader Nat
  | 0 => pure 0
  | width + 1 => do
    let low ← bit
    let high ← number width
    pure (2 * high + low.toNat)

def skipToByte : Reader Unit :=
  modify fun bits => if bits.used = 0 then bits else ⟨bits.bytes.drop 1, 0⟩

def wholeBytes (count : Nat) : Reader (List UInt8) := fun bits =>
  let taken := bits.bytes.take count
  if bits.used = 0 ∧ taken.length = count then some (taken, ⟨bits.bytes.drop count, 0⟩) else none

/-- A code as a tree: a word is the way to a symbol, and no word begins another one. -/
inductive Code
  | unused
  | symbol (value : Nat)
  | fork (zero one : Code)
  deriving DecidableEq

namespace Code

def height : Nat := 15

/-- Puts symbols into a tree of a height from the left. Each has the height at which it is to
stand, and those higher up come first. What finds no place is left over. -/
def grow : Nat → List (Nat × Nat) → Code × List (Nat × Nat)
  | _, [] => (unused, [])
  | 0, (_, first) :: rest => (symbol first, rest)
  | height + 1, (place, first) :: rest =>
    if height < place then (symbol first, rest)
    else
      let (zero, others) := grow height ((place, first) :: rest)
      let (one, others) := grow height others
      (fork zero one, others)

/-- The code of given lengths of words, one for each symbol. Shorter words come first, and words of
one length in the order of their symbols; a symbol of length zero has no word. -/
def ofLengths? (lengths : List Nat) : Option Code :=
  let numbered := lengths.zipIdx
  let ordered := (List.range' 1 height).flatMap fun length =>
    (numbered.filter (·.1 = length)).map fun entry => (height - length, entry.2)
  let (code, others) := grow height ordered
  if others.isEmpty then some code else none

def next : Code → Reader Nat
  | unused => fun _ => none
  | symbol value => pure value
  | fork zero one => do if ← bit then one.next else zero.next

end Code

end HistorySurvey.Deflate
