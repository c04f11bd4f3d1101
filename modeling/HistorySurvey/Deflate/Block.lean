import HistorySurvey.Deflate.Code

/-! Blocks of compressed data: bytes as they are, or symbols for bytes and for repetitions. -/
namespace HistorySurvey.Deflate

/-- Ranges that follow one another, each with its first number and the bits that choose within. -/
def ranges (first : Nat) : List Nat → List (Nat × Nat)
  | [] => []
  | bits :: rest => (first, bits) :: ranges (first + Nat.pow 2 bits) rest

/-- Lengths of repetitions. The greatest one has a symbol of its own. -/
def lengthRanges : List (Nat × Nat) :=
  ranges 3 [0, 0, 0, 0, 0, 0, 0, 0, 1, 1, 1, 1, 2, 2, 2, 2, 3, 3, 3, 3, 4, 4, 4, 4, 5, 5, 5, 5]
    ++ [(258, 0)]

def distanceRanges : List (Nat × Nat) :=
  ranges 1 [0, 0, 0, 0, 1, 1, 2, 2, 3, 3, 4, 4, 5, 5, 6, 6, 7, 7, 8, 8, 9, 9, 10, 10, 11, 11,
    12, 12, 13, 13]

def fromRange (ranges : List (Nat × Nat)) (index : Nat) : Reader Nat := do
  let (first, bits) ← (ranges[index]? : Option (Nat × Nat))
  pure (first + (← number bits))

/-- Repeats what was written so far back. A repetition may reach into itself. -/
def copyBack (distance : Nat) : Nat → Array UInt8 → Option (Array UInt8)
  | 0, written => some written
  | count + 1, written =>
    if distance ≤ written.size then do
      let byte ← written[written.size - distance]?
      copyBack distance count (written.push byte)
    else none

/-- The symbol that ends a block. Those before it are bytes, those after it lengths. -/
def endOfBlock : Nat := 256

/-- The symbols of a block, fewer than the limit. -/
def symbols (literals distances : Code) : Nat → Array UInt8 → Reader (Array UInt8)
  | 0, _ => fun _ => none
  | limit + 1, written => do
    let symbol ← literals.next
    if symbol < endOfBlock then
      symbols literals distances limit (written.push (UInt8.ofNat symbol))
    else if symbol = endOfBlock then pure written
    else
      let length ← fromRange lengthRanges (symbol - endOfBlock - 1)
      let distance ← fromRange distanceRanges (← distances.next)
      let written ← copyBack distance length written
      symbols literals distances limit written

def standardLiterals? : Option Code :=
  Code.ofLengths? (List.replicate 144 8 ++ List.replicate 112 9 ++ List.replicate 24 7
    ++ List.replicate 8 8)

def standardDistances? : Option Code := Code.ofLengths? (List.replicate 30 5)

/-- The order in which the lengths for the code of lengths are given. -/
def lengthOrder : List Nat := [16, 17, 18, 0, 8, 7, 9, 6, 10, 5, 11, 4, 12, 3, 13, 2, 14, 1, 15]

def wordLengths (code : Code) : Nat → Nat → List Nat → Reader (List Nat)
  | 0, _, _ => fun _ => none
  | limit + 1, wanted, before => do
    if wanted = 0 then pure before.reverse
    else
      let symbol ← code.next
      let (count, length) ← match symbol, before with
        | 16, last :: _ => do pure (3 + (← number 2), last)
        | 16, [] => fun _ => none
        | 17, _ => do pure (3 + (← number 3), 0)
        | 18, _ => do pure (11 + (← number 7), 0)
        | _, _ => pure (1, symbol)
      if wanted < count then fun _ => none
      else wordLengths code limit (wanted - count) (List.replicate count length ++ before)

def describedCodes : Reader (Code × Code) := do
  let literals := 257 + (← number 5)
  let distances := 1 + (← number 5)
  let described := 4 + (← number 4)
  let lengths ← (lengthOrder.take described).mapM fun symbol => do
    pure (symbol, ← number 3)
  let code ← Code.ofLengths? ((List.range 19).map fun symbol => (lengths.lookup symbol).getD 0)
  let wanted := literals + distances
  let all ← wordLengths code (wanted + 1) wanted []
  pure (← Code.ofLengths? (all.take literals), ← Code.ofLengths? (all.drop literals))

/-- A block without compression: its length, the complement of that, and its bytes. -/
def storedBlock (written : Array UInt8) : Reader (Array UInt8) := do
  skipToByte
  let length ← number 16
  let complement ← number 16
  if length + complement = 0xffff then pure (written ++ (← wholeBytes length))
  else fun _ => none

def block (limit : Nat) (written : Array UInt8) : Reader (Array UInt8) := do
  match ← number 2 with
  | 0 => storedBlock written
  | 1 => symbols (← standardLiterals?) (← standardDistances?) limit written
  | 2 => do
    let (literals, distances) ← describedCodes
    symbols literals distances limit written
  | _ => fun _ => none

/-- Blocks up to the one that says it is the last. -/
def blocks (limit : Nat) : Nat → Array UInt8 → Reader (Array UInt8)
  | 0, _ => fun _ => none
  | count + 1, written => do
    let last ← bit
    let written ← block limit written
    if last then pure written else blocks limit count written

/-- What was compressed. Every symbol and every block takes a bit at least, so there are not more
of them than bits. -/
def inflate? (bytes : List UInt8) : Option (List UInt8) :=
  let limit := 8 * bytes.length + 1
  ((blocks limit limit #[]).run ⟨bytes, 0⟩).map (·.1.toList)

/-- What was compressed, behind two bytes for the method and its options. Dictionaries are not
known. -/
def unpack? : List UInt8 → Option (List UInt8)
  | method :: options :: bytes =>
    if method.toNat % 16 = 8 ∧ (256 * method.toNat + options.toNat) % 31 = 0
        ∧ ¬options.toNat.testBit 5 then inflate? bytes
    else none
  | _ => none

end HistorySurvey.Deflate
