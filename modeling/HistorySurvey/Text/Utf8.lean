/-! Characters from bytes. What is not valid UTF-8 is shown by the replacement character, once for
each longest part that could have been the beginning of a character. -/
namespace HistorySurvey.Text

/-- What a first byte announces: how many bytes follow it, which values the next one may have, and
the bits of its own. -/
structure Lead where
  following : Nat
  low : Nat
  high : Nat
  bits : Nat

/-- The narrower second bytes rule out characters written too long, surrogates, and code points
past the last one. -/
def lead? (byte : Nat) : Option Lead :=
  if 0xc2 ≤ byte ∧ byte ≤ 0xdf then some ⟨1, 0x80, 0xbf, byte - 0xc0⟩
  else if byte = 0xe0 then some ⟨2, 0xa0, 0xbf, 0⟩
  else if byte = 0xed then some ⟨2, 0x80, 0x9f, 0xd⟩
  else if 0xe1 ≤ byte ∧ byte ≤ 0xef then some ⟨2, 0x80, 0xbf, byte - 0xe0⟩
  else if byte = 0xf0 then some ⟨3, 0x90, 0xbf, 0⟩
  else if 0xf1 ≤ byte ∧ byte ≤ 0xf3 then some ⟨3, 0x80, 0xbf, byte - 0xf0⟩
  else if byte = 0xf4 then some ⟨3, 0x80, 0x8f, 4⟩
  else none

def replacement : Char := '\uFFFD'

/-- The reader between two bytes: characters so far, the last one first, and the character begun,
with the number of bytes that it still needs. -/
structure Decoder where
  done : List Char
  begun : Option Lead
  valid : Bool

def Decoder.fail (d : Decoder) : Decoder :=
  { done := replacement :: d.done, begun := none, valid := false }

def Decoder.start (d : Decoder) (byte : Nat) : Decoder :=
  if byte < 0x80 then { d with done := Char.ofNat byte :: d.done, begun := none }
  else match lead? byte with
    | some lead => { d with begun := some lead }
    | none => d.fail

def Decoder.next (d : Decoder) (byte : UInt8) : Decoder :=
  let byte := byte.toNat
  match d.begun with
  | none => d.start byte
  | some lead =>
    if lead.low ≤ byte ∧ byte ≤ lead.high then
      let bits := lead.bits * 64 + (byte - 0x80)
      if lead.following = 1 then { d with done := Char.ofNat bits :: d.done, begun := none }
      else { d with begun := some ⟨lead.following - 1, 0x80, 0xbf, bits⟩ }
    else d.fail.start byte

def decodeAll (bytes : List UInt8) : Decoder :=
  let d := bytes.foldl Decoder.next ⟨[], none, true⟩
  if d.begun.isSome then d.fail else d

def lossyUtf8 (bytes : List UInt8) : String := String.ofList (decodeAll bytes).done.reverse

def utf8? (bytes : List UInt8) : Option String :=
  let d := decodeAll bytes
  if d.valid then some (String.ofList d.done.reverse) else none

end HistorySurvey.Text
