/-!
# Text from stored bytes

UTF-8 is decoded byte by byte. Every longest start of a sequence that no further byte can complete becomes one
replacement character, so no byte string is refused.
-/
namespace BlockImage.Text

/-- What is known of a character whose bytes are still coming in. -/
structure Pending where
  /-- Bytes that are still to come; zero between characters. -/
  missing : Nat := 0
  bits : Nat := 0
  /-- Bounds of the next byte. -/
  low : UInt8 := 0x80
  high : UInt8 := 0xBF

namespace Pending

def replacement : Char := '\uFFFD'

/-- The first byte of a character. -/
def start (byte : UInt8) : List Char × Pending :=
  if byte < 0x80 then ([Char.ofNat byte.toNat], {})
  else if byte < 0xC2 then ([replacement], {})
  else if byte < 0xE0 then ([], { missing := 1, bits := byte.toNat % 32 })
  else if byte < 0xF0 then
    ([], { missing := 2, bits := byte.toNat % 16,
           low := if byte = 0xE0 then 0xA0 else 0x80, high := if byte = 0xED then 0x9F else 0xBF })
  else if byte < 0xF5 then
    ([], { missing := 3, bits := byte.toNat % 8,
           low := if byte = 0xF0 then 0x90 else 0x80, high := if byte = 0xF4 then 0x8F else 0xBF })
  else ([replacement], {})

/-- One more byte: the characters it completes, and what is pending after it. -/
def push (pending : Pending) (byte : UInt8) : List Char × Pending :=
  match pending.missing with
  | 0 => start byte
  | missing + 1 =>
    if byte < pending.low ∨ pending.high < byte then
      let (chars, next) := start byte
      (replacement :: chars, next)
    else
      let bits := pending.bits * 64 + byte.toNat % 64
      if missing = 0 then ([Char.ofNat bits], {}) else ([], { missing, bits })

/-- The characters of the remaining bytes. -/
def decode (pending : Pending) : List UInt8 → List Char
  | [] => if pending.missing = 0 then [] else [replacement]
  | byte :: rest =>
    let (chars, next) := pending.push byte
    chars ++ next.decode rest

end Pending

/-- Decodes bytes as UTF-8; what is not UTF-8 becomes replacement characters. -/
def decodeLossy (bytes : List UInt8) : String := String.ofList (({} : Pending).decode bytes)

end BlockImage.Text
