/-!
# Bytes — texts as the bytes that a wire carries

A text goes onto the wire as its UTF-8 bytes, and lengths of texts are counted in these bytes.
Bytes that are known to be ASCII come back as a text with `ofAscii`; bytes of which nothing is known
come back with `ofBytesLossy`, which puts the replacement character for every ill-formed part.
-/

namespace TicMeter
namespace Text

/-- The UTF-8 bytes of a text. -/
def bytes (s : String) : List UInt8 :=
  s.toList.flatMap String.utf8EncodeChar

def byteLength (s : String) : Nat :=
  (bytes s).length

/-- The text whose characters have the given numbers. -/
def ofAscii (bs : List UInt8) : String :=
  String.ofList (bs.map fun b => Char.ofNat b.toNat)

def isAsciiByte (b : UInt8) : Bool :=
  b < 0x80

def isGraphicByte (b : UInt8) : Bool :=
  0x21 ≤ b && b ≤ 0x7E

/-! ## Ill-formed bytes -/

/-- A character of which some bytes have been read: how many are still missing, the bounds that the
next one must keep, and the bits read so far. -/
structure PartialChar where
  missing : Nat
  low : UInt8
  high : UInt8
  bits : Nat
  deriving DecidableEq, Repr

inductive LeadByte
  | whole (c : Char)
  | opens (p : PartialChar)
  | illFormed
  deriving DecidableEq

/-- The bounds on the second byte keep out overlong forms, surrogates and numbers past U+10FFFF. -/
def leadByte (b : UInt8) : LeadByte :=
  if b < 0x80 then .whole (Char.ofNat b.toNat)
  else if b < 0xC2 then .illFormed
  else if b < 0xE0 then .opens ⟨1, 0x80, 0xBF, b.toNat - 0xC0⟩
  else if b < 0xF0 then
    .opens ⟨2, if b = 0xE0 then 0xA0 else 0x80, if b = 0xED then 0x9F else 0xBF, b.toNat - 0xE0⟩
  else if b < 0xF5 then
    .opens ⟨3, if b = 0xF0 then 0x90 else 0x80, if b = 0xF4 then 0x8F else 0xBF, b.toNat - 0xF0⟩
  else .illFormed

def replacement : Char := '\uFFFD'

/-- Reads characters, with one replacement character for each longest ill-formed part. -/
def lossyChars : Option PartialChar → List UInt8 → List Char
  | none, [] => []
  | some _, [] => [replacement]
  | none, b :: rest =>
      match leadByte b with
      | .whole c => c :: lossyChars none rest
      | .opens p => lossyChars (some p) rest
      | .illFormed => replacement :: lossyChars none rest
  | some p, b :: rest =>
      if p.low ≤ b && b ≤ p.high then
        let bits := p.bits * 64 + (b.toNat - 0x80)
        if p.missing ≤ 1 then Char.ofNat bits :: lossyChars none rest
        else lossyChars (some ⟨p.missing - 1, 0x80, 0xBF, bits⟩) rest
      else
        match leadByte b with
        | .whole c => replacement :: c :: lossyChars none rest
        | .opens p => replacement :: lossyChars (some p) rest
        | .illFormed => replacement :: replacement :: lossyChars none rest

/-- The text that the bytes spell, with replacement characters where they spell none. -/
def ofBytesLossy (bs : List UInt8) : String :=
  String.ofList (lossyChars none bs)

def ofBytes? (bs : List UInt8) : Option String :=
  let s := ofBytesLossy bs
  if bytes s = bs then some s else none

end Text
end TicMeter
